/-
# Graphs in draft

A draft is a property graph before it takes any form: elements with identifiers, labels and types,
and with properties whose values are still as they were given.  It can be written as a plain map
(`Draft.payload`), as changes to a network without vertices (`Draft.changes`) or as two tables
(`Draft.Frames`), and it is to be read as one graph (`Draft.graph`).

Two graphs are alike when they tell the same nodes in the same order, and the same relationships in
any order, whatever the identifiers of the relationships and the order of the properties.
-/
import PropertyGraph.Network.Change
import PropertyGraph.Proofs.Table.Rows

namespace PropertyGraph

/-- The names that mean something of their own in one of the forms. -/
def structuralNames : List String := ["id", "labels", "type", "start", "end"]

/-- A value that can be stored and that marks no missing cell. -/
structure GivenProperty where
  value : Value
  /-- What the value is stored as. -/
  property : Property
  stored : Property.ofValue? value = .ok property
  present : value.isMissing = false

/-- The properties of an element, as they are given. -/
structure PropertyDraft where
  given : OrderedMap String GivenProperty
  free : ∀ k ∈ given.keys, k ∉ structuralNames

namespace PropertyDraft

variable (ps : PropertyDraft)

/-- The properties as they are stored. -/
def properties : Properties := ps.given.mapEntries fun _ g => g.property

/-- The values as they are given, under their keys. -/
def pairs : List (Value × Value) := ps.given.entries.map fun e => (.text e.1, e.2.value)

end PropertyDraft

/-- A label that can stand between colons. -/
abbrev PlainLabel := { s : String // s ≠ "" ∧ ':' ∉ s.toList }

/-- A node in draft. -/
structure NodeDraft where
  id : Ident
  labels : List PlainLabel
  properties : PropertyDraft

/-- A relationship in draft. -/
structure RelationshipDraft where
  id : Ident
  type : RelationshipType
  source : Ident
  target : Ident
  properties : PropertyDraft

namespace NodeDraft

variable (n : NodeDraft)

/-- The names of the labels. -/
def names : List String := n.labels.map Subtype.val

/-- The labels in a list. -/
def labelList : Value := .list (n.names.map .text)

/-- The node to be read. -/
def node : Node := ⟨n.id, .ofList n.names, n.properties.properties⟩

/-- The node as a map. -/
def fields : Fields :=
  [(.text "id", n.id.toValue), (.text "labels", n.labelList),
    (.text "properties", .map n.properties.pairs)]

/-- The attributes of the node as a vertex. -/
def attributes : List (Value × Value) := (.text "labels", n.labelList) :: n.properties.pairs

end NodeDraft

namespace RelationshipDraft

variable (r : RelationshipDraft)

/-- The relationship to be read. -/
def relationship : Relationship :=
  .ofType r.id r.type r.source r.target r.properties.properties

/-- The relationship as a map. -/
def fields : Fields :=
  [(.text "id", r.id.toValue), (.text "type", .text r.type), (.text "start", r.source.toValue),
    (.text "end", r.target.toValue), (.text "properties", .map r.properties.pairs)]

/-- The attributes of the relationship as an edge. -/
def attributes : List (Value × Value) := (.text "type", .text r.type) :: r.properties.pairs

end RelationshipDraft

/-- A property graph in draft. -/
structure Draft where
  nodes : List NodeDraft
  relationships : List RelationshipDraft
  /-- The elements fit together. -/
  consistent : Consistent (nodes.map NodeDraft.node)
    (relationships.map RelationshipDraft.relationship)

/-! ### Tables -/

/-- The columns for the properties of some elements: one for every key, with missing cells where an
element does not have the property. -/
structure PropertyColumns {α : Type} (elements : List α) (properties : α → PropertyDraft) where
  keys : List String
  nodup : keys.Nodup
  free : ∀ k ∈ keys, k ∉ structuralNames
  covers : ∀ a ∈ elements, ∀ k ∈ (properties a).given.keys, k ∈ keys
  /-- What stands in a cell that is missing. -/
  blank : String → α → Value
  missing : ∀ k a, (blank k a).isMissing = true

namespace PropertyColumns

variable {α : Type} {elements : List α} {properties : α → PropertyDraft}
  (c : PropertyColumns elements properties)

/-- The cell of an element under some key. -/
def cell (k : String) (a : α) : Value :=
  match (properties a).given.find? k with
  | some g => g.value
  | none => c.blank k a

/-- The columns, in the order of the keys. -/
def columns : List (CellsOf α) := c.keys.map fun k => (k, c.cell k)

end PropertyColumns

/-- The labels of a node in a cell: in a list, or joined by colons. -/
def NodeDraft.labelCell (joined : NodeDraft → Bool) (n : NodeDraft) : Value :=
  if joined n then .text (":".intercalate n.names) else n.labelList

namespace Draft

/-- How a draft is laid out in two tables; the columns of a table may stand in any order. -/
structure Frames (d : Draft) where
  nodeProperties : PropertyColumns d.nodes NodeDraft.properties
  relationshipProperties : PropertyColumns d.relationships RelationshipDraft.properties
  /-- The nodes whose labels are joined by colons. -/
  joined : NodeDraft → Bool
  /-- Whether there is a column for the identifiers of the relationships. -/
  identified : Bool
  nodeColumns : List (CellsOf NodeDraft)
  relationshipColumns : List (CellsOf RelationshipDraft)
  nodeColumns_perm : nodeColumns.Perm (
    ("id", fun n => n.id.toValue) :: ("labels", NodeDraft.labelCell joined) ::
      nodeProperties.columns)
  relationshipColumns_perm : relationshipColumns.Perm (
    ("start", fun r => r.source.toValue) :: ("end", fun r => r.target.toValue) ::
      ("type", fun r => .text r.type) ::
      ((if identified then [("id", fun r => r.id.toValue)] else []) ++
        relationshipProperties.columns))

variable (d : Draft)

/-- The graph to be read. -/
def graph : Snapshot where
  nodes := d.nodes.map NodeDraft.node
  relationships := d.relationships.map RelationshipDraft.relationship
  consistent := d.consistent

/-- The draft as a plain map. -/
def payload : Fields :=
  [(.text "nodes", .list (d.nodes.map fun n => .map n.fields)),
    (.text "relationships", .list (d.relationships.map fun r => .map r.fields))]

/-- The changes that build the draft as a network: the nodes in order, then the relationships, whose
edges get no keys. -/
def changes : List Change :=
  d.nodes.map (fun n => .addVertex n.id.toValue n.attributes) ++
    d.relationships.map fun r =>
      .addEdge r.source.toValue r.target.toValue r.attributes none

/-- The table of the nodes. -/
def Frames.nodeTable {d : Draft} (f : d.Frames) : Table := tableOf f.nodeColumns d.nodes

/-- The table of the relationships. -/
def Frames.relationshipTable {d : Draft} (f : d.Frames) : Table :=
  tableOf f.relationshipColumns d.relationships

end Draft

/-! ### Graphs that are alike -/

/-- What a node tells, whatever the order of its properties. -/
def Node.description (n : Node) : Ident × NameSet × (String → Option Property) :=
  (n.id, n.labels, n.properties.find?)

/-- What a relationship tells, whatever its identifier and the order of its properties. -/
def Relationship.description (r : Relationship) :
    String × Ident × Ident × (String → Option Property) :=
  (r.type, r.source, r.target, r.properties.find?)

/-- Two graphs tell the same nodes in the same order, and the same relationships. -/
structure Snapshot.Alike (s t : Snapshot) : Prop where
  nodes : s.nodes.map Node.description = t.nodes.map Node.description
  relationships :
    (s.relationships.map Relationship.description).Perm
      (t.relationships.map Relationship.description)

end PropertyGraph
