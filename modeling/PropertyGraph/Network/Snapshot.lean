/-
# Networks as graphs

A network is read as a property graph: the attribute `labels` of a vertex holds its labels, the
attribute `type` of an edge its type, and all other attributes are properties.  Relationships are
numbered in the order in which the edges are met.  A property graph is rendered as a network with
directed parallel edges by the same convention.
-/
import PropertyGraph.Network.Basic
import PropertyGraph.Payload
import PropertyGraph.Event

namespace PropertyGraph

/-- Why something cannot be read as a graph. -/
inductive SourceFault
  /-- The value holds no labels. -/
  | labels (given : Value)
  /-- The labels are an array without a dimension. -/
  | labelsWithoutDimension
  /-- An edge has no type. -/
  | edgeWithoutType (source target : Value)
  /-- The type of an edge is an array, which may be empty, that is neither true nor false. -/
  | ambiguousType (empty : Bool)
  /-- The table of nodes has no identifiers. -/
  | noIdColumn
  /-- The table of relationships lacks columns. -/
  | missingColumns (names : List String)
  /-- A point in time in a table lies outside the years that a reader of it can tell. -/
  | yearOutOfRange (year : Int)
  /-- The value is no graph in any form. -/
  | notGraph (typeName : String)
  /-- A value that is to become a text, or to be quoted in another fault, cannot be written. -/
  | unwritable (fault : WritingFault)
  /-- Something that was read is not in order. -/
  | invalid (subject : Subject) (faults : List FieldFault)

namespace SourceFault

/-- The wording of a fault; what is not in order has its own wordings. -/
def message : SourceFault → String
  | .labels given => "Cannot interpret labels: " ++ given.written
  | .labelsWithoutDimension => "iteration over a 0-d array"
  | .edgeWithoutType u v => "Edge " ++ u.written ++ "->" ++ v.written ++ " has no 'type' attribute"
  | .ambiguousType true =>
    "The truth value of an empty array is ambiguous. " ++
      "Use `array.size > 0` to check that an array is not empty."
  | .ambiguousType false =>
    "The truth value of an array with more than one element is ambiguous. Use a.any() or a.all()"
  | .noIdColumn => "Node frame needs an 'id' column"
  | .missingColumns names =>
    "Relationship frame is missing columns: " ++ (Value.list (names.map .text)).written
  | .yearOutOfRange year => s!"year {year} is out of range"
  | .notGraph typeName => "Cannot build a graph snapshot from " ++ typeName
  | .unwritable fault => fault.message
  | .invalid _ _ => ""

/-- A fault that quotes some values, or that they cannot be written. -/
def quoting (values : List Value) (fault : SourceFault) : SourceFault :=
  if values.all Value.isWritable then fault else .unwritable .tooManyDigits

end SourceFault

/-- A foreign value as a text, if it can be written. -/
def Value.foreignText? (v : Value) : Except SourceFault String := v.shown?.mapError .unwritable

/-- Whether a foreign value can become an identifier: if it is no number, it can be written. -/
def Value.canIdentify (v : Value) : Bool :=
  match v.plain with
  | .number _ => true
  | w => w.isWritable

namespace Ident

/-- The identifier that a foreign value becomes: whole numbers and texts stay, anything else
becomes its text. -/
def ofForeign (v : Value) : Ident :=
  match v.plain with
  | .number (.int i) => .int i
  | .text s => .text s
  | w => .text w.shown

/-- The identifier that a foreign value becomes, if its text can be written. -/
def ofForeign? (v : Value) : Except SourceFault Ident :=
  if v.canIdentify then .ok (ofForeign v) else .error (.unwritable .tooManyDigits)

end Ident

/-- The non-empty parts of a text between colons. -/
def colonParts (s : String) : List String :=
  ((s.toList.splitOn ':').filter fun part => part ≠ []).map String.ofList

/-- The labels that a foreign value holds: none if it is missing, the parts of a text between
colons, or the members of a collection by their texts. -/
def parseLabels (v : Value) : Except SourceFault (List String) :=
  match v.asText? with
  | some s => .ok (colonParts s)
  | none => match v.members?, v with
    | some items, _ => items.mapM Value.foreignText?
    | none, .array _ _ _ _ => .error .labelsWithoutDimension
    | none, v => if v.isMissing then .ok [] else .error (.quoting [v] (.labels v))

/-- A node from its parts, the properties being given as values. -/
def Node.ofParts? (id : Ident) (labels : List String) (properties : List (Value × Value)) :
    Except SourceFault Node :=
  let checked := Checked.under (.name "properties") (readProperties (.map properties))
  (checked.map fun properties => ⟨id, .ofList labels, properties⟩).mapError (.invalid .node)

/-- A relationship from its parts, the properties being given as values. -/
def Relationship.ofParts? (id : Ident) (type : String) (source target : Ident)
    (properties : List (Value × Value)) : Except SourceFault Relationship :=
  let checked :=
    Checked.both (Checked.under (.name "type") (readType (.text type)))
      (Checked.under (.name "properties") (readProperties (.map properties)))
  (checked.map fun (type, properties) =>
    Relationship.ofType id type source target properties).mapError (.invalid .relationship)

/-- A graph from elements that should fit together. -/
def Snapshot.ofParts? (nodes : List Node) (relationships : List Relationship) :
    Except SourceFault Snapshot :=
  (Snapshot.ofElements? nodes relationships).mapError fun fault =>
    .invalid .graph [⟨[], .ofIntegrity fault⟩]

namespace Network

/-- The attribute that holds the labels of a vertex. -/
def labelsKey : String := "labels"

/-- The attribute that holds the type of an edge. -/
def typeKey : String := "type"

/-- A vertex read as a node. -/
def readVertex (v : Vertex) : Except SourceFault Node := do
  let labels ← parseLabels ((v.attributes.find? (.text labelsKey)).getD .null)
  let id ← Ident.ofForeign? v.name
  Node.ofParts? id labels (v.attributes.erase (.text labelsKey)).entries

/-- An edge read as the relationship of some number. -/
def readEdge (e : Edge) (position : Nat) : Except SourceFault Relationship :=
  let type := (e.attributes.find? (.text typeKey)).getD .null
  match type.truth? with
  | none => .error (.ambiguousType (match type with
    | .array _ _ _ [] => true
    | _ => false))
  | some false => .error (.quoting [e.source, e.target] (.edgeWithoutType e.source e.target))
  | some true => do
    let text ← type.foreignText?
    let source ← Ident.ofForeign? e.source
    let target ← Ident.ofForeign? e.target
    Relationship.ofParts? (.int position) text source target
      (e.attributes.erase (.text typeKey)).entries

/-- A network read as a graph. -/
def toSnapshot? (g : Network) : Except SourceFault Snapshot := do
  let nodes ← g.vertices.mapM readVertex
  let relationships ← g.edges.zipIdx.mapM fun (e, i) => readEdge e i
  Snapshot.ofParts? nodes relationships

/-- A network read as a graph, reported on. -/
def readSnapshot (g : Network) : Attempt SourceFault Snapshot := do
  let s ← Attempt.ofExcept g.toSnapshot?
  Attempt.log (.networkRead s.nodes.length s.relationships.length g.directed)
  return s

end Network

/-! ### Rendering -/

/-- Why a graph cannot be rendered as a network. -/
inductive RenderFault
  /-- A node has a property of the name that is taken by its labels. -/
  | labelsTaken
  /-- A relationship has a property of the name that is taken by its type. -/
  | typeTaken
  /-- A property has a name that attributes cannot have. -/
  | reservedName (name : String)
  /-- The network refuses an element. -/
  | network (fault : NetworkFault)

/-- The wording of a fault. -/
def RenderFault.message : RenderFault → String
  | .labelsTaken => "Node property 'labels' clashes with the label attribute"
  | .typeTaken => "Relationship property 'type' clashes with the type attribute"
  | .reservedName name => "got multiple values for argument '" ++ name ++ "'"
  | .network fault => fault.message

namespace Network

/-- The names that attributes of a vertex cannot have, because adding a vertex gives them another
meaning. -/
def reservedForVertices : List String := ["self", "node_for_adding"]

/-- The names that attributes of an edge cannot have. -/
def reservedForEdges : List String := ["self", "u_for_edge", "v_for_edge", "key"]

/-- Properties as attributes, behind an attribute of their own. -/
def attributesOf (key : String) (value : Value) (properties : Properties) : List (Value × Value) :=
  (.text key, value) :: properties.entries.map fun e => (.text e.1, e.2.toValue)

/-- A node added to a network. -/
def renderNode (g : Network) (n : Node) : Except RenderFault Network := do
  if n.properties.contains labelsKey then throw .labelsTaken
  if let some name := reservedForVertices.find? n.properties.contains then
    throw (.reservedName name)
  let labels := Value.list (n.labels.toList.map .text)
  (g.addVertex n.id.toValue (attributesOf labelsKey labels n.properties)).mapError .network

/-- A relationship added to a network, its identifier being the key of the edge. -/
def renderRelationship (g : Network) (r : Relationship) : Except RenderFault Network := do
  if r.properties.contains typeKey then throw .typeTaken
  if let some name := reservedForEdges.find? r.properties.contains then
    throw (.reservedName name)
  (g.addEdge r.source.toValue r.target.toValue (attributesOf typeKey (.text r.type) r.properties)
    (some r.id.toValue)).mapError .network

/-- A graph rendered as a network. -/
def ofSnapshot? (s : Snapshot) : Except RenderFault Network := do
  let g ← s.nodes.foldlM renderNode (.empty true true)
  s.relationships.foldlM renderRelationship g

end Network

end PropertyGraph
