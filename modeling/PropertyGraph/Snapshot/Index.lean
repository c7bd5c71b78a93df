/-
# Indexes of a snapshot

Questions about single nodes are answered from three groupings of a graph: nodes by identifier,
relationships by the node they start at, nodes by label.  They are built together in one pass, and
every group keeps the order of the graph.
-/
import PropertyGraph.Snapshot.Basic
import PropertyGraph.Value.Key

namespace PropertyGraph

/-- The groupings of a graph. -/
structure Index where
  /-- Each node under its identifier. -/
  byId : OrderedMap Ident Node
  /-- The relationships that start at a node, under its identifier. -/
  bySource : OrderedMap Ident (List Relationship)
  /-- The nodes that carry a label, under the label. -/
  byLabel : OrderedMap String (List Node)

/-- A member added at the end of the group under a key. -/
def OrderedMap.addTo {κ α : Type} [BEq κ] (m : OrderedMap κ (List α)) (k : κ) (x : α) :
    OrderedMap κ (List α) :=
  m.insert k ((m.find? k).getD [] ++ [x])

namespace Index

/-- The groupings of a list of nodes and a list of relationships. -/
def build (nodes : List Node) (relationships : List Relationship) : Index where
  byId := .ofList (nodes.map fun n => (n.id, n))
  bySource := relationships.foldl (fun m r => m.addTo r.source r) .empty
  byLabel := nodes.foldl (fun m n => n.labels.toList.foldl (fun m l => m.addTo l n) m) .empty

/-- The node with an identifier. -/
def node? (ix : Index) (id : Ident) : Option Node := ix.byId.find? id

/-- The relationships that start at a node, in the order of the graph. -/
def outgoing (ix : Index) (id : Ident) : List Relationship := (ix.bySource.find? id).getD []

/-- The nodes that carry a label, in the order of the graph. -/
def nodesWithLabel (ix : Index) (label : String) : List Node := (ix.byLabel.find? label).getD []

end Index

/-- The groupings of a graph. -/
def Snapshot.index (g : Snapshot) : Index := .build g.nodes g.relationships

/-- The identifier that a value finds as a key: a whole number however it is spelled, or a text. -/
def Ident.ofKey? (v : Value) : Option Ident :=
  match v.keyContent? with
  | some (.text s) => some (.text s)
  | some (.bool b) => some (.int (if b then 1 else 0))
  | some (.number (.int i)) => some (.int i)
  | some (.number (.double x)) => x.toInt?.map .int
  | some (.complex re im) => if im.isZero then re.toInt?.map .int else none
  | _ => none

end PropertyGraph
