/-
# Nodes and relationships

The elements of a property graph.  A node carries a set of labels, a relationship one type and
two end points; both carry properties and an identifier that means something inside its own graph
only.  Two elements are equivalent when they cannot be told apart once identifiers are ignored.
-/
import PropertyGraph.NameSet
import PropertyGraph.Property.Equality

namespace PropertyGraph

/-- An identifier.  A whole number and its text are different identifiers. -/
inductive Ident
  | int (i : Int)
  | text (s : String)
deriving DecidableEq, Repr, Inhabited

namespace Ident

/-- An identifier as a value. -/
def toValue : Ident → Value
  | .int i => .int i
  | .text s => .text s

/-- An identifier as it is quoted inside a message. -/
def written (i : Ident) : String := i.toValue.written

/-- An identifier as a text of its own. -/
def shown (i : Ident) : String := i.toValue.shown

/-- Whether an identifier can be written. -/
def isWritable (i : Ident) : Bool := i.toValue.isWritable

/-- Whole numbers come first, in ascending order, then texts by their code points. -/
def before : Ident → Ident → Bool
  | .int i, .int j => i ≤ j
  | .int _, .text _ => true
  | .text _, .int _ => false
  | .text s, .text t => s ≤ t

end Ident

/-- A node. -/
structure Node where
  /-- Identifies the node within its graph. -/
  id : Ident
  /-- The labels of the node. -/
  labels : NameSet
  /-- The properties of the node. -/
  properties : Properties
deriving DecidableEq

/-- A relationship, directed from its source to its target. -/
structure Relationship where
  /-- Identifies the relationship within its graph. -/
  id : Ident
  /-- The type of the relationship. -/
  type : String
  /-- The node at which the relationship starts. -/
  source : Ident
  /-- The node at which the relationship ends. -/
  target : Ident
  /-- The properties of the relationship. -/
  properties : Properties
  /-- A type is not empty. -/
  type_ne_empty : type ≠ ""
deriving DecidableEq

/-- A node inside a message, its labels in ascending order, each after a colon. -/
def Node.written (n : Node) : String :=
  "Node[" ++ n.id.shown ++ "](" ++ String.join (n.labels.toList.map (":" ++ ·)) ++ " " ++
    n.properties.toValue.written ++ ")"

/-- A relationship inside a message. -/
def Relationship.written (r : Relationship) : String :=
  "Relationship[" ++ r.id.shown ++ "](" ++ r.source.shown ++ ")-[:" ++ r.type ++ " " ++
    r.properties.toValue.written ++ "]->(" ++ r.target.shown ++ ")"

/-- Whether a node can be written. -/
def Node.isWritable (n : Node) : Bool := n.id.isWritable && n.properties.toValue.isWritable

/-- A node inside a message, if it can be written. -/
def Node.written? (n : Node) : Except WritingFault String :=
  if n.isWritable then .ok n.written else .error .tooManyDigits

/-- Whether a relationship can be written. -/
def Relationship.isWritable (r : Relationship) : Bool :=
  r.id.isWritable && r.source.isWritable && r.target.isWritable && r.properties.toValue.isWritable

/-- A relationship inside a message, if it can be written. -/
def Relationship.written? (r : Relationship) : Except WritingFault String :=
  if r.isWritable then .ok r.written else .error .tooManyDigits

/-- Nodes are equivalent when they have the same labels and equal properties. -/
def Node.equivalent (a b : Node) : Bool :=
  a.labels = b.labels && Properties.equal a.properties b.properties

/-- Relationships are equivalent when they have the same type and equal properties; what they
connect is compared elsewhere, under a mapping of the nodes. -/
def Relationship.equivalent (a b : Relationship) : Bool :=
  a.type == b.type && Properties.equal a.properties b.properties

end PropertyGraph
