/-
# Changes to networks

A network is built by changes, one after another, starting from the network without vertices.  The
first change that is refused ends the building.
-/
import PropertyGraph.Network.Basic

namespace PropertyGraph

/-- A change to a network. -/
inductive Change
  /-- A vertex is added, or given more attributes. -/
  | addVertex (name : Value) (attributes : List (Value × Value))
  /-- An edge is added, or given more attributes. -/
  | addEdge (source target : Value) (attributes : List (Value × Value)) (key : Option Value)
  /-- A vertex is removed, with all edges at it. -/
  | removeVertex (name : Value)
  /-- An edge is removed. -/
  | removeEdge (source target : Value) (key : Option Value)

namespace Network

/-- The network after a change. -/
def apply (g : Network) : Change → Except NetworkFault Network
  | .addVertex name attributes => g.addVertex name attributes
  | .addEdge source target attributes key => g.addEdge source target attributes key
  | .removeVertex name => g.removeVertex name
  | .removeEdge source target key => g.removeEdge source target key

/-- The network after changes made one after another. -/
def applyAll (g : Network) (changes : List Change) : Except NetworkFault Network :=
  changes.foldlM apply g

end Network

end PropertyGraph
