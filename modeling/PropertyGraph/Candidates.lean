/-
# Candidates

The candidates of an expected node are the actual nodes equivalent to it.  With pruning, only the
actual nodes that carry its first label are looked at; equivalence decides either way.
-/
import PropertyGraph.IdentSet
import PropertyGraph.Snapshot.Index

namespace PropertyGraph

/-- The candidates of every expected node, in the order of the expected graph. -/
abbrev CandidateIndex := OrderedMap Ident IdentSet

/-- The actual nodes that are looked at in search of counterparts of a node, given the groupings
of the actual graph. -/
def candidatePool (actual : Snapshot) (groups : Index) (pruning : Bool) (node : Node) : List Node :=
  match pruning, node.labels.first? with
  | true, some label => groups.nodesWithLabel label
  | _, _ => actual.nodes

/-- The identifiers of the nodes of a pool that are equivalent to a node, in order. -/
def candidatesIn (pool : List Node) (node : Node) : IdentSet :=
  .ofList ((pool.filter fun c => node.equivalent c).map Node.id)

/-- The identifiers of the actual nodes equivalent to a node, in the order of the actual graph. -/
def findCandidates (actual : Snapshot) (pruning : Bool) (node : Node) : IdentSet :=
  candidatesIn (candidatePool actual actual.index pruning node) node

namespace CandidateIndex

/-- An index extended by the candidates of more expected nodes; the first of them without a
candidate stands in the way. -/
def extend (candidates : Node → IdentSet) (index : CandidateIndex) :
    List Node → Except Node CandidateIndex
  | [] => .ok index
  | node :: nodes =>
    let found := candidates node
    if found.size = 0 then .error node
    else extend candidates (index.insert node.id found) nodes

/-- The candidates of all expected nodes, or the first node that has none, given the groupings of
the actual graph. -/
def buildFrom (groups : Index) (actual expected : Snapshot) (pruning : Bool) :
    Except Node CandidateIndex :=
  extend (fun node => candidatesIn (candidatePool actual groups pruning node) node) .empty
    expected.nodes

/-- The candidates of all expected nodes, or the first node that has none. -/
def build (actual expected : Snapshot) (pruning : Bool) : Except Node CandidateIndex :=
  buildFrom actual.index actual expected pruning

/-- The number of expected nodes with several candidates. -/
def ambiguous (index : CandidateIndex) : Nat :=
  index.entries.countP fun e => 1 < e.2.size

end CandidateIndex

end PropertyGraph
