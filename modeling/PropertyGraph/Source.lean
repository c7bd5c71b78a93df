/-
# Graphs in any form

A graph to compare may be given as a snapshot, as a network or as a plain map; anything else is
refused by the name of its type.  The comparisons of `PropertyGraph.Comparison` are offered here
for graphs in any form: the actual graph is read before the expected one, and both before they are
compared.
-/
import PropertyGraph.Comparison
import PropertyGraph.Network.Snapshot

namespace PropertyGraph

/-- A graph in some form, or something that is none. -/
inductive Source
  | snapshot (s : Snapshot)
  | network (g : Network)
  | value (v : Value)

/-- Why a comparison of graphs in any form has no positive result. -/
inductive Failure
  /-- One of them is no graph. -/
  | source (fault : SourceFault)
  /-- The comparison fails. -/
  | comparison (failure : ComparisonFailure)

namespace Source

/-- A graph in any form as a snapshot. -/
def toSnapshot : Source → Attempt SourceFault Snapshot
  | .snapshot s => return s
  | .network g => g.readSnapshot
  | .value (.map fields) =>
    Attempt.ofExcept ((Snapshot.ofFields fields).mapError (.invalid .graph))
  | .value v => throw (.notGraph v.typeName)

/-- A comparison of two graphs in any form. -/
def compare {α : Type} (actual expected : Source)
    (comparison : Snapshot → Snapshot → Attempt ComparisonFailure α) : Attempt Failure α := do
  let a ← actual.toSnapshot.withFailure .source
  let e ← expected.toSnapshot.withFailure .source
  (comparison a e).withFailure .comparison

end Source

/-- The first embedding of the expected graph, if there is one. -/
def Source.findEmbedding (actual expected : Source) (s : Settings) :
    Attempt Failure (Option Mapping) :=
  Source.compare actual expected fun a e => PropertyGraph.findEmbedding a e s

/-- An embedding of the expected graph. -/
def Source.assertSubgraph (actual expected : Source) (s : Settings) : Attempt Failure Mapping :=
  Source.compare actual expected fun a e => PropertyGraph.assertSubgraph a e s

/-- An embedding of the expected graph in an actual graph with equally many elements. -/
def Source.assertSameGraph (actual expected : Source) (s : Settings) : Attempt Failure Mapping :=
  Source.compare actual expected fun a e => PropertyGraph.assertSameGraph a e s

/-- Whether the expected graph can be embedded. -/
def Source.isSubgraph (actual expected : Source) (s : Settings) : Attempt Failure Bool :=
  Source.compare actual expected fun a e => PropertyGraph.isSubgraph a e s

/-- Whether two graphs are the same as far as the comparison can tell. -/
def Source.isSameGraph (actual expected : Source) (s : Settings) : Attempt Failure Bool :=
  Source.compare actual expected fun a e => PropertyGraph.isSameGraph a e s

end PropertyGraph
