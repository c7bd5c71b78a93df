/-
# Comparison of graphs

An expected graph is embedded in an actual one by a mapping of its nodes to equivalent nodes, no
two to the same, that carries its relationships over.  `findEmbedding` searches for one,
`assertSubgraph` insists on one, and `assertSameGraph` moreover insists on equal numbers of
elements.  Identifiers are never compared across the two graphs.
-/
import PropertyGraph.Embedding
import PropertyGraph.Settings.Basic

namespace PropertyGraph

/-- Why the actual graph does not match the expected one. -/
inductive Mismatch
  /-- The graphs have different numbers of some sort of elements. -/
  | count (of : Counted) (actual expected : Nat)
  /-- An expected node has no equivalent actual node. -/
  | noCandidate (node : Node)
  /-- None of so many mappings of the nodes is an embedding. -/
  | noEmbedding (checked : Nat)

namespace Mismatch

/-- The wording for different numbers of something. -/
def countMessage (noun : String) (actual expected : Int) : String :=
  s!"There are different numbers of {noun} in the two graphs (actual={actual}, expected={expected})"

/-- The wording for a node without a counterpart. -/
def noCandidateMessage (node : String) : String := "There is no corresponding node to " ++ node

/-- The wording for a search in vain, with the number of mappings if it is known. -/
def noEmbeddingMessage (checked : Option Int) : String :=
  "There is no corresponding relationship mapping for any of the possible node mappings" ++
    match checked with
    | some n => s!" ({n} checked)"
    | none => ""

/-- The wording of a mismatch. -/
def message : Mismatch → String
  | .count of a e => countMessage of.noun a e
  | .noCandidate node => noCandidateMessage node.written
  | .noEmbedding checked => noEmbeddingMessage (some checked)

end Mismatch

/-- The short code for different numbers of elements of a sort. -/
def Counted.reason : Counted → String
  | .nodes => "node_count_mismatch"
  | .labels => "label_count_mismatch"
  | .propertyKeys => "property_key_count_mismatch"
  | .relationships => "relationship_count_mismatch"
  | .relationshipTypes => "relationship_type_count_mismatch"

/-- The short code of a mismatch. -/
def Mismatch.reason : Mismatch → String
  | .count of _ _ => of.reason
  | .noCandidate _ => "no_candidate_for_node"
  | .noEmbedding _ => "no_valid_mapping"

/-- Why a comparison has no positive result. -/
inductive ComparisonFailure
  /-- The graphs do not match. -/
  | mismatch (m : Mismatch)
  /-- A relationship ends at a node that a mapping does not cover. -/
  | unmapped (id : Ident)
  /-- A node without a counterpart cannot be named. -/
  | unwritable (fault : WritingFault)

/-! ### Searching -/

/-- Where a search stands: the number of mappings that were rejected, and the events on the way,
the latest first. -/
structure SearchState where
  /-- The number of rejected mappings. -/
  rejected : Nat
  /-- The events so far, the latest first. -/
  events : List Event

/-- How a search ends early: after so many mappings, with an embedding or with an end of a
relationship that the last mapping does not cover. -/
structure SearchStop where
  /-- The number of mappings that were checked, the last one included. -/
  checked : Nat
  /-- The events so far, the latest first. -/
  events : List Event
  /-- The embedding, or the end that is not covered. -/
  outcome : Except Ident Mapping

/-- Checks one mapping: an embedding ends the search, any other mapping is counted, and after every
so many of them progress is reported. -/
def checkMapping (check : Mapping → Except Ident Bool) (every : Int) (s : SearchState)
    (m : Mapping) : Visit SearchState SearchStop :=
  let checked := s.rejected + 1
  match check m with
  | .error id => .stop ⟨checked, s.events, .error id⟩
  | .ok true => .stop ⟨checked, s.events, .ok m⟩
  | .ok false =>
    if every ≠ 0 ∧ (checked : Int) % every = 0 then
      .next ⟨checked, .progress checked :: s.events⟩
    else .next ⟨checked, s.events⟩

/-- Goes through the mappings of an index up to the first embedding, given the groupings of the
actual graph.  The result is the embedding, if there is one, and the number of mappings that were
checked. -/
def searchMappings (groups : Index) (expected : Snapshot) (every : Int) (index : CandidateIndex) :
    Attempt ComparisonFailure (Option Mapping × Nat) :=
  let check (m : Mapping) := carriesAll groups m expected.relationships
  match index.forMappings (checkMapping check every) ⟨0, []⟩ with
  | .next s =>
    ExceptT.mk ⟨s.events.reverse ++ [.exhausted s.rejected], .ok (none, s.rejected)⟩
  | .stop s => match s.outcome with
    | .ok m => ExceptT.mk ⟨s.events.reverse ++ [.completed s.checked], .ok (some m, s.checked)⟩
    | .error id => ExceptT.mk ⟨s.events.reverse, .error (.unmapped id)⟩

/-- The candidates of all expected nodes, each set of them put in order. -/
def arrangedIndex (arrangement : Arrangement) (index : CandidateIndex) : CandidateIndex :=
  index.mapEntries arrangement.arrange

/-- The end of a search at a node without a counterpart.  The node is written before anything is
reported, so nothing is if it cannot be written. -/
def failAt {α : Type} (node : Node) : Attempt ComparisonFailure α :=
  match node.written? with
  | .error fault => throw (.unwritable fault)
  | .ok _ => do
    Attempt.log (.noCandidate node)
    throw (.mismatch (.noCandidate node))

/-- The candidates of all expected nodes, reported on. -/
def reportCandidates (groups : Index) (actual expected : Snapshot) (pruning : Bool) :
    Attempt ComparisonFailure CandidateIndex :=
  match CandidateIndex.buildFrom groups actual expected pruning with
  | .error node => failAt node
  | .ok index => do
    Attempt.log (.indexBuilt index.size index.ambiguous)
    return index

/-- Searches for an embedding, given the groupings of the actual graph; the candidates of every
node are tried in the order of an arrangement. -/
def searchFrom (groups : Index) (arrangement : Arrangement) (actual expected : Snapshot)
    (settings : Settings) : Attempt ComparisonFailure (Option Mapping × Nat) := do
  Attempt.log
    (.started actual.nodes.length expected.nodes.length expected.relationships.length)
  let index ← reportCandidates groups actual expected settings.labelPruning
  searchMappings groups expected settings.progressEvery (arrangedIndex arrangement index)

/-- Searches for an embedding, the candidates of every node being tried in the order of an
arrangement. -/
def searchArranged (arrangement : Arrangement) (actual expected : Snapshot)
    (settings : Settings) : Attempt ComparisonFailure (Option Mapping × Nat) :=
  searchFrom actual.index arrangement actual expected settings

/-! ### Verdicts

Each comparison is given for candidates tried in the order of any arrangement, and then for
candidates tried in the order of the actual graph. -/

/-- The first embedding of the expected graph in the actual one, or none if every mapping of the
nodes fails. -/
def findEmbeddingArranged (arrangement : Arrangement) (actual expected : Snapshot)
    (settings : Settings) : Attempt ComparisonFailure (Option Mapping) :=
  Prod.fst <$> searchArranged arrangement actual expected settings

@[inherit_doc findEmbeddingArranged]
def findEmbedding (actual expected : Snapshot) (settings : Settings) :
    Attempt ComparisonFailure (Option Mapping) :=
  findEmbeddingArranged .asAdded actual expected settings

/-- An embedding of the expected graph in the actual one; that there is none is a mismatch. -/
def assertSubgraphArranged (arrangement : Arrangement) (actual expected : Snapshot)
    (settings : Settings) : Attempt ComparisonFailure Mapping := do
  match ← searchArranged arrangement actual expected settings with
  | (some m, _) => return m
  | (none, checked) => throw (.mismatch (.noEmbedding checked))

@[inherit_doc assertSubgraphArranged]
def assertSubgraph (actual expected : Snapshot) (settings : Settings) :
    Attempt ComparisonFailure Mapping :=
  assertSubgraphArranged .asAdded actual expected settings

/-- The first sort of elements of which two graphs have different numbers. -/
def firstCountMismatch? (actual expected : Counts) : Option Counted :=
  Counted.all.find? fun c => c.count actual != c.count expected

/-- Insists that two graphs have equally many elements of every sort. -/
def assertSameCounts (actual expected : Snapshot) : Attempt ComparisonFailure Unit := do
  let a := actual.counts
  let e := expected.counts
  match firstCountMismatch? a e with
  | none => return ()
  | some c => do
    Attempt.log (.countMismatch c (c.count a) (c.count e))
    throw (.mismatch (.count c (c.count a) (c.count e)))

/-- An embedding of the expected graph in an actual graph with equally many elements of every
sort. -/
def assertSameGraphArranged (arrangement : Arrangement) (actual expected : Snapshot)
    (settings : Settings) : Attempt ComparisonFailure Mapping := do
  assertSameCounts actual expected
  assertSubgraphArranged arrangement actual expected settings

@[inherit_doc assertSameGraphArranged]
def assertSameGraph (actual expected : Snapshot) (settings : Settings) :
    Attempt ComparisonFailure Mapping :=
  assertSameGraphArranged .asAdded actual expected settings

/-- Whether a comparison succeeds; a mismatch is an answer, any other failure is not. -/
def verdict {α : Type} (x : Attempt ComparisonFailure α) : Attempt ComparisonFailure Bool :=
  ExceptT.mk ⟨x.run.events, match x.run.result with
    | .ok _ => .ok true
    | .error (.mismatch _) => .ok false
    | .error failure => .error failure⟩

/-- Whether the expected graph can be embedded in the actual one. -/
def isSubgraphArranged (arrangement : Arrangement) (actual expected : Snapshot)
    (settings : Settings) : Attempt ComparisonFailure Bool :=
  verdict (assertSubgraphArranged arrangement actual expected settings)

@[inherit_doc isSubgraphArranged]
def isSubgraph (actual expected : Snapshot) (settings : Settings) :
    Attempt ComparisonFailure Bool :=
  isSubgraphArranged .asAdded actual expected settings

/-- Whether two graphs are the same as far as `assertSameGraph` can tell. -/
def isSameGraphArranged (arrangement : Arrangement) (actual expected : Snapshot)
    (settings : Settings) : Attempt ComparisonFailure Bool :=
  verdict (assertSameGraphArranged arrangement actual expected settings)

@[inherit_doc isSameGraphArranged]
def isSameGraph (actual expected : Snapshot) (settings : Settings) :
    Attempt ComparisonFailure Bool :=
  isSameGraphArranged .asAdded actual expected settings

end PropertyGraph
