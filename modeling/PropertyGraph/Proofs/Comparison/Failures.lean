/-
# How comparisons fail

A comparison of two graphs fails because they do not match, in one of three ways: an expected node
has no counterpart, none of the mappings that are tried is an embedding, or the graphs differ in the
number of some sort of elements.  Which way it is follows from the graphs alone
(`findEmbedding_eq_error_iff`, `assertSubgraph_eq_error_iff`, `assertSameGraph_eq_error_iff`).

The one other failure is that the expected node without a counterpart cannot be named, because it
has a number that is too long to be written; then this is what the comparison fails by
(`results_of_not_refusalWritable`).  It cannot happen where all numbers in the expected graph are
short enough (`Snapshot.IsWritable.refusalWritable`).

Nothing else goes wrong on the way.  The ends of an expected relationship are expected nodes, and
the mappings that are tried cover all expected nodes, so each end has an image
(`exists_images_of_mem_allMappings`); and stored properties have kinds, so they can be compared.
-/
import PropertyGraph.Proofs.Comparison.Verdict
import PropertyGraph.Proofs.Mapping.Enumeration
import PropertyGraph.Proofs.Property.Equality

namespace PropertyGraph

section Failures

variable {arrangement : Arrangement} {actual expected : Snapshot} {settings : Settings}
  {failure : ComparisonFailure}

/-! ### Each comparison -/

lemma findEmbedding_eq_error_iff :
    (findEmbeddingArranged arrangement actual expected settings).run.result = .error failure ↔
      ∃ n, expected.nodes.find? actual.lacks = some n ∧ failure = n.refusal := by
  rw [result_findEmbeddingArranged]
  cases expected.nodes.find? actual.lacks with
  | none => simp
  | some n => simp [eq_comm]

lemma assertSubgraph_eq_error_iff :
    (assertSubgraphArranged arrangement actual expected settings).run.result = .error failure ↔
      (∃ n, expected.nodes.find? actual.lacks = some n ∧ failure = n.refusal) ∨
      (expected.nodes.find? actual.lacks = none ∧ (¬∃ m, IsEmbedding actual expected m) ∧
        failure = .mismatch
          (.noEmbedding (triedMappings arrangement actual expected).length)) := by
  have hnone : firstEmbedding? arrangement actual expected = none ↔
      ¬∃ m, IsEmbedding actual expected m := firstEmbedding?_eq_none_iff
  rw [result_assertSubgraphArranged, ← hnone]
  cases expected.nodes.find? actual.lacks with
  | some n => simp [eq_comm]
  | none =>
    cases firstEmbedding? arrangement actual expected with
    | some m => simp
    | none => simp [eq_comm]

lemma assertSameGraph_eq_error_iff :
    (assertSameGraphArranged arrangement actual expected settings).run.result = .error failure ↔
      (∃ c, firstCountMismatch? actual.counts expected.counts = some c ∧
        failure = .mismatch (.count c (c.count actual.counts) (c.count expected.counts))) ∨
      (firstCountMismatch? actual.counts expected.counts = none ∧
        (assertSubgraphArranged arrangement actual expected settings).run.result =
          .error failure) := by
  rw [result_assertSameGraphArranged]
  cases firstCountMismatch? actual.counts expected.counts with
  | some c => simp [eq_comm]
  | none => simp

/-! ### Nodes that cannot be named -/

/-- If the first node without a counterpart cannot be written, then searches and comparisons for a
subgraph fail by that, and so do comparisons for sameness that come to look at the nodes. -/
lemma results_of_not_refusalWritable (arrangement : Arrangement) (settings : Settings)
    (h : ¬RefusalWritable actual expected) :
    (findEmbeddingArranged arrangement actual expected settings).run.result =
      .error (.unwritable .tooManyDigits) ∧
    (assertSubgraphArranged arrangement actual expected settings).run.result =
      .error (.unwritable .tooManyDigits) ∧
    (isSubgraphArranged arrangement actual expected settings).run.result =
      .error (.unwritable .tooManyDigits) ∧
    (actual.counts = expected.counts →
      (assertSameGraphArranged arrangement actual expected settings).run.result =
        .error (.unwritable .tooManyDigits) ∧
      (isSameGraphArranged arrangement actual expected settings).run.result =
        .error (.unwritable .tooManyDigits)) := by
  obtain ⟨n, hn, hlong⟩ := not_refusalWritable_iff.1 h
  have hfailure := (Node.refusal_of_not_isWritable hlong).symm
  have hsubgraph : (assertSubgraphArranged arrangement actual expected settings).run.result =
      .error (.unwritable .tooManyDigits) :=
    assertSubgraph_eq_error_iff.2 (.inl ⟨n, hn, hfailure⟩)
  refine ⟨findEmbedding_eq_error_iff.2 ⟨n, hn, hfailure⟩, hsubgraph, ?_, fun hcounts => ⟨?_, ?_⟩⟩
  · rw [result_isSubgraphArranged, if_neg h]
  · rw [result_assertSameGraphArranged, firstCountMismatch?_eq_none_iff.2 hcounts]
    exact hsubgraph
  · exact isSameGraph_eq_error_iff.2 ⟨firstCountMismatch?_eq_none_iff.2 hcounts, h, rfl⟩

/-! ### Lookups in a mapping -/

/-- Every mapping that the candidates allow has an image for both ends of every expected
relationship. -/
lemma exists_images_of_mem_allMappings {pruning : Bool} {index : CandidateIndex}
    (hindex : CandidateIndex.build actual expected pruning = .ok index) {m : Mapping}
    (hm : m ∈ (arrangedIndex arrangement index).allMappings) {r : Relationship}
    (hr : r ∈ expected.relationships) :
    ∃ s t, m.find? r.source = some s ∧ m.find? r.target = some t := by
  obtain ⟨-, rfl⟩ := CandidateIndex.build_eq_ok_iff.1 hindex
  rw [CandidateIndex.allMappings_eq_mappings] at hm
  have hcovers : m.Covers expected := covers_of_mem_triedMappings hm
  obtain ⟨hsource, htarget⟩ := expected.consistent.endpoints r hr
  obtain ⟨s, hs⟩ := hcovers.exists_find? hsource
  obtain ⟨t, ht⟩ := hcovers.exists_find? htarget
  exact ⟨s, t, hs, ht⟩

end Failures

end PropertyGraph
