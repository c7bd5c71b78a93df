/-
# The size of a search

The candidates of an expected node are the actual nodes of its class, so the candidate sets of two
expected nodes are the same or have no member in common.  A search that finds no embedding has tried
every placement of the expected nodes, each of them once; so how long it was can be read off the
numbers of nodes in the classes, without searching (`mappingsChecked_eq_searchSize`).
-/
import Mathlib.Data.List.Permutation
import PropertyGraph.Proofs.Classes
import PropertyGraph.Proofs.Comparison.Failures
import PropertyGraph.Proofs.Comparison.Invariance

namespace PropertyGraph

variable {actual expected : Snapshot}

/-! ### Candidate sets -/

/-- Two candidate sets are the same or have no member in common. -/
lemma CandidateIndex.eq_or_disjoint_of_find?_full {i j : Ident} {s t : IdentSet}
    (hs : (full actual expected).find? i = some s) (ht : (full actual expected).find? j = some t) :
    s = t ∨ ∀ x ∈ s, x ∉ t := by
  obtain ⟨a, -, -, rfl⟩ := find?_full.1 hs
  obtain ⟨b, -, -, rfl⟩ := find?_full.1 ht
  cases hab : a.equivalent b with
  | true => exact .inl (Snapshot.findCandidates_congr hab)
  | false =>
    right
    intro x hx hx'
    have heq := Snapshot.equivalent_of_mem_findCandidates hx hx'
    rw [hab] at heq
    exact absurd heq (by decide)

/-! ### Counting mappings -/

lemma arrangedIndex_asAdded (index : CandidateIndex) : arrangedIndex .asAdded index = index :=
  OrderedMap.ext_entries (List.map_id' index.entries)

/-- In whatever order the candidates are tried, there are as many mappings as placements. -/
lemma countMappings_arrangedIndex_full (arrangement : Arrangement) (actual expected : Snapshot) :
    (arrangedIndex arrangement (.full actual expected)).countMappings =
      searchSize actual expected := by
  rw [CandidateIndex.countMappings_eq_length, ← card_placement]
  exact length_triedMappings arrangement actual expected

lemma checked_of_assertSubgraph {arrangement : Arrangement} {settings : Settings} {checked : Nat}
    (h : (assertSubgraphArranged arrangement actual expected settings).run.result =
      .error (.mismatch (.noEmbedding checked))) : checked = searchSize actual expected := by
  rcases assertSubgraph_eq_error_iff.1 h with ⟨n, -, hfailure⟩ | ⟨-, -, hfailure⟩
  · have hmismatch := (Node.refusal_eq_mismatch_iff.1 hfailure.symm).2
    simp at hmismatch
  · simp only [ComparisonFailure.mismatch.injEq, Mismatch.noEmbedding.injEq] at hfailure
    rw [hfailure, length_triedMappings, card_placement]

lemma checked_of_assertSameGraph {arrangement : Arrangement} {settings : Settings} {checked : Nat}
    (h : (assertSameGraphArranged arrangement actual expected settings).run.result =
      .error (.mismatch (.noEmbedding checked))) : checked = searchSize actual expected := by
  rcases assertSameGraph_eq_error_iff.1 h with ⟨c, -, hfailure⟩ | ⟨-, h⟩
  · simp at hfailure
  · exact checked_of_assertSubgraph h

/-- Any two candidate sets are the same or have no member in common, and the number of mappings is
the product of the falling factorials of the classes that occur in the expected graph: of `a` actual
nodes and `e` expected ones, `a * (a - 1) * ... * (a - e + 1)`.  This is the number of mappings that
are checked when there is no embedding; it is zero exactly if some class has more expected nodes
than actual ones. -/
theorem mappingsChecked_eq_searchSize (actual expected : Snapshot) :
    (∀ pruning index, CandidateIndex.build actual expected pruning = .ok index →
      (∀ i j s t, index.find? i = some s → index.find? j = some t → s = t ∨ ∀ x ∈ s, x ∉ t) ∧
      index.countMappings = searchSize actual expected ∧
      ∀ arrangement, (arrangedIndex arrangement index).countMappings =
        searchSize actual expected) ∧
    (∀ arrangement settings checked,
      (assertSubgraphArranged arrangement actual expected settings).run.result =
          .error (.mismatch (.noEmbedding checked)) ∨
        (assertSameGraphArranged arrangement actual expected settings).run.result =
          .error (.mismatch (.noEmbedding checked)) →
      checked = searchSize actual expected) ∧
    searchSize actual expected =
      ∏ c ∈ expected.classes, (actual.inClass c).descFactorial (expected.inClass c) ∧
    (searchSize actual expected = 0 ↔ ∃ c, actual.inClass c < expected.inClass c) := by
  refine ⟨?_, fun arrangement settings checked h => ?_, rfl, searchSize_eq_zero_iff⟩
  · intro pruning index hindex
    obtain ⟨-, rfl⟩ := CandidateIndex.build_eq_ok_iff.1 hindex
    have hadded := countMappings_arrangedIndex_full .asAdded actual expected
    rw [arrangedIndex_asAdded] at hadded
    exact ⟨fun i j s t => CandidateIndex.eq_or_disjoint_of_find?_full, hadded,
      fun arrangement => countMappings_arrangedIndex_full arrangement actual expected⟩
  · exact h.elim checked_of_assertSubgraph checked_of_assertSameGraph

/-- Nodes of two classes in turn. -/
def alternating : Snapshot where
  nodes := [⟨.int 1, .ofList ["A"], .empty⟩, ⟨.int 2, .ofList ["B"], .empty⟩,
    ⟨.int 3, .ofList ["A"], .empty⟩, ⟨.int 4, .ofList ["B"], .empty⟩,
    ⟨.int 5, .ofList ["A"], .empty⟩]
  relationships := []
  consistent := ⟨by decide, by decide, by decide⟩

/-- A node of one of the classes between two of the other, connected to the first of them. -/
def connected : Snapshot where
  nodes := alternating.nodes.take 3
  relationships := [⟨.int 0, "MEETS", .int 1, .int 2, .empty, by decide⟩]
  consistent := ⟨by decide, by decide, by decide⟩

/-- Two of three nodes of one class in order, one of two of the other: six mappings times two. -/
theorem mappingsChecked_eq_searchSize_alternating :
    (assertSubgraphArranged .asAdded alternating connected {}).run.result =
      .error (.mismatch (.noEmbedding 12)) ∧
    searchSize alternating connected = 12 := by
  have h : (assertSubgraphArranged .asAdded alternating connected {}).run.result =
      .error (.mismatch (.noEmbedding 12)) := by
    cbv
  obtain ⟨-, hchecked, -⟩ := mappingsChecked_eq_searchSize alternating connected
  exact ⟨h, (hchecked .asAdded {} 12 (.inl h)).symm⟩

end PropertyGraph
