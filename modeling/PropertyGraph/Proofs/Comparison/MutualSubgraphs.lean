/-
# Graphs that are subgraphs of each other

Two graphs without parallel relationships pass for the same exactly if each is a subgraph of the
other (`isSameGraph_iff_mutual_isSubgraph`), so it does not matter which of them is the expected
one, as far as the answer can be given.  Each embedding says that its graph has no more nodes and no
more relationships than the other, hence there are equally many, and then one embedding alone is an
isomorphism (`IsEmbedding.nonempty_isomorphism_of_mutual`).  What is counted before the search are
invariants of isomorphism.

Without the condition this fails: `crossed` passes for `doubled` but is no subgraph of it.
-/
import PropertyGraph.Proofs.Comparison.SameGraph

namespace PropertyGraph

section Mutual

variable {first second : Snapshot} {m m' : Mapping}

/-- Graphs that embed in each other are isomorphic if neither has parallel relationships. -/
theorem IsEmbedding.nonempty_isomorphism_of_mutual (hfirst : first.ParallelFree)
    (hsecond : second.ParallelFree) (h : IsEmbedding first second m)
    (h' : IsEmbedding second first m') : Nonempty (Isomorphism first second) := by
  have hnodes : first.nodes.length ≤ second.nodes.length := h'.length_nodes_le
  have hrels : first.relationships.length ≤ second.relationships.length :=
    h'.length_relationships_le (hfirst.keepsParallels h')
  obtain ⟨iso, -⟩ := h.exists_isomorphism_of_length_le hnodes hrels (hsecond.keepsParallels h)
  exact ⟨iso⟩

/-- Isomorphic graphs pass for the same, and are subgraphs of each other. -/
lemma Isomorphism.isSameGraph_eq_ok_true (iso : Isomorphism first second)
    (arrangement : Arrangement) (settings : Settings) :
    (isSameGraphArranged arrangement first second settings).run.result = .ok true := by
  obtain ⟨m, hm, -⟩ := iso.exists_assertSameGraph_eq_ok arrangement settings
  exact (verdict_eq_ok_true_iff _).2 ⟨m, hm⟩

/-- Graphs without parallel relationships pass for the same exactly if they are isomorphic. -/
lemma isSameGraph_eq_ok_true_iff_isomorphic (hsecond : second.ParallelFree)
    {arrangement : Arrangement} {settings : Settings} :
    (isSameGraphArranged arrangement first second settings).run.result = .ok true ↔
      Nonempty (Isomorphism first second) := by
  constructor
  · intro h
    obtain ⟨m, hm⟩ := (verdict_eq_ok_true_iff _).1 h
    obtain ⟨hcounts, hfirst⟩ := assertSameGraph_eq_ok_iff.1 hm
    have hemb := isEmbedding_of_firstEmbedding? hfirst
    obtain ⟨iso, -⟩ := hemb.exists_isomorphism hcounts (hsecond.keepsParallels hemb)
    exact ⟨iso⟩
  · rintro ⟨iso⟩
    exact iso.isSameGraph_eq_ok_true arrangement settings

lemma nonempty_isomorphism_iff_mutual (hfirst : first.ParallelFree)
    (hsecond : second.ParallelFree) : Nonempty (Isomorphism first second) ↔
      (∃ m, IsEmbedding first second m) ∧ ∃ m, IsEmbedding second first m := by
  constructor
  · rintro ⟨iso⟩
    obtain ⟨m, hm, -⟩ := iso.exists_isEmbedding
    obtain ⟨m', hm', -⟩ := iso.symm.exists_isEmbedding
    exact ⟨⟨m, hm⟩, m', hm'⟩
  · rintro ⟨⟨m, hm⟩, m', hm'⟩
    exact hm.nonempty_isomorphism_of_mutual hfirst hsecond hm'

-- parallel relationships may pass for crossed ones, though not the other way round
example : (isSameGraphArranged .asAdded crossed doubled {}).run.result = .ok true ∧
    (isSubgraphArranged .asAdded doubled crossed {}).run.result = .ok false := by
  constructor <;> cbv

end Mutual

end PropertyGraph
