/-
# What comparisons do not depend on

A comparison of isomorphic graphs comes to the same outcome, whatever the identifiers are, in
whatever order the elements stand and the candidates are tried (`outcome_of_isomorphism`).  Only
which of several embeddings is returned and which of several nodes without a counterpart is named
may differ, and whether that node can be named at all.

The numbers in an outcome are the same too.  The numbers of elements are invariants of a graph, and
the number of mappings that are tried is the number of placements (`length_triedMappings`): no two
of these mappings realize the same placement, since they map the nodes in the same order.
-/
import Mathlib.Data.List.Permutation
import PropertyGraph.Proofs.Comparison.Verdict
import PropertyGraph.Proofs.Isomorphism

namespace PropertyGraph

/-! ### The number of mappings -/

section Tried

variable {arrangement : Arrangement} {actual expected : Snapshot} {m m' : Mapping}

/-- Mappings that are tried map the nodes in the same order. -/
lemma eq_of_realizes (hm : m ∈ triedMappings arrangement actual expected)
    (hm' : m' ∈ triedMappings arrangement actual expected) {p : Placement actual expected}
    (h : m.Realizes p) (h' : m'.Realizes p) : m = m' := by
  have hkeys : m.keys = m'.keys :=
    (CandidateIndex.mem_mappings.1 hm).1.trans (CandidateIndex.mem_mappings.1 hm').1.symm
  refine OrderedMap.ext_find? hkeys fun id hid => ?_
  obtain ⟨n, rfl⟩ := Snapshot.exists_nodeIn ((keys_of_mem_triedMappings hm).mem_iff.1 hid)
  exact (h n).trans (h' n).symm

/-- Every placement is tried. -/
lemma Placement.exists_mem_triedMappings (arrangement : Arrangement)
    (p : Placement actual expected) :
    ∃ m ∈ triedMappings arrangement actual expected, m.Realizes p := by
  obtain ⟨m, hm, hp⟩ := p.exists_mapping
  obtain ⟨m', hm', hfind⟩ := hm.exists_mem_triedMappings arrangement
  exact ⟨m', hm', fun n => (hfind n.1.id (List.mem_map_of_mem n.2)).trans (hp n)⟩

/-- As many mappings are tried as there are placements. -/
theorem length_triedMappings (arrangement : Arrangement) (actual expected : Snapshot) :
    (triedMappings arrangement actual expected).length = Nat.card (Placement actual expected) := by
  have hplacement (m : {m // m ∈ triedMappings arrangement actual expected}) :
      ∃ p : Placement actual expected, m.1.Realizes p :=
    (isPlacement_of_mem_triedMappings m.2).exists_placement
  choose f hf using hplacement
  have hinjective : Function.Injective f := by
    intro m m' heq
    exact Subtype.ext (eq_of_realizes m.2 m'.2 (hf m) (heq ▸ hf m'))
  have hsurjective : Function.Surjective f := by
    intro p
    obtain ⟨m, hm, hp⟩ := p.exists_mem_triedMappings arrangement
    exact ⟨⟨m, hm⟩, (hf ⟨m, hm⟩).placement_eq hp⟩
  rw [← Nat.card_congr (Equiv.ofBijective f ⟨hinjective, hsurjective⟩)]
  exact (Snapshot.card_mem (CandidateIndex.nodup_mappings _)).symm

end Tried

/-! ### Outcomes -/

/-- Two comparisons come to the same outcome: both find an embedding, or both fail for the same
reason and with the same numbers. -/
inductive SameOutcome :
    Except ComparisonFailure Mapping → Except ComparisonFailure Mapping → Prop
  | embedding (m m' : Mapping) : SameOutcome (.ok m) (.ok m')
  | count (of : Counted) (a e : Nat) :
    SameOutcome (.error (.mismatch (.count of a e))) (.error (.mismatch (.count of a e)))
  | noCandidate (n n' : Node) :
    SameOutcome (.error (.mismatch (.noCandidate n))) (.error (.mismatch (.noCandidate n')))
  | noEmbedding (checked : Nat) :
    SameOutcome (.error (.mismatch (.noEmbedding checked)))
      (.error (.mismatch (.noEmbedding checked)))

section Outcome

variable {actual actual' expected expected' : Snapshot} (isoA : Isomorphism actual' actual)
  (isoE : Isomorphism expected' expected) (a a' : Arrangement) (s s' : Settings)

include isoA isoE

lemma length_triedMappings_of_isomorphism :
    (triedMappings a' actual' expected').length = (triedMappings a actual expected).length := by
  rw [length_triedMappings, length_triedMappings,
    Nat.card_congr (isoA.placementEquiv isoE)]

lemma firstEmbedding?_eq_none_iff_of_isomorphism :
    firstEmbedding? a' actual' expected' = none ↔ firstEmbedding? a actual expected = none := by
  rw [firstEmbedding?_eq_none_iff, firstEmbedding?_eq_none_iff, isoA.exists_isEmbedding_iff isoE]

/-- If an expected node has no counterpart, then some node has none in the isomorphic graphs. -/
lemma exists_find?_lacks_of_isomorphism {n : Node}
    (h : expected.nodes.find? actual.lacks = some n) :
    ∃ n', expected'.nodes.find? actual'.lacks = some n' := by
  refine Option.ne_none_iff_exists'.1 fun hnone => ?_
  rw [(isoA.find?_lacks_eq_none_iff isoE).1 hnone] at h
  exact absurd h (by simp)

lemma sameOutcome_assertSubgraph (h : RefusalWritable actual expected)
    (h' : RefusalWritable actual' expected') :
    SameOutcome (assertSubgraphArranged a' actual' expected' s').run.result
      (assertSubgraphArranged a actual expected s).run.result := by
  have hlacks := isoA.find?_lacks_eq_none_iff isoE
  have hfirst := firstEmbedding?_eq_none_iff_of_isomorphism isoA isoE a a'
  rw [result_assertSubgraphArranged, result_assertSubgraphArranged,
    length_triedMappings_of_isomorphism isoA isoE a a']
  cases hn : expected.nodes.find? actual.lacks with
  | some n =>
    obtain ⟨n', hn'⟩ := exists_find?_lacks_of_isomorphism isoA isoE hn
    simp only [hn', h.refusal_eq hn, h'.refusal_eq hn']
    exact .noCandidate n' n
  | none =>
    rw [hlacks.2 hn]
    cases hm' : firstEmbedding? a' actual' expected' with
    | some m' =>
      have hsome : firstEmbedding? a actual expected ≠ none := by
        intro hm
        simp [hfirst.2 hm] at hm'
      obtain ⟨m, hm⟩ := Option.ne_none_iff_exists'.1 hsome
      simp only [hm]
      exact .embedding m' m
    | none =>
      simp only [hfirst.1 hm']
      exact .noEmbedding _

end Outcome

end PropertyGraph
