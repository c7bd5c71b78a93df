/-
# What `assertSameGraph` accepts

Two graphs pass for the same when they have equally many elements of every sort and the expected
one embeds in the actual one (`assertSameGraph_eq_ok_iff`).  All isomorphic graphs pass
(`sameGraph_of_isomorphism`).  The converse holds where no expected relationships are parallel, and
then the returned mapping is an isomorphism (`sameGraph_bijective_of_parallelFree`); in general
graphs that pass are isomorphic only if some embedding keeps parallel relationships apart
(`sameGraph_isomorphic_iff`), which is not checked: `crossed` passes for `doubled`.
-/
import Mathlib.Data.List.Permutation
import PropertyGraph.Proofs.Comparison.Verdict
import PropertyGraph.Proofs.Parallels

namespace PropertyGraph

section Results

variable {arrangement : Arrangement} {actual expected : Snapshot} {settings : Settings}
  {m : Mapping}

/-! ### Isomorphic graphs pass -/

/-- The comparison of isomorphic graphs finds an embedding, though perhaps another one than the
correspondence at hand. -/
lemma Isomorphism.exists_assertSameGraph_eq_ok (iso : Isomorphism actual expected)
    (arrangement : Arrangement) (settings : Settings) :
    ∃ m, (assertSameGraphArranged arrangement actual expected settings).run.result = .ok m ∧
      IsEmbedding actual expected m := by
  obtain ⟨m', hm', -⟩ := iso.exists_isEmbedding
  obtain ⟨m, hm⟩ := (exists_firstEmbedding?_iff arrangement).2 ⟨m', hm'⟩
  exact ⟨m, assertSameGraph_eq_ok_iff.2 ⟨iso.counts_eq, hm⟩, isEmbedding_of_firstEmbedding? hm⟩

/-- Isomorphic graphs pass for the same, and the returned mapping takes the expected nodes onto the
actual ones; in particular every graph passes for itself. -/
theorem sameGraph_of_isomorphism (arrangement : Arrangement) (settings : Settings) :
    (∀ actual expected, Isomorphism actual expected →
      firstCountMismatch? actual.counts expected.counts = none ∧
      ∃ m, (assertSameGraphArranged arrangement actual expected settings).run.result = .ok m ∧
        m.keys.Perm expected.nodeIds ∧ m.values.Perm actual.nodeIds) ∧
    ∀ g, ∃ m, (assertSameGraphArranged arrangement g g settings).run.result = .ok m := by
  refine ⟨fun actual expected iso => ?_, fun g => ?_⟩
  · obtain ⟨m, hm, hemb⟩ := iso.exists_assertSameGraph_eq_ok arrangement settings
    have hnodes : actual.nodes.length = expected.nodes.length :=
      congrArg Counts.nodes iso.counts_eq
    exact ⟨firstCountMismatch?_eq_none_iff.2 iso.counts_eq, m, hm, hemb.keys,
      hemb.perm_values (Nat.le_of_eq hnodes)⟩
  · obtain ⟨m, hm, -⟩ := (Isomorphism.refl g).exists_assertSameGraph_eq_ok arrangement settings
    exact ⟨m, hm⟩

theorem sameGraph_of_isomorphism_renamed :
    firstCountMismatch? crossed.counts crossedRenamed.counts = none ∧
    ∃ m, (assertSameGraphArranged .asAdded crossed crossedRenamed {}).run.result = .ok m ∧
      m.keys.Perm [.text "b", .text "a"] ∧ m.values.Perm [.int 1, .int 2] :=
  (sameGraph_of_isomorphism .asAdded {}).1 crossed crossedRenamed crossedRenaming

/-! ### What graphs that pass have in common -/

/-- Graphs that pass for the same are isomorphic exactly if some embedding keeps parallel
relationships apart. -/
theorem sameGraph_isomorphic_iff
    (h : (assertSameGraphArranged arrangement actual expected settings).run.result = .ok m) :
    Nonempty (Isomorphism actual expected) ↔
      ∃ m', IsEmbedding actual expected m' ∧ m'.KeepsParallels actual expected := by
  constructor
  · rintro ⟨iso⟩
    obtain ⟨m', hm', hfind⟩ := iso.exists_isEmbedding
    exact ⟨m', hm', iso.keepsParallels hfind⟩
  · rintro ⟨m', hm', hkeeps⟩
    obtain ⟨iso, -⟩ := hm'.exists_isomorphism (assertSameGraph_eq_ok_iff.1 h).1 hkeeps
    exact ⟨iso⟩

/-- What the comparison of `crossed` with `doubled` returns. -/
def crossing : Mapping := .ofList [(.int 1, .int 1), (.int 2, .int 2)]

theorem sameGraph_isomorphic_iff_crossed :
    (assertSameGraphArranged .asAdded crossed doubled {}).run.result = .ok crossing ∧
      (Nonempty (Isomorphism crossed doubled) ↔
        ∃ m, IsEmbedding crossed doubled m ∧ m.KeepsParallels crossed doubled) := by
  have h : (assertSameGraphArranged .asAdded crossed doubled {}).run.result = .ok crossing := by
    cbv
  exact ⟨h, sameGraph_isomorphic_iff h⟩

/-- The two graphs pass for the same, yet one of them has a relationship that runs backwards. -/
theorem sameGraph_crossed_not_isomorphic :
    (assertSameGraphArranged .asAdded crossed doubled {}).run.result = .ok crossing ∧
      ¬Nonempty (Isomorphism crossed doubled) := by
  refine ⟨by cbv, ?_⟩
  rintro ⟨iso⟩
  let n : doubled.NodeIn := ⟨doubled.nodes[0], by decide⟩
  have hforward : ∀ r ∈ doubled.relationships, n.1.id = r.source := by decide
  have hbackward : ∀ c ∈ crossed.nodes, c.id = .int 2 → n.1.equivalent c = false := by decide
  obtain ⟨r, hr⟩ := iso.relationship.surjective ⟨crossed.relationships[1], by decide⟩
  have hn := iso.source r n (hforward r.1 r.2)
  rw [hr] at hn
  have heq := iso.node_equivalent n
  rw [hbackward _ (iso.node n).2 hn] at heq
  exact absurd heq (by decide)

/-- Where no expected relationships are parallel, the returned mapping is an isomorphism, and its
inverse embeds the actual graph in the expected one. -/
theorem sameGraph_bijective_of_parallelFree (hfree : expected.ParallelFree)
    (h : (assertSameGraphArranged arrangement actual expected settings).run.result = .ok m) :
    m.keys.Perm expected.nodeIds ∧ m.values.Perm actual.nodeIds ∧
    (∃ e : expected.RelationshipIn ≃ actual.RelationshipIn, ∀ r : expected.RelationshipIn,
      m.find? r.1.source = some (e r).1.source ∧ m.find? r.1.target = some (e r).1.target ∧
        (e r).1.equivalent r.1 = true) ∧
    IsEmbedding expected actual m.inverse ∧
    Mapping.embeds expected actual m.inverse = .ok true := by
  obtain ⟨hcounts, hm⟩ := assertSameGraph_eq_ok_iff.1 h
  have hemb := isEmbedding_of_firstEmbedding? hm
  have hkeeps := hfree.keepsParallels hemb
  have hnodes : actual.nodes.length = expected.nodes.length := congrArg Counts.nodes hcounts
  have hrels : actual.relationships.length = expected.relationships.length :=
    congrArg Counts.relationships hcounts
  have hinverse := hemb.inverse hcounts hkeeps
  exact ⟨hemb.keys, hemb.perm_values (Nat.le_of_eq hnodes),
    hemb.exists_relationshipEquiv (Nat.le_of_eq hrels) hkeeps, hinverse,
    Mapping.embeds_eq_ok_true.2 hinverse.relationships⟩

theorem sameGraph_bijective_crossed :
    crossed.ParallelFree ∧
    (assertSameGraphArranged .asAdded crossed crossed {}).run.result = .ok crossing ∧
    IsEmbedding crossed crossed crossing.inverse := by
  have hfree : crossed.ParallelFree := by
    unfold Snapshot.ParallelFree
    decide
  have h : (assertSameGraphArranged .asAdded crossed crossed {}).run.result = .ok crossing := by
    cbv
  exact ⟨hfree, h, (sameGraph_bijective_of_parallelFree hfree h).2.2.2.1⟩

end Results

end PropertyGraph
