/-
# What is enumerated, and in which order

The mappings of an index come in lexicographic order: the expected nodes with few candidates are
mapped first, those with equally many in the order of the index, and each runs through its
candidates in their order (`CandidateIndex.allMappings_lexicographic`).  The mappings are the
choices of distinct candidates, each of them once.

That a consumer of the loop sees the mappings in this order is the invariant of the loop
(`walk_eq_visitAll`); here it is applied to the consumers that collect and that count.
-/
import Mathlib.Data.List.Permutation
import PropertyGraph.Proofs.Mapping.Completions

namespace PropertyGraph

/-! ### Sorting by size -/

/-- The second list is the first in ascending order of size: the members of each size are the same
on both sides and stand in the same order. -/
structure StablySorted {α : Type} (size : α → Nat) (xs ys : List α) : Prop where
  /-- Members of smaller size come first. -/
  ascending : ys.Pairwise fun a b => size a ≤ size b
  /-- Members of one size stay as they are. -/
  stable : ∀ n, (ys.filter fun a => size a = n) = xs.filter fun a => size a = n

lemma stablySorted_mergeSort {α : Type} (size : α → Nat) (xs : List α) :
    StablySorted size xs (xs.mergeSort fun a b => size a ≤ size b) := by
  let le (a b : α) : Bool := size a ≤ size b
  have htrans : ∀ a b c, le a b = true → le b c = true → le a c = true := by
    intro a b c hab hbc
    exact decide_eq_true ((of_decide_eq_true hab).trans (of_decide_eq_true hbc))
  have htotal : ∀ a b, (le a b || le b a) = true := by
    intro a b
    rw [Bool.or_eq_true]
    exact (Nat.le_total (size a) (size b)).imp decide_eq_true decide_eq_true
  refine ⟨(List.pairwise_mergeSort htrans htotal xs).imp of_decide_eq_true, fun n => ?_⟩
  let p (a : α) : Bool := size a = n
  have hle : (xs.filter p).Pairwise fun a b => le a b = true := by
    refine List.pairwise_of_forall_mem_list fun a ha b hb => ?_
    have ha : size a = n := of_decide_eq_true (List.mem_filter.1 ha).2
    have hb : size b = n := of_decide_eq_true (List.mem_filter.1 hb).2
    exact decide_eq_true (ha.trans hb.symm).le
  have hsub : (xs.filter p).Sublist ((xs.mergeSort le).filter p) := by
    have hsort := (List.sublist_mergeSort htrans htotal hle List.filter_sublist).filter p
    rwa [List.filter_filter, funext fun a => Bool.and_self (p a)] at hsort
  have hlen := ((List.mergeSort_perm xs le).filter p).length_eq
  exact (hsub.eq_of_length hlen.symm).symm

/-! ### Collecting and counting -/

section Consumers

variable {ρ : Type}

lemma visitAll_collect (ms seen : List Mapping) :
    visitAll (ρ := ρ) (fun seen m => .next (m :: seen)) ms seen = .next (ms.reverse ++ seen) := by
  induction ms generalizing seen with
  | nil => rfl
  | cons m ms ih =>
    rw [List.reverse_cons, List.append_assoc]
    exact ih (m :: seen)

lemma visitAll_count (ms : List Mapping) (n : Nat) :
    visitAll (ρ := ρ) (fun n _ => .next (n + 1)) ms n = .next (n + ms.length) := by
  induction ms generalizing n with
  | nil => rfl
  | cons m ms ih =>
    rw [List.length_cons, Nat.add_comm ms.length, ← Nat.add_assoc]
    exact ih (n + 1)

end Consumers

namespace CandidateIndex

variable (index : CandidateIndex)

lemma stablySorted_searchOrder :
    StablySorted (fun e : Ident × List Ident => e.2.length)
      (index.entries.map fun e => (e.1, e.2.toList)) index.searchOrder :=
  stablySorted_mergeSort _ _

theorem allMappings_eq_mappings : index.allMappings = index.mappings := by
  have hcollect := index.forMappings_eq_visitAll (ρ := Empty) (fun ms m => .next (m :: ms)) []
  rw [visitAll_collect, List.append_nil, forMappings] at hcollect
  simp only [allMappings, SearchOrder.allMappings, hcollect, List.reverse_reverse]

theorem countMappings_eq_length : index.countMappings = index.mappings.length := by
  have hcount := index.forMappings_eq_visitAll (ρ := Empty) (fun n _ => .next (n + 1)) 0
  rw [visitAll_count, Nat.zero_add, forMappings] at hcount
  simp only [countMappings, SearchOrder.countMappings, hcount]

/-- The mappings of an index are the choices of one candidate for each node, those that take a
candidate twice left out, in lexicographic order.  A consumer is shown all of them in this order
until it stops. -/
theorem allMappings_lexicographic :
    StablySorted (fun e => e.2.length) (index.entries.map fun e => (e.1, e.2.toList))
      index.searchOrder ∧
    index.allMappings.map OrderedMap.entries =
      ((choices (index.searchOrder.map Prod.snd)).filter fun ts => ts.Nodup).map
        ((index.searchOrder.map Prod.fst).zip ·) ∧
    (choices (index.searchOrder.map Prod.snd)).Pairwise
      (ChosenBefore (index.searchOrder.map Prod.snd)) ∧
    index.allMappings.Nodup ∧
    (∀ m, m ∈ index.allMappings ↔ m.keys = index.searchOrder.map Prod.fst ∧ m.values.Nodup ∧
      ∀ k t, m.find? k = some t → ∃ s, index.find? k = some s ∧ t ∈ s.toList) ∧
    index.countMappings = index.allMappings.length ∧
    ∀ {σ ρ : Type} (visit : σ → Mapping → Visit σ ρ) (state : σ),
      index.forMappings visit state = visitAll visit index.allMappings state := by
  rw [allMappings_eq_mappings]
  exact ⟨index.stablySorted_searchOrder, index.entries_mappings, pairwise_choices _,
    index.nodup_mappings, fun _ => mem_mappings, index.countMappings_eq_length,
    index.forMappings_eq_visitAll⟩

-- the second node has fewer candidates than the first, so it is mapped before it
example : (CandidateIndex.allMappings (.ofList
    [(.int 1, .ofList [.int 5, .int 6, .int 7]), (.int 2, .ofList [.int 6])])).map
      OrderedMap.entries = [[(.int 2, .int 6), (.int 1, .int 5)],
        [(.int 2, .int 6), (.int 1, .int 7)]] := by
  cbv

end CandidateIndex

end PropertyGraph
