/-
# The loop goes through the completions

The loop over a stack of partial mappings shows its consumer exactly the total mappings that extend
the partial ones, the top of the stack first (`walk_eq_visitAll`): at every step the completions of
the whole stack are the mappings that are still to be shown, in their order.

The completions are the choices of one candidate for each node that is still to be mapped, in
lexicographic order, without those that take a candidate twice (`entries_completions`): dropping a
candidate in use at once drops the same choices as looking at the whole choice at the end.  So a
mapping is among the mappings of an index exactly when it gives every expected node one of its
candidates and no candidate twice (`CandidateIndex.mem_mappings`).
-/
import Mathlib.Data.List.Zip
import PropertyGraph.Mapping.Enumeration
import PropertyGraph.Proofs.Mapping.Choices
import PropertyGraph.Proofs.OrderedMap

namespace PropertyGraph

/-! ### The loop -/

section Loop

variable {σ ρ : Type} (visit : σ → Mapping → Visit σ ρ)

/-- Shows mappings to a consumer one after another, until it stops. -/
def visitAll : List Mapping → σ → Visit σ ρ
  | [], state => .next state
  | m :: ms, state =>
    match visit state m with
    | .next state => visitAll ms state
    | .stop result => .stop result

/-- The total mappings that extend a partial mapping on the stack. -/
def Frame.completions (f : Frame) : List Mapping :=
  PropertyGraph.completions f.remaining f.chosen f.used

/-- One step of the loop leaves the completions as they are. -/
lemma flatMap_extensions (chosen : Mapping) (used : List Ident) (id : Ident)
    (targets : List Ident) (rest : SearchOrder) :
    (Frame.extensions chosen used id targets rest).flatMap Frame.completions =
      completions ((id, targets) :: rest) chosen used := by
  simp only [Frame.extensions, List.flatMap_map, completions, Frame.completions]

/-- The loop goes through the completions of the partial mappings on the stack. -/
theorem walk_eq_visitAll (stack : List Frame) (state : σ) :
    walk visit stack state = visitAll visit (stack.flatMap Frame.completions) state := by
  induction stack, state using walk.induct visit with
  | case1 state => rw [walk, List.flatMap_nil, visitAll]
  | case2 state chosen used stack state' hv ih =>
    rw [walk, List.flatMap_cons]
    simp only [hv, Frame.completions, completions, List.singleton_append, visitAll]
    exact ih
  | case3 state chosen used stack result hv =>
    rw [walk, List.flatMap_cons]
    simp only [hv, Frame.completions, completions, List.singleton_append, visitAll]
  | case4 state id targets rest chosen used stack ih =>
    rw [walk, ih, List.flatMap_append, flatMap_extensions, List.flatMap_cons]
    rfl

theorem CandidateIndex.forMappings_eq_visitAll (index : CandidateIndex) (state : σ) :
    index.forMappings visit state = visitAll visit index.mappings state := by
  rw [forMappings, SearchOrder.forMappings, walk_eq_visitAll]
  simp [Frame.completions, Frame.start, mappings]

end Loop

/-! ### What is a completion -/

/-- Whether no candidate is chosen twice, and none that is in use. -/
def Free (used ts : List Ident) : Bool := ts.Nodup ∧ ∀ t ∈ ts, t ∉ used

lemma free_iff {used ts : List Ident} : Free used ts = true ↔ ts.Nodup ∧ ∀ t ∈ ts, t ∉ used := by
  rw [Free, decide_eq_true_iff]

lemma free_nil (ts : List Ident) : Free [] ts = decide ts.Nodup := by
  simp [Free]

/-- The first candidate is not in use, and the others avoid it too. -/
lemma free_cons (used ts : List Ident) (t : Ident) :
    Free used (t :: ts) = (decide (t ∉ used) && Free (t :: used) ts) := by
  rw [Bool.eq_iff_iff, Bool.and_eq_true, free_iff, free_iff, decide_eq_true_iff]
  simp only [List.nodup_cons, List.mem_cons, forall_eq_or_imp, not_or]
  constructor
  · rintro ⟨⟨htts, hnodup⟩, ht, hts⟩
    exact ⟨ht, hnodup, fun t' ht' => ⟨fun heq => htts (heq ▸ ht'), hts t' ht'⟩⟩
  · rintro ⟨ht, hnodup, hts⟩
    exact ⟨⟨fun htts => (hts t htts).1 rfl, hnodup⟩, ht, fun t' ht' => (hts t' ht').2⟩

lemma flatMap_filter {α β : Type} (p : α → Bool) (f : α → List β) (xs : List α) :
    (xs.filter p).flatMap f = xs.flatMap fun x => if p x then f x else [] := by
  induction xs with
  | nil => rfl
  | cons x xs ih => by_cases h : p x <;> simp [h, ih]

/-- The completions append the free choices of one candidate for each node that is still to be
mapped, in the order of the choices. -/
theorem entries_completions {order : SearchOrder} {chosen : Mapping} {used : List Ident}
    (hkeys : (chosen.keys ++ order.map Prod.fst).Nodup) :
    (completions order chosen used).map OrderedMap.entries =
      ((choices (order.map Prod.snd)).filter (Free used)).map fun ts =>
        chosen.entries ++ (order.map Prod.fst).zip ts := by
  -- what has been chosen and what is in use grow along the order
  induction order generalizing chosen used with
  | nil => simp [completions, Free]
  | cons e rest ih =>
    obtain ⟨id, targets⟩ := e
    have hnew : id ∉ chosen.keys := fun hmem =>
      (List.nodup_append.1 hkeys).2.2 id hmem id (by simp) rfl
    have hentries (t : Ident) := OrderedMap.entries_insert_of_notMem (v := t) hnew
    have hkeys' (t : Ident) : ((chosen.insert id t).keys ++ rest.map Prod.fst).Nodup := by
      rw [OrderedMap.keys, hentries]
      simpa [OrderedMap.keys] using hkeys
    simp only [completions, List.map_cons, choices_cons, List.filter_flatMap, List.map_flatMap,
      flatMap_filter, List.filter_map, List.map_map]
    refine List.flatMap_congr fun t _ => ?_
    by_cases ht : t ∈ used
    · have hnone : (Free used ∘ fun ts => t :: ts) = fun _ => false := by
        funext ts
        simp [free_cons, ht]
      simp [hnone, ht]
    · have hfree : (Free used ∘ fun ts => t :: ts) = Free (t :: used) := by
        funext ts
        simp [free_cons, ht]
      simp [hfree, ih (hkeys' t), hentries, Function.comp_def, ht]

/-! ### The mappings of an index -/

namespace CandidateIndex

variable {index : CandidateIndex} {m : Mapping}

lemma perm_searchOrder (index : CandidateIndex) :
    index.searchOrder.Perm (index.entries.map fun e => (e.1, e.2.toList)) :=
  List.mergeSort_perm _ _

lemma perm_keys_searchOrder (index : CandidateIndex) :
    (index.searchOrder.map Prod.fst).Perm index.keys := by
  refine (index.perm_searchOrder.map Prod.fst).trans (.of_eq ?_)
  simp [OrderedMap.keys, Function.comp_def]

lemma mem_searchOrder {e : Ident × List Ident} :
    e ∈ index.searchOrder ↔ ∃ s, index.find? e.1 = some s ∧ s.toList = e.2 := by
  rw [index.perm_searchOrder.mem_iff, List.mem_map]
  constructor
  · rintro ⟨e, he, rfl⟩
    exact ⟨e.2, OrderedMap.find?_eq_some_iff.2 he, rfl⟩
  · rintro ⟨s, hs, hse⟩
    exact ⟨(e.1, s), OrderedMap.find?_eq_some_iff.1 hs, Prod.ext rfl hse⟩

/-- The mappings are the choices of distinct candidates, in the order of the choices. -/
theorem entries_mappings (index : CandidateIndex) :
    index.mappings.map OrderedMap.entries =
      ((choices (index.searchOrder.map Prod.snd)).filter fun ts => ts.Nodup).map fun ts =>
        (index.searchOrder.map Prod.fst).zip ts := by
  have hkeys : ((OrderedMap.empty : Mapping).keys ++ index.searchOrder.map Prod.fst).Nodup := by
    simpa [OrderedMap.keys] using index.perm_keys_searchOrder.nodup_iff.2 index.nodup_keys
  rw [mappings, entries_completions hkeys, funext free_nil]
  rfl

lemma mem_mappings_iff_forall₂ : m ∈ index.mappings ↔ m.keys = index.searchOrder.map Prod.fst ∧
    m.values.Nodup ∧ List.Forall₂ (fun e t => t ∈ e.2) index.searchOrder m.values := by
  have hmem : m ∈ index.mappings ↔ m.entries ∈ index.mappings.map OrderedMap.entries := by
    refine ⟨fun hm => List.mem_map_of_mem hm, fun hm => ?_⟩
    obtain ⟨m', hm', heq⟩ := List.mem_map.1 hm
    exact OrderedMap.ext_entries heq ▸ hm'
  rw [hmem, entries_mappings]
  simp only [List.mem_map, List.mem_filter, mem_choices, List.forall₂_map_left_iff,
    decide_eq_true_eq]
  constructor
  · rintro ⟨ts, ⟨hall, hnodup⟩, hentries⟩
    have hlen : (index.searchOrder.map Prod.fst).length = ts.length := by
      simpa using hall.length_eq
    obtain ⟨hkeys, rfl⟩ := (OrderedMap.entries_eq_zip_iff hlen).1 hentries.symm
    exact ⟨hkeys, hnodup, hall⟩
  · rintro ⟨hkeys, hnodup, hall⟩
    exact ⟨m.values, ⟨hall, hnodup⟩, hkeys ▸ m.zip_keys_values⟩

/-- Of a mapping of some nodes in the order of the search, each value is a candidate of its key. -/
lemma forall₂_searchOrder_iff {order : SearchOrder} (horder : order ⊆ index.searchOrder)
    (hkeys : m.keys = order.map Prod.fst) :
    List.Forall₂ (fun e t => t ∈ e.2) order m.values ↔
      ∀ k t, m.find? k = some t → ∃ s, index.find? k = some s ∧ t ∈ s.toList := by
  have hentries : m.entries = (order.zip m.values).map (Prod.map Prod.fst id) := by
    rw [← m.zip_keys_values, hkeys, List.zip_map_left]
  rw [List.forall₂_iff_zip]
  constructor
  · rintro ⟨-, hall⟩ k t hkt
    have hkt := OrderedMap.find?_eq_some_iff.1 hkt
    rw [hentries, List.mem_map] at hkt
    obtain ⟨⟨e, t'⟩, hzip, hkt⟩ := hkt
    obtain ⟨rfl, rfl⟩ := Prod.mk.inj hkt
    obtain ⟨s, hs, hse⟩ := mem_searchOrder.1 (horder (List.of_mem_zip hzip).1)
    exact ⟨s, hs, hse ▸ hall hzip⟩
  · intro hcandidates
    refine ⟨?_, fun {e t} hzip => ?_⟩
    · rw [← List.length_map Prod.fst, ← hkeys, OrderedMap.length_keys, OrderedMap.length_values]
    · have hkt : (e.1, t) ∈ m.entries := hentries ▸ List.mem_map_of_mem hzip
      obtain ⟨s, hs, hts⟩ := hcandidates e.1 t (OrderedMap.find?_eq_some_iff.2 hkt)
      obtain ⟨s', hs', hse⟩ := mem_searchOrder.1 (horder (List.of_mem_zip hzip).1)
      rw [hs, Option.some_inj] at hs'
      exact hse ▸ hs' ▸ hts

/-- The mappings of an index map its nodes in the order of the search, every node to one of its
candidates, no two to the same. -/
theorem mem_mappings : m ∈ index.mappings ↔ m.keys = index.searchOrder.map Prod.fst ∧
    m.values.Nodup ∧ ∀ k t, m.find? k = some t → ∃ s, index.find? k = some s ∧ t ∈ s.toList := by
  rw [mem_mappings_iff_forall₂]
  exact and_congr_right fun hkeys => and_congr_right fun _ =>
    forall₂_searchOrder_iff (List.Subset.refl _) hkeys

/-- No mapping occurs twice. -/
theorem nodup_mappings (index : CandidateIndex) : index.mappings.Nodup := by
  have hcandidates : ∀ ts ∈ index.searchOrder.map Prod.snd, ts.Nodup := by
    intro ts hts
    obtain ⟨e, he, rfl⟩ := List.mem_map.1 hts
    obtain ⟨s, -, hs⟩ := mem_searchOrder.1 he
    exact hs ▸ s.nodup
  refine List.Nodup.of_map OrderedMap.entries ?_
  rw [entries_mappings]
  refine ((nodup_choices hcandidates).filter _).map_on fun ts hts us hus heq => ?_
  -- choices from as many lists as there are keys can be read off the entries
  have hlen {vs : List Ident} (hvs : vs ∈ (choices (index.searchOrder.map Prod.snd)).filter
      fun ts => ts.Nodup) : (index.searchOrder.map Prod.fst).length = vs.length := by
    simpa using (mem_choices.1 (List.mem_of_mem_filter hvs)).length_eq
  have hsnd := congrArg (List.map Prod.snd) heq
  rwa [List.map_snd_zip (Nat.le_of_eq (hlen hts).symm),
    List.map_snd_zip (Nat.le_of_eq (hlen hus).symm)] at hsnd

/-- Every choice of distinct candidates is among the mappings of an index. -/
theorem exists_mem_mappings {f : Ident → Ident}
    (hmem : ∀ k s, index.find? k = some s → f k ∈ s.toList)
    (hinj : ∀ k ∈ index.keys, ∀ j ∈ index.keys, f k = f j → k = j) :
    ∃ m ∈ index.mappings, ∀ k ∈ index.keys, m.find? k = some (f k) := by
  let ks := index.searchOrder.map Prod.fst
  have hperm : ks.Perm index.keys := index.perm_keys_searchOrder
  have hks : ks.Nodup := hperm.nodup_iff.2 index.nodup_keys
  refine ⟨.tabulate ks hks f, mem_mappings.2 ⟨OrderedMap.keys_tabulate, ?_, ?_⟩, fun k hk => ?_⟩
  · rw [OrderedMap.values_tabulate]
    refine hks.map_on ?_
    intro k hk j hj hkj
    exact hinj k (hperm.mem_iff.1 hk) j (hperm.mem_iff.1 hj) hkj
  · intro k t hkt
    obtain ⟨hk, rfl⟩ := OrderedMap.find?_tabulate.1 hkt
    obtain ⟨s, hs⟩ := OrderedMap.mem_keys_iff.1 (hperm.mem_iff.1 hk)
    exact ⟨s, hs, hmem k s hs⟩
  · exact OrderedMap.find?_tabulate.2 ⟨hperm.mem_iff.2 hk, rfl⟩

end CandidateIndex

end PropertyGraph
