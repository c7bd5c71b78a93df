/-
# Looking up entries

What a key finds in a map is the value of the one entry that has this key, so a map can be read
as the function `find?` or as the set of its entries, whichever is at hand.
-/
import Mathlib.Data.List.Nodup
import Mathlib.Tactic.Lemma
import PropertyGraph.OrderedMap

namespace PropertyGraph
namespace OrderedMap

variable {κ α β : Type} [BEq κ]

/-- The values, in the order of their keys. -/
def values (m : OrderedMap κ α) : List α := m.entries.map Prod.snd

lemma ext_entries {m n : OrderedMap κ α} (h : m.entries = n.entries) : m = n := by
  cases m
  cases n
  simp only at h
  subst h
  rfl

@[simp] lemma length_keys (m : OrderedMap κ α) : m.keys.length = m.size := by
  simp [keys, size]

@[simp] lemma length_values (m : OrderedMap κ α) : m.values.length = m.size := by
  simp [values, size]

lemma zip_keys_values (m : OrderedMap κ α) : m.keys.zip m.values = m.entries := by
  rw [keys, values, List.zip_map', List.map_id']

lemma entries_eq_zip_iff {m : OrderedMap κ α} {ks : List κ} {vs : List α}
    (h : ks.length = vs.length) : m.entries = ks.zip vs ↔ m.keys = ks ∧ m.values = vs := by
  constructor
  · intro hm
    rw [keys, values, hm, List.map_fst_zip (Nat.le_of_eq h), List.map_snd_zip (Nat.le_of_eq h.symm)]
    exact ⟨rfl, rfl⟩
  · rintro ⟨rfl, rfl⟩
    exact m.zip_keys_values.symm

@[simp] lemma entries_erase (m : OrderedMap κ α) (k : κ) :
    (m.erase k).entries = m.entries.filter fun e => !(e.1 == k) := rfl

/-! ### New entries -/

section NewEntries

variable {m : OrderedMap κ α} {k : κ} {v : α}

/-- A key that is no key of a map yet goes to the end. -/
lemma entries_insert_of_contains_eq_false (h : m.contains k = false) :
    (m.insert k v).entries = m.entries ++ [(k, v)] := by
  simp [insert, h]

/-- Entries with new and distinct keys go to the end, in order. -/
lemma entries_insertMany_of_pairwise {es : List (κ × α)}
    (h : (m.entries ++ es).Pairwise fun a b => (a.1 == b.1) = false) :
    (m.insertMany es).entries = m.entries ++ es := by
  induction es generalizing m with
  | nil => simp [insertMany]
  | cons e es ih =>
    have he : m.contains e.1 = false :=
      List.any_eq_false.2 fun a ha =>
        Bool.eq_false_iff.1 ((List.pairwise_append.1 h).2.2 a ha e List.mem_cons_self)
    have hinsert : (m.insert e.1 e.2).entries = m.entries ++ [e] :=
      entries_insert_of_contains_eq_false he
    have hes := ih (m := m.insert e.1 e.2) (by simpa [hinsert] using h)
    rw [hinsert, List.append_assoc] at hes
    exact hes

lemma entries_ofList_of_pairwise {es : List (κ × α)}
    (h : es.Pairwise fun a b => (a.1 == b.1) = false) : (ofList es).entries = es :=
  entries_insertMany_of_pairwise h

lemma ofList_concat (es : List (κ × α)) (e : κ × α) :
    ofList (es ++ [e]) = (ofList es).insert e.1 e.2 := by
  simp [ofList, insertMany]

/-- What is not among the entries that a map is made from is not found. -/
lemma find?_eq_none_of_forall (h : ∀ e ∈ m.entries, (e.1 == k) = false) : m.find? k = none := by
  rw [find?, List.find?_eq_none.2 fun e he => by simp [h e he], Option.map_none]

end NewEntries

/-! ### Replacing values -/

section MapEntries

variable {m : OrderedMap κ α} {f : κ → α → β} {k : κ}

/-- Where keys that are `==` are treated alike, what is found is what was found before, replaced. -/
lemma find?_mapEntries (h : ∀ j, (j == k) = true → f j = f k) :
    (m.mapEntries f).find? k = (m.find? k).map (f k) := by
  simp only [find?, entries_mapEntries, List.find?_map, Function.comp_def, Option.map_map]
  cases hfind : m.entries.find? fun e => e.1 == k with
  | none => rfl
  | some e =>
    have hk := List.find?_some hfind
    simp [h e.1 hk]

lemma mapEntries_insert (h : ∀ j, (j == k) = true → f j = f k) (v : α) :
    (m.insert k v).mapEntries f = (m.mapEntries f).insert k (f k v) := by
  have hcontains : (m.mapEntries f).contains k = m.contains k := by
    simp [contains, Function.comp_def]
  refine ext_entries ?_
  cases hk : m.contains k with
  | false =>
    rw [entries_mapEntries, entries_insert_of_contains_eq_false hk,
      entries_insert_of_contains_eq_false (hcontains.trans hk), List.map_append]
    rfl
  | true =>
    simp only [insert, hcontains, hk, dif_pos, entries_mapEntries, List.map_map]
    refine List.map_congr_left fun e _ => ?_
    by_cases he : (e.1 == k) = true
    · simp [he, h e.1 he]
    · simp [he]

lemma mapEntries_insertMany (h : ∀ j k, (j == k) = true → f j = f k) (es : List (κ × α)) :
    (m.insertMany es).mapEntries f =
      (m.mapEntries f).insertMany (es.map fun e => (e.1, f e.1 e.2)) := by
  induction es generalizing m with
  | nil => rfl
  | cons e es ih =>
    rw [List.map_cons, insertMany, insertMany, List.foldl_cons, List.foldl_cons,
      ← mapEntries_insert fun j => h j e.1]
    exact ih

lemma mapEntries_ofList (h : ∀ j k, (j == k) = true → f j = f k) (es : List (κ × α)) :
    (ofList es).mapEntries f = ofList (es.map fun e => (e.1, f e.1 e.2)) :=
  mapEntries_insertMany h es

end MapEntries

/-! ### Looking up -/

variable [LawfulBEq κ] {m : OrderedMap κ α} {k : κ} {v : α}

lemma eq_of_mem_entries {e e' : κ × α} (he : e ∈ m.entries) (he' : e' ∈ m.entries)
    (hk : e.1 = e'.1) : e = e' :=
  List.inj_on_of_nodup_map m.nodup_keys he he' hk

lemma find?_eq_some_iff : m.find? k = some v ↔ (k, v) ∈ m.entries := by
  constructor
  · intro h
    obtain ⟨e, he, rfl⟩ := Option.map_eq_some_iff.1 h
    obtain rfl := key_of_find? he
    exact List.mem_of_find?_eq_some he
  · intro h
    have hsome : (m.entries.find? fun e => e.1 == k).isSome :=
      List.find?_isSome.2 ⟨(k, v), h, beq_self_eq_true k⟩
    obtain ⟨e, he⟩ := Option.isSome_iff_exists.1 hsome
    have hev : e = (k, v) :=
      eq_of_mem_entries (List.mem_of_find?_eq_some he) h (key_of_find? he)
    rw [find?, he, hev]
    rfl

lemma mem_keys_iff : k ∈ m.keys ↔ ∃ v, m.find? k = some v := by
  simp [keys, find?_eq_some_iff]

lemma find?_eq_none_iff : m.find? k = none ↔ k ∉ m.keys := by
  rw [mem_keys_iff, Option.eq_none_iff_forall_ne_some]
  push Not
  rfl

lemma mem_values_iff : v ∈ m.values ↔ ∃ k, m.find? k = some v := by
  simp [values, find?_eq_some_iff]

lemma values_eq_filterMap (m : OrderedMap κ α) : m.values = m.keys.filterMap m.find? := by
  rw [values, keys, List.filterMap_map, ← List.filterMap_eq_map]
  exact List.filterMap_congr fun e he => (find?_eq_some_iff.2 he).symm

/-- Maps with the same keys in the same order are the same if they find the same. -/
lemma ext_find? {n : OrderedMap κ α} (hkeys : m.keys = n.keys)
    (hfind : ∀ k ∈ m.keys, m.find? k = n.find? k) : m = n := by
  refine ext_entries ?_
  rw [← m.zip_keys_values, ← n.zip_keys_values, values_eq_filterMap, values_eq_filterMap, ← hkeys,
    List.filterMap_congr hfind]

lemma entries_insert_of_notMem (h : k ∉ m.keys) :
    (m.insert k v).entries = m.entries ++ [(k, v)] :=
  entries_insert_of_contains_eq_false (Bool.eq_false_iff.2 fun hc => h (contains_iff.1 hc))

lemma pairwise_of_nodup_keys {es : List (κ × α)} (h : (es.map Prod.fst).Nodup) :
    es.Pairwise fun a b => (a.1 == b.1) = false :=
  (List.pairwise_map.1 h).imp fun hne => beq_eq_false_iff_ne.2 hne

lemma entries_ofList {es : List (κ × α)} (h : (es.map Prod.fst).Nodup) :
    (ofList es).entries = es :=
  entries_ofList_of_pairwise (pairwise_of_nodup_keys h)

/-! ### The map of a function -/

/-- Some keys with their values under a function. -/
def tabulate (ks : List κ) (hks : ks.Nodup) (f : κ → α) : OrderedMap κ α where
  entries := ks.map fun k => (k, f k)
  distinct := List.pairwise_map.2 (hks.imp fun h => beq_eq_false_iff_ne.2 h)

variable {ks : List κ} {hks : ks.Nodup} {f : κ → α}

@[simp] lemma keys_tabulate : (tabulate ks hks f).keys = ks := by
  simp [keys, tabulate, Function.comp_def]

@[simp] lemma values_tabulate : (tabulate ks hks f).values = ks.map f := by
  simp [values, tabulate, Function.comp_def]

lemma find?_tabulate : (tabulate ks hks f).find? k = some v ↔ k ∈ ks ∧ f k = v := by
  rw [find?_eq_some_iff, tabulate, List.mem_map]
  constructor
  · rintro ⟨j, hj, hjv⟩
    obtain ⟨rfl, rfl⟩ := Prod.mk.inj hjv
    exact ⟨hj, rfl⟩
  · rintro ⟨hk, rfl⟩
    exact ⟨k, hk, rfl⟩

/-! ### The map on some keys -/

omit [LawfulBEq κ] in
/-- The entries whose keys are among some. -/
def restrict (m : OrderedMap κ α) (ks : List κ) : OrderedMap κ α where
  entries := m.entries.filter fun e => ks.contains e.1
  distinct := m.distinct.filter _

lemma find?_restrict {ks : List κ} :
    (m.restrict ks).find? k = some v ↔ k ∈ ks ∧ m.find? k = some v := by
  rw [find?_eq_some_iff, find?_eq_some_iff, restrict, List.mem_filter, List.contains_iff_mem,
    and_comm]

lemma mem_keys_restrict {ks : List κ} : k ∈ (m.restrict ks).keys ↔ k ∈ ks ∧ k ∈ m.keys := by
  rw [mem_keys_iff, mem_keys_iff]
  simp only [find?_restrict, exists_and_left]

/-! ### The inverse map -/

/-- The map from values to keys; of several keys with one value the last stays. -/
def inverse [BEq α] (m : OrderedMap κ α) : OrderedMap α κ := .ofList (m.entries.map Prod.swap)

variable [BEq α] [LawfulBEq α]

omit [LawfulBEq κ] in
lemma entries_inverse (h : m.values.Nodup) : m.inverse.entries = m.entries.map Prod.swap :=
  entries_ofList (by simpa [values, Function.comp_def] using h)

omit [LawfulBEq κ] in
lemma keys_inverse (h : m.values.Nodup) : m.inverse.keys = m.values := by
  simp [keys, values, entries_inverse h, Function.comp_def]

lemma find?_inverse (h : m.values.Nodup) : m.inverse.find? v = some k ↔ m.find? k = some v := by
  rw [find?_eq_some_iff, find?_eq_some_iff, entries_inverse h]
  simp

/-! ### One map after another -/

omit [LawfulBEq κ] [LawfulBEq α] in
/-- The map that sends a key to what the second map has for its value; keys whose value is no key
of the second map are dropped. -/
def andThen (m : OrderedMap κ α) (m' : OrderedMap α β) : OrderedMap κ β where
  entries := m.entries.filterMap fun e => (m'.find? e.2).map fun v => (e.1, v)
  distinct := by
    refine m.distinct.filterMap _ fun a b hab v hv w hw => ?_
    obtain ⟨_, -, rfl⟩ := Option.map_eq_some_iff.1 hv
    obtain ⟨_, -, rfl⟩ := Option.map_eq_some_iff.1 hw
    exact hab

variable {m' : OrderedMap α β}

omit [LawfulBEq α] in
lemma find?_andThen : (m.andThen m').find? k = (m.find? k).bind m'.find? := by
  ext w
  rw [find?_eq_some_iff, Option.bind_eq_some_iff, andThen, List.mem_filterMap]
  constructor
  · rintro ⟨⟨j, v⟩, he, hw⟩
    obtain ⟨w', hvw, heq⟩ := Option.map_eq_some_iff.1 hw
    obtain ⟨rfl, rfl⟩ := Prod.mk.inj heq
    exact ⟨v, find?_eq_some_iff.2 he, hvw⟩
  · rintro ⟨v, hkv, hvw⟩
    exact ⟨(k, v), find?_eq_some_iff.1 hkv, by rw [hvw]; rfl⟩

omit [LawfulBEq κ] in
/-- Where the second map goes on from every value of the first, no key is dropped. -/
lemma keys_andThen (h : ∀ v ∈ m.values, v ∈ m'.keys) : (m.andThen m').keys = m.keys := by
  rw [keys, keys, andThen, List.map_filterMap, ← List.filterMap_eq_map]
  refine List.filterMap_congr fun e he => ?_
  obtain ⟨w, hw⟩ := mem_keys_iff.1 (h e.2 (List.mem_map_of_mem he))
  rw [hw]
  rfl

end OrderedMap
end PropertyGraph
