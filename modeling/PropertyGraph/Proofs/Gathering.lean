/-
# Gathering by keys

The members of a list can be gathered by their keys: those under the first of some keys come first,
then those under the second, and so on, while members under one key stay in order (`gatherBy`).  If
the keys are distinct and no member has another key, nothing is lost (`perm_gatherBy`).

A list that consists of blocks, one under each key, is gathered already (`gatherBy_flatMap`), and
its keys in order of first appearance are those of the blocks (`eraseDups_flatMap`).  To see that
gathering leaves a list as it is, it is enough to look at its keys (`gatherBy_eq_self`).
-/
import Mathlib.Data.List.Induction
import Mathlib.Data.List.Nodup
import Mathlib.Tactic.Lemma

namespace PropertyGraph

variable {α β κ : Type} [BEq κ]

/-- The members of a list that have one of the given keys, key by key. -/
def gatherBy (key : α → κ) (ks : List κ) (xs : List α) : List α :=
  ks.flatMap fun k => xs.filter fun x => key x == k

lemma gatherBy_cons {key : α → κ} (k : κ) (ks : List κ) (xs : List α) :
    gatherBy key (k :: ks) xs = xs.filter (fun x => key x == k) ++ gatherBy key ks xs := by
  rw [gatherBy, List.flatMap_cons]
  rfl

lemma map_gatherBy {key : α → κ} {ks : List κ} (f : β → α) (ys : List β) :
    (gatherBy (key ∘ f) ks ys).map f = gatherBy key ks (ys.map f) := by
  simp [gatherBy, List.map_flatMap, List.filter_map, Function.comp_def]

variable [LawfulBEq κ]

/-! ### First appearances -/

/-- A value at the end of a list appears there for the first time, or has appeared before. -/
lemma eraseDups_concat (ks : List κ) (k : κ) :
    (ks ++ [k]).eraseDups = if k ∈ ks then ks.eraseDups else ks.eraseDups ++ [k] := by
  rw [List.eraseDups_append]
  by_cases h : k ∈ ks <;> simp [List.removeAll, h, List.eraseDups_cons]

lemma nodup_eraseDups (ks : List κ) : ks.eraseDups.Nodup := by
  induction ks using List.reverseRecOn with
  | nil => simp
  | append_singleton ks k ih =>
    rw [eraseDups_concat]
    split
    · exact ih
    · next h =>
      refine List.nodup_append.2 ⟨ih, List.nodup_singleton k, ?_⟩
      rintro a ha b hb rfl
      rw [List.mem_singleton] at hb
      exact h (hb ▸ List.mem_eraseDups.1 ha)

/-- The keys of blocks, each of which has members under its own key, appear in the order of the
blocks. -/
lemma eraseDups_flatMap {key : α → κ} {k : β → κ} {f : β → List α} {bs : List β}
    (hkey : ∀ b ∈ bs, ∀ x ∈ f b, key x = k b) (hne : ∀ b ∈ bs, f b ≠ [])
    (hnodup : (bs.map k).Nodup) : ((bs.flatMap f).map key).eraseDups = bs.map k := by
  induction bs with
  | nil => simp
  | cons b bs ih =>
    obtain ⟨hb, hbs⟩ := List.nodup_cons.1 hnodup
    obtain ⟨hkeyb, hkeys⟩ := List.forall_mem_cons.1 hkey
    obtain ⟨hneb, hnes⟩ := List.forall_mem_cons.1 hne
    obtain ⟨x, xs, hx⟩ := List.exists_cons_of_ne_nil hneb
    rw [hx, List.forall_mem_cons] at hkeyb
    have hhere : (xs.map key).filter (fun j => !j == k b) = [] := by
      rw [List.filter_eq_nil_iff, List.forall_mem_map]
      intro y hy
      simp [hkeyb.2 y hy]
    have hthere : ((bs.flatMap f).map key).filter (fun j => !j == k b) =
        (bs.flatMap f).map key := by
      rw [List.filter_eq_self, List.forall_mem_map]
      intro y hy
      obtain ⟨c, hc, hyc⟩ := List.mem_flatMap.1 hy
      have hne : k c ≠ k b := fun h => hb (h ▸ List.mem_map_of_mem hc)
      simp [hkeys c hc y hyc, hne]
    rw [List.flatMap_cons, hx, List.cons_append, List.map_cons, List.eraseDups_cons, hkeyb.1,
      List.map_append, List.filter_append, hhere, hthere, List.nil_append, ih hkeys hnes hbs,
      List.map_cons]

/-! ### What is gathered -/

variable {key : α → κ} {ks : List κ} {xs : List α}

lemma mem_gatherBy {x : α} : x ∈ gatherBy key ks xs ↔ x ∈ xs ∧ key x ∈ ks := by
  simp only [gatherBy, List.mem_flatMap, List.mem_filter, beq_iff_eq]
  constructor
  · rintro ⟨k, hk, hx, rfl⟩
    exact ⟨hx, hk⟩
  · rintro ⟨hx, hk⟩
    exact ⟨key x, hk, hx, rfl⟩

/-- Members under other keys do not matter. -/
lemma gatherBy_filter {p : α → Bool} (h : ∀ x ∈ xs, key x ∈ ks → p x = true) :
    gatherBy key ks (xs.filter p) = gatherBy key ks xs := by
  refine List.flatMap_congr fun k hk => ?_
  rw [List.filter_filter]
  refine List.filter_congr fun x hx => ?_
  by_cases hxk : key x = k
  · simp [h x hx (hxk ▸ hk)]
  · simp [hxk]

/-- If no key is missing, nothing is lost. -/
theorem perm_gatherBy (hks : ks.Nodup) (h : ∀ x ∈ xs, key x ∈ ks) :
    (gatherBy key ks xs).Perm xs := by
  induction ks generalizing xs with
  | nil =>
    rw [List.eq_nil_iff_forall_not_mem.2 fun x hx => List.not_mem_nil (h x hx)]
    exact .refl _
  | cons k ks ih =>
    obtain ⟨hk, hks⟩ := List.nodup_cons.1 hks
    -- the members under other keys are gathered by the other keys
    let p (x : α) : Bool := key x == k
    have hrest : (gatherBy key ks xs).Perm (xs.filter fun x => !p x) := by
      rw [← gatherBy_filter (p := fun x => !p x) fun x _ hx => ?_]
      · refine ih hks fun x hx => ?_
        obtain ⟨hx, hxk⟩ := List.mem_filter.1 hx
        exact (List.mem_cons.1 (h x hx)).resolve_left (by simpa [p] using hxk)
      · have hne : key x ≠ k := fun hxk => hk (hxk ▸ hx)
        simp [p, hne]
    rw [gatherBy_cons]
    exact (hrest.append_left _).trans (List.filter_append_perm p xs)

lemma filter_gatherBy (hks : ks.Nodup) {k : κ} (hk : k ∈ ks) :
    (gatherBy key ks xs).filter (fun x => key x == k) = xs.filter fun x => key x == k := by
  induction ks with
  | nil => simp at hk
  | cons j ks ih =>
    obtain ⟨hj, hks⟩ := List.nodup_cons.1 hks
    rw [gatherBy_cons, List.filter_append, List.filter_filter]
    by_cases hjk : j = k
    · subst hjk
      have hnil : (gatherBy key ks xs).filter (fun x => key x == j) = [] := by
        refine List.filter_eq_nil_iff.2 fun x hx => ?_
        have hne : key x ≠ j := fun hxj => hj (hxj ▸ (mem_gatherBy.1 hx).2)
        simp [hne]
      simp [hnil]
    · have hnil : xs.filter (fun x => key x == k && key x == j) = [] := by
        refine List.filter_eq_nil_iff.2 fun x _ => ?_
        simp only [Bool.and_eq_true, beq_iff_eq, not_and]
        rintro rfl rfl
        exact hjk rfl
      rw [hnil, List.nil_append, ih hks ((List.mem_cons.1 hk).resolve_left (Ne.symm hjk))]

/-- Blocks under distinct keys are gathered already. -/
theorem gatherBy_flatMap {k : β → κ} {f : β → List α} {bs : List β}
    (hkey : ∀ b ∈ bs, ∀ x ∈ f b, key x = k b) (hnodup : (bs.map k).Nodup) :
    gatherBy key (bs.map k) (bs.flatMap f) = bs.flatMap f := by
  induction bs with
  | nil => rfl
  | cons b bs ih =>
    obtain ⟨hb, hbs⟩ := List.nodup_cons.1 hnodup
    obtain ⟨hkeyb, hkeys⟩ := List.forall_mem_cons.1 hkey
    have hrest {x : α} (hx : x ∈ bs.flatMap f) : key x ≠ k b := by
      obtain ⟨c, hc, hxc⟩ := List.mem_flatMap.1 hx
      rw [hkeys c hc x hxc]
      exact fun h => hb (h ▸ List.mem_map_of_mem hc)
    have hfirst : (f b ++ bs.flatMap f).filter (fun x => key x == k b) = f b := by
      rw [List.filter_append, List.filter_eq_self.2 fun x hx => by simp [hkeyb x hx],
        List.filter_eq_nil_iff.2 fun x hx => by simp [hrest hx], List.append_nil]
    have hlast : (f b ++ bs.flatMap f).filter (fun x => !key x == k b) = bs.flatMap f := by
      rw [List.filter_append, List.filter_eq_nil_iff.2 fun x hx => by simp [hkeyb x hx],
        List.filter_eq_self.2 fun x hx => by simp [hrest hx], List.nil_append]
    have hothers : gatherBy key (bs.map k) (f b ++ bs.flatMap f) = bs.flatMap f := by
      rw [← gatherBy_filter (p := fun x => !key x == k b) fun x _ hx => ?_, hlast, ih hkeys hbs]
      have hne : key x ≠ k b := fun h => hb (h ▸ hx)
      simp [hne]
    rw [List.map_cons, List.flatMap_cons, gatherBy_cons, hfirst, hothers]

/-! ### Lists that are gathered already -/

/-- Lists with the same keys in the same order are the same if they are the same under each key. -/
lemma eq_of_map_eq_of_filter_eq (key : α → κ) {ys : List α} (hmap : xs.map key = ys.map key)
    (hfilter : ∀ k, xs.filter (fun x => key x == k) = ys.filter fun x => key x == k) :
    xs = ys := by
  induction xs generalizing ys with
  | nil => exact (List.map_eq_nil_iff.1 hmap.symm).symm
  | cons x xs ih =>
    obtain ⟨y, ys, rfl, hyx, htail⟩ := List.map_eq_cons_iff.1 hmap.symm
    have hhead := hfilter (key x)
    simp only [List.filter_cons, hyx, beq_self_eq_true, if_true, List.cons.injEq] at hhead
    obtain ⟨rfl, -⟩ := hhead
    refine congrArg _ (ih htail.symm fun k => ?_)
    have hk := hfilter k
    by_cases h : key x = k
    · simpa [List.filter_cons, h] using hk
    · simpa [List.filter_cons, h] using hk

/-- Gathering leaves a list as it is if it leaves its keys as they are. -/
theorem gatherBy_eq_self (hks : ks.Nodup) (hmem : ∀ x ∈ xs, key x ∈ ks)
    (hkeys : gatherBy id ks (xs.map key) = xs.map key) : gatherBy key ks xs = xs := by
  refine eq_of_map_eq_of_filter_eq key ?_ fun k => ?_
  · exact (map_gatherBy key xs).trans hkeys
  · by_cases hk : k ∈ ks
    · exact filter_gatherBy hks hk
    · have hnone {ys : List α} (h : ∀ y ∈ ys, key y ∈ ks) :
          ys.filter (fun y => key y == k) = [] := by
        refine List.filter_eq_nil_iff.2 fun y hy => ?_
        have hne : key y ≠ k := fun hyk => hk (hyk ▸ h y hy)
        simp [hne]
      rw [hnone hmem, hnone fun y hy => (mem_gatherBy.1 hy).2]

end PropertyGraph
