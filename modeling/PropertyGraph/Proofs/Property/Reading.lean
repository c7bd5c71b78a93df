/-
# Reading stored properties

A property turned into a value is stored as the same property again
(`Property.ofValue?_toValue`), and the properties of an element, with their keys as texts, are read
back as they are (`readProperties_toValue`).
-/
import Mathlib.Data.List.Forall2
import PropertyGraph.Payload
import PropertyGraph.Proofs.Checked
import PropertyGraph.Proofs.OrderedMap

namespace PropertyGraph

/-! ### Reading many things -/

/-- A list is read element by element. -/
lemma mapM_eq_ok_iff_forall₂ {α β ε : Type} {f : α → Except ε β} {xs : List α} {ys : List β} :
    xs.mapM f = .ok ys ↔ List.Forall₂ (fun x y => f x = .ok y) xs ys := by
  induction xs generalizing ys with
  | nil => cases ys <;> simp [pure, Except.pure]
  | cons x xs ih =>
    rw [List.mapM_cons]
    cases hx : f x with
    | error e => cases ys <;> simp [bind, Except.bind, hx]
    | ok y =>
      cases hxs : xs.mapM f with
      | error e => cases ys <;> simp [bind, Except.bind, hx, ← ih, hxs]
      | ok zs => cases ys <;> simp [bind, Except.bind, pure, Except.pure, hx, ← ih, hxs]

/-- Where every element is read without a fault, so is the list. -/
lemma mapM_map_eq_ok {α β γ ε : Type} {f : β → Except ε γ} {g : α → β} {h : α → γ} {xs : List α}
    (hf : ∀ x ∈ xs, f (g x) = .ok (h x)) : (xs.map g).mapM f = .ok (xs.map h) := by
  rw [mapM_eq_ok_iff_forall₂, List.forall₂_map_left_iff, List.forall₂_map_right_iff,
    List.forall₂_same]
  exact hf

/-- What every element keeps when it is read, the list keeps. -/
lemma map_eq_of_mapM_eq_ok {α β γ ε : Type} {f : α → Except ε β} {a : α → γ} {b : β → γ}
    (hf : ∀ x y, f x = .ok y → b y = a x) {xs : List α} {ys : List β} (h : xs.mapM f = .ok ys) :
    ys.map b = xs.map a := by
  have hread := mapM_eq_ok_iff_forall₂.1 h
  clear h
  induction hread with
  | nil => rfl
  | cons hxy _ ih => rw [List.map_cons, List.map_cons, hf _ _ hxy, ih]

lemma map_eq_map_iff_forall₂ {α β γ : Type} {f : α → γ} {g : β → γ} {xs : List α} {ys : List β} :
    xs.map f = ys.map g ↔ List.Forall₂ (fun x y => f x = g y) xs ys := by
  rw [← List.forall₂_eq_eq_eq, List.forall₂_map_left_iff, List.forall₂_map_right_iff]

/-- Where positions play no part, numbering does not either. -/
lemma map_zipIdx_eq_map {α β : Type} {f : α × Nat → β} {g : α → β} {xs : List α}
    (h : ∀ x ∈ xs, ∀ i, f (x, i) = g x) : xs.zipIdx.map f = xs.map g := by
  conv_rhs => rw [← List.zipIdx_map_fst 0 xs, List.map_map]
  exact List.map_congr_left fun p hp => h p.1 (List.fst_mem_of_mem_zipIdx hp) p.2

/-- A list is read element by element, each with its position. -/
lemma mapM_zipIdx_eq_ok {α β γ ε : Type} {f : α → Nat → Except ε β} {g : γ → Nat → β}
    {xs : List α} {ys : List γ} (k : Nat)
    (h : List.Forall₂ (fun x y => ∀ i, f x i = .ok (g y i)) xs ys) :
    ((xs.zipIdx k).mapM fun p => f p.1 p.2) = .ok ((ys.zipIdx k).map fun p => g p.1 p.2) := by
  rw [mapM_eq_ok_iff_forall₂]
  induction h generalizing k with
  | nil => exact .nil
  | cons hxy _ ih =>
    rw [List.zipIdx_cons, List.zipIdx_cons, List.map_cons]
    exact .cons (hxy k) (ih (k + 1))

/-! ### Properties -/

lemma Scalar.ofValue?_toValue (s : Scalar) : Scalar.ofValue? s.toValue = .ok s := by
  cases s <;> rfl

/-- A property survives being turned into a value. -/
theorem Property.ofValue?_toValue (p : Property) : Property.ofValue? p.toValue = .ok p := by
  cases p with
  | scalar s => cases s <;> rfl
  | array items uniform =>
    have hitems : (items.map Scalar.toValue).mapM Scalar.ofValue? = .ok (items.map id) :=
      mapM_map_eq_ok fun s _ => s.ofValue?_toValue
    rw [List.map_id] at hitems
    show Property.ofItems? (items.map Scalar.toValue) = .ok (.array items uniform)
    rw [Property.ofItems?, hitems]
    simp [bind, Except.bind, pure, Except.pure, uniform]

lemma readText_eq_ok_iff {v : Value} {s : String} :
    readText v = .ok s ↔ v.decodeText? = some s := by
  unfold readText
  split <;> simp_all [Checked.fault]

lemma readType_text {s : String} (h : s ≠ "") : readType (.text s) = .ok ⟨s, h⟩ := by
  have htext : readText (.text s) = .ok s := rfl
  rw [readType, htext]
  exact dif_neg h

/-- Where every key is a text and every value can be stored, all properties are read. -/
lemma readProperties_eq_ok {entries : List (Value × Value)} {stored : List (String × Property)}
    (h : List.Forall₂ (fun e q => e.1.decodeText? = some q.1 ∧ Property.ofValue? e.2 = .ok q.2)
      entries stored) : readProperties (.map entries) = .ok (.ofList stored) := by
  -- the values are read before the keys, so between the two the keys are as they were given
  obtain ⟨between, hvalues, hkeys⟩ : ∃ between : List (Value × Property),
      List.Forall₂ (fun e s => ((Property.ofValue? e.2).map fun p => (e.1, p)) = .ok s)
        entries between ∧
      List.Forall₂ (fun s q => readEntry s = .ok q) between stored := by
    induction h with
    | nil => exact ⟨[], .nil, .nil⟩
    | @cons e q _ _ hq _ ih =>
      obtain ⟨between, hvalues, hkeys⟩ := ih
      refine ⟨(e.1, q.2) :: between, .cons ?_ hvalues, .cons ?_ hkeys⟩
      · rw [hq.2]
        rfl
      · rw [readEntry, readText_eq_ok_iff.2 hq.1]
        rfl
  have hall : Checked.all (between.map readEntry) = .ok stored := by
    rw [Checked.all_eq_ok_iff, List.forall₂_map_left_iff]
    exact hkeys
  rw [readProperties, mapM_eq_ok_iff_forall₂.2 hvalues]
  simp only [hall, Except.map]

lemma readProperties_map_eq_ok {α : Type} {f : α → Value × Value} {g : α → String × Property}
    {xs : List α}
    (h : ∀ x ∈ xs, (f x).1.decodeText? = some (g x).1 ∧ Property.ofValue? (f x).2 = .ok (g x).2) :
    readProperties (.map (xs.map f)) = .ok (.ofList (xs.map g)) := by
  refine readProperties_eq_ok ?_
  rw [List.forall₂_map_left_iff, List.forall₂_map_right_iff, List.forall₂_same]
  exact h

/-- Properties survive being turned into a map. -/
theorem readProperties_toValue (ps : Properties) : readProperties ps.toValue = .ok ps := by
  have hread : readProperties ps.toValue = .ok (.ofList (ps.entries.map id)) :=
    readProperties_map_eq_ok fun e _ => ⟨rfl, e.2.ofValue?_toValue⟩
  have hofList : OrderedMap.ofList ps.entries = ps :=
    OrderedMap.ext_entries (OrderedMap.entries_ofList_of_pairwise ps.distinct)
  rw [hread, List.map_id, hofList]

end PropertyGraph
