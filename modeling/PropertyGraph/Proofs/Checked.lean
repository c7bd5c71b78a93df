/-
# Readings side by side

A reading gives a value or a list of faults.  The faults of readings side by side are those of each,
one list after another (`Checked.faults_both`, `Checked.faults_all`), and a part is read one step
further away (`Checked.faults_under`).  No reading gets in the way of another: together they succeed
exactly if each does (`Checked.passes_both_iff`, `Checked.passes_all_iff`), with the values of each.
-/
import Mathlib.Data.List.Forall2
import Mathlib.Tactic.Lemma
import PropertyGraph.Fault

namespace PropertyGraph

/-- A fault one step further away. -/
def FieldFault.under (step : PathStep) (f : FieldFault) : FieldFault :=
  { f with path := step :: f.path }

namespace Checked

variable {α β : Type} {x : Checked α} {y : Checked β}

/-- The faults that were found. -/
def faults : Checked α → List FieldFault
  | .ok _ => []
  | .error fs => fs

/-- Something was read. -/
def Passes (x : Checked α) : Prop := ∃ a, x = .ok a

@[simp] lemma faults_ok (a : α) : faults (.ok a) = [] := rfl

@[simp] lemma faults_error (fs : List FieldFault) : faults (.error fs : Checked α) = fs := rfl

@[simp] lemma faults_fault (cause : FaultCause) :
    faults (fault cause : Checked α) = [⟨[], cause⟩] := rfl

@[simp] lemma passes_ok (a : α) : Passes (.ok a) := ⟨a, rfl⟩

@[simp] lemma not_passes_error (fs : List FieldFault) : ¬Passes (.error fs : Checked α) := by
  rintro ⟨a, ha⟩
  simp at ha

@[simp] lemma not_passes_fault (cause : FaultCause) : ¬Passes (fault cause : Checked α) :=
  not_passes_error _

/-! ### Parts -/

@[simp] lemma faults_map (f : α → β) (x : Checked α) : faults (x.map f) = x.faults := by
  cases x <;> rfl

@[simp] lemma passes_map_iff {f : α → β} : Passes (x.map f) ↔ x.Passes := by
  cases x <;> simp [Except.map, Passes]

lemma map_eq_ok_iff {f : α → β} {b : β} : x.map f = .ok b ↔ ∃ a, x = .ok a ∧ f a = b := by
  cases x <;> simp [Except.map]

@[simp] lemma under_eq_ok_iff {step : PathStep} {a : α} : under step x = .ok a ↔ x = .ok a := by
  cases x <;> simp [under, Except.mapError]

@[simp] lemma faults_under (step : PathStep) (x : Checked α) :
    (under step x).faults = x.faults.map (FieldFault.under step) := by
  cases x <;> rfl

@[simp] lemma passes_under_iff {step : PathStep} : (under step x).Passes ↔ x.Passes := by
  simp [Passes]

/-! ### Two readings -/

@[simp] lemma both_eq_ok_iff {a : α} {b : β} :
    both x y = .ok (a, b) ↔ x = .ok a ∧ y = .ok b := by
  cases x <;> cases y <;> simp [both]

@[simp] lemma faults_both (x : Checked α) (y : Checked β) :
    (both x y).faults = x.faults ++ y.faults := by
  cases x <;> cases y <;> simp [both]

@[simp] lemma passes_both_iff : (both x y).Passes ↔ x.Passes ∧ y.Passes := by
  simp [Passes, Prod.exists]

/-! ### Many readings -/

lemma all_eq_ok_iff {xs : List (Checked α)} {as : List α} :
    all xs = .ok as ↔ List.Forall₂ (fun x a => x = .ok a) xs as := by
  induction xs generalizing as with
  | nil => cases as <;> simp [all]
  | cons x xs ih =>
    cases x with
    | error fs => cases as <;> cases hxs : all xs <;> simp [all, hxs, both, Except.map]
    | ok a =>
      cases hxs : all xs with
      | error fs => cases as <;> simp [all, hxs, both, Except.map, ← ih]
      | ok as' => cases as <;> simp [all, hxs, both, Except.map, ← ih]

@[simp] lemma faults_all (xs : List (Checked α)) : (all xs).faults = xs.flatMap faults := by
  induction xs with
  | nil => rfl
  | cons x xs ih => rw [all, faults_map, faults_both, ih, List.flatMap_cons]

@[simp] lemma passes_all_iff {xs : List (Checked α)} : (all xs).Passes ↔ ∀ x ∈ xs, x.Passes := by
  induction xs with
  | nil => simp [all]
  | cons x xs ih => rw [all, passes_map_iff, passes_both_iff, ih, List.forall_mem_cons]

/-! ### The members of a collection -/

lemma members_eq_ok_iff {read : Value → Checked α} {items : List Value} {as : List α} :
    members read items = .ok as ↔ List.Forall₂ (fun v a => read v = .ok a) items as := by
  rw [members, all_eq_ok_iff, List.forall₂_map_left_iff]
  conv_rhs => rw [← List.zipIdx_map_fst 0 items, List.forall₂_map_left_iff]
  simp only [under_eq_ok_iff]

lemma faults_members (read : Value → Checked α) (items : List Value) :
    (members read items).faults =
      items.zipIdx.flatMap fun p => (read p.1).faults.map (FieldFault.under (.number p.2)) := by
  rw [members, faults_all, List.flatMap_map]
  simp only [faults_under]

lemma passes_members_iff {read : Value → Checked α} {items : List Value} :
    (members read items).Passes ↔ ∀ v ∈ items, (read v).Passes := by
  rw [members, passes_all_iff, List.forall_mem_map]
  simp only [passes_under_iff]
  constructor
  · intro h v hv
    obtain ⟨i, hi⟩ := List.mem_iff_getElem?.1 hv
    exact h (v, i) (List.mk_mem_zipIdx_iff_getElem?.2 hi)
  · intro h p hp
    exact h p.1 (List.fst_mem_of_mem_zipIdx hp)

end Checked

end PropertyGraph
