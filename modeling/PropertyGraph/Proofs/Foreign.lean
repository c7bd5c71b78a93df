/-
# Foreign values

Networks and tables name their elements by values of any kind, which are read as identifiers, as
types and as labels.  A whole number stays an identifier however long it is, but what has to become
a text can be too long to be written.  This is the only thing that can go wrong with an identifier
or a type (`Ident.ofForeign?_eq_ok_iff`, `Value.foreignText?_eq_ok_iff`), while labels can also be
no labels at all (`exists_parseLabels_iff`).
-/
import PropertyGraph.Network.Snapshot
import PropertyGraph.Proofs.Property.Reading
import PropertyGraph.Proofs.Writing

namespace PropertyGraph

/-! ### Identifiers and texts -/

lemma Value.foreignText?_eq_ok_iff {v : Value} {s : String} :
    v.foreignText? = .ok s ↔ v.isWritable = true ∧ s = v.shown := by
  rw [foreignText?, shown?]
  cases v.isWritable <;> simp [Except.mapError, eq_comm]

@[simp] lemma Value.foreignText?_text (s : String) : (Value.text s).foreignText? = .ok s :=
  foreignText?_eq_ok_iff.2 ⟨isWritable_text s, rfl⟩

namespace Ident

lemma ofForeign?_eq_ok_iff {v : Value} {i : Ident} :
    ofForeign? v = .ok i ↔ v.canIdentify = true ∧ i = ofForeign v := by
  rw [ofForeign?]
  cases v.canIdentify <;> simp [eq_comm]

lemma ofForeign_toValue (i : Ident) : ofForeign i.toValue = i := by
  cases i <;> rfl

@[simp] lemma ofForeign?_toValue (i : Ident) : ofForeign? i.toValue = .ok i := by
  refine ofForeign?_eq_ok_iff.2 ⟨?_, i.ofForeign_toValue.symm⟩
  cases i <;> rfl

end Ident

/-! ### Labels -/

lemma exists_forall₂_iff {α β : Type} {R : α → β → Prop} {xs : List α} :
    (∃ ys, List.Forall₂ R xs ys) ↔ ∀ x ∈ xs, ∃ y, R x y := by
  induction xs with
  | nil => simp
  | cons x xs ih =>
    rw [List.forall_mem_cons, ← ih]
    simp only [List.forall₂_cons_left_iff]
    exact ⟨fun ⟨_, y, ys, hy, hys, _⟩ => ⟨⟨y, hy⟩, ys, hys⟩,
      fun ⟨⟨y, hy⟩, ys, hys⟩ => ⟨_, y, ys, hy, hys, rfl⟩⟩

lemma parseLabels_list (names : List String) :
    parseLabels (.list (names.map .text)) = .ok names := by
  have hread : (names.map Value.text).mapM Value.foreignText? = .ok (names.map id) :=
    mapM_map_eq_ok fun s _ => Value.foreignText?_text s
  rwa [List.map_id] at hread

/-- Collections are never missing. -/
lemma Value.isMissing_of_members? {v : Value} {items : List Value} (h : v.members? = some items) :
    v.isMissing = false := by
  cases v with
  | list | tuple | set | array => rfl
  | _ => cases h

/-- A text, a missing value, or a collection of members that can be written, of which labels can be
made. -/
def Value.IsLabelCell (v : Value) : Prop :=
  (∃ s, v.asText? = some s) ∨
    (∃ items, v.members? = some items ∧ ∀ x ∈ items, x.isWritable = true) ∨ v.isMissing = true

lemma exists_parseLabels_iff {v : Value} :
    (∃ labels, parseLabels v = .ok labels) ↔ v.IsLabelCell := by
  rw [Value.IsLabelCell]
  unfold parseLabels
  cases v.asText? with
  | some s => simp
  | none =>
    simp only [reduceCtorEq, exists_const, false_or]
    split
    · next items hitems =>
      simp only [mapM_eq_ok_iff_forall₂, exists_forall₂_iff, Value.foreignText?_eq_ok_iff]
      simp [hitems, Value.isMissing_of_members? hitems]
    · next hitems => simp [hitems, Value.isMissing]
    · next hitems =>
      rw [hitems]
      split
      · next hmissing => simp [hmissing]
      · next hpresent => simp [hpresent]

end PropertyGraph
