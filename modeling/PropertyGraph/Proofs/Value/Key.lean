/-
# Being the same key

Being the same key is symmetric (`Value.sameKey_comm`), although not reflexive: not-a-number is not
the same key as itself.  A value finds at most one identifier, the one that is the same key
(`Ident.ofKey?_eq_some_iff`): a double, for example, finds the whole number that it is equal to.
What is the same key as a text is known by this text (`Value.beq_text_iff`).
-/
import PropertyGraph.Snapshot.Index
import PropertyGraph.Proofs.Number.Denotation

namespace PropertyGraph

/-! ### Symmetry -/

lemma Double.sameScaled_comm (m e n k : Int) : sameScaled m e n k = sameScaled n k m e := by
  simp only [sameScaled, Int.min_comm e k]
  exact BEq.comm

lemma Double.numericEq_comm (x y : Double) : x.numericEq y = y.numericEq x := by
  cases x <;> cases y <;> simp only [numericEq]
  case infinity.infinity s t => exact BEq.comm
  case finite.finite s m e t n k => exact sameScaled_comm _ _ _ _

lemma Number.numericEq_comm (m n : Number) : m.numericEq n = n.numericEq m := by
  cases m <;> cases n <;> simp only [numericEq]
  case int.int i j => exact BEq.comm
  case double.double x y => exact x.numericEq_comm y

namespace Value

lemma samePlainKey_comm (v w : Value) : v.samePlainKey w = w.samePlainKey v := by
  unfold samePlainKey
  cases hv : v.keyNumber? with
  | some m =>
    cases hw : w.keyNumber? with
    | some n => exact m.numericEq_comm n
    | none => rfl
  | none =>
    cases hw : w.keyNumber? with
    | some n => rfl
    | none =>
      cases v <;> cases w <;> try rfl
      case complex.complex a b c d =>
        simp only [Double.numericEq_comm a c, Double.numericEq_comm b d]
      all_goals exact BEq.comm

lemma samePlainKey_tuple (v : Value) (ws : List Value) : v.samePlainKey (.tuple ws) = false := by
  unfold samePlainKey
  cases v.keyNumber? <;> cases v <;> rfl

/-- What is no tuple is compared by what it is known by. -/
lemma sameKey_of_ne_tuple {v : Value} (hv : ∀ vs, v = .tuple vs → False) (w : Value) :
    v.sameKey w = ((v.keyContent?.bind fun a => w.keyContent?.map a.samePlainKey).getD false) := by
  rw [sameKey.eq_3 v w hv]
  cases v.keyContent? <;> cases w.keyContent? <;> rfl

lemma sameKey_comm_of_ne_tuple {v : Value} (hv : ∀ vs, v = .tuple vs → False) (w : Value) :
    v.sameKey w = w.sameKey v := by
  by_cases hw : ∃ ws, w = .tuple ws
  · -- a tuple is the same key as a tuple only
    obtain ⟨ws, rfl⟩ := hw
    rw [sameKey.eq_2 v ws hv, sameKey_of_ne_tuple hv]
    cases v.keyContent? <;> simp [keyContent?, samePlainKey_tuple]
  · rw [sameKey_of_ne_tuple hv, sameKey_of_ne_tuple fun ws h => hw ⟨ws, h⟩]
    cases v.keyContent? <;> cases w.keyContent? <;> simp [samePlainKey_comm]

mutual

/-- Being the same key does not depend on which value comes first. -/
theorem sameKey_comm (v w : Value) : v.sameKey w = w.sameKey v := by
  cases v with
  | tuple vs =>
    cases w with
    | tuple ws =>
      rw [sameKey, sameKey]
      exact sameKeys_comm vs ws
    | _ => exact (sameKey_comm_of_ne_tuple (fun _ h => by cases h) _).symm
  | _ => exact sameKey_comm_of_ne_tuple (fun _ h => by cases h) _

lemma sameKeys_comm (vs ws : List Value) : sameKeys vs ws = sameKeys ws vs := by
  match vs, ws with
  | [], [] => rfl
  | [], _ :: _ => rfl
  | _ :: _, [] => rfl
  | v :: vs, w :: ws => rw [sameKeys, sameKeys, sameKey_comm v w, sameKeys_comm vs ws]

end

end Value

/-! ### Texts and identifiers as keys -/

namespace Value

lemma samePlainKey_int_iff {a : Int} {w : Value} : (Value.int a).samePlainKey w = true ↔
    ∃ n, w.keyNumber? = some n ∧ (Number.int a).numericEq n = true := by
  cases hw : w.keyNumber? <;> simp [Value.int, samePlainKey, keyNumber?.eq_2, hw]

lemma samePlainKey_text_iff {s : String} {w : Value} :
    (Value.text s).samePlainKey w = true ↔ w = .text s := by
  cases w with
  | text t =>
    simp only [samePlainKey, keyNumber?, beq_iff_eq, text.injEq]
    exact eq_comm
  | complex re im => cases h : im.isZero <;> simp [samePlainKey, keyNumber?, h]
  | _ => simp [samePlainKey, keyNumber?]

end Value

namespace Ident

/-- An identifier is compared with what the other key is known by. -/
lemma toValue_beq_eq_true_iff (i : Ident) (v : Value) :
    (i.toValue == v) = true ↔
      ∃ w, v.keyContent? = some w ∧ i.toValue.samePlainKey w = true := by
  have hplain : i.toValue.keyContent? = some i.toValue := by cases i <;> rfl
  have hnot : ∀ vs, i.toValue = .tuple vs → False := by
    intro vs h
    cases i <;> simp [toValue, Value.int] at h
  show i.toValue.sameKey v = true ↔ _
  rw [Value.sameKey_of_ne_tuple hnot, hplain]
  cases v.keyContent? <;> simp

/-- What a value finds among identifiers is the identifier that is the same key. -/
theorem ofKey?_eq_some_iff {v : Value} {i : Ident} :
    Ident.ofKey? v = some i ↔ (i.toValue == v) = true := by
  rw [toValue_beq_eq_true_iff, Ident.ofKey?]
  cases v.keyContent? with
  | none => simp
  | some w =>
    cases i with
    | int a =>
      simp only [toValue, Option.some.injEq, exists_eq_left', Value.samePlainKey_int_iff]
      cases w with
      | bool b =>
        simp only [Value.keyNumber?, Number.numericEq, beq_iff_eq, Option.some.injEq,
          exists_eq_left', int.injEq]
        exact eq_comm
      | number n =>
        cases n with
        | int b =>
          simp only [Value.keyNumber?, Number.numericEq, beq_iff_eq, Option.some.injEq,
            exists_eq_left', int.injEq]
          exact eq_comm
        | double x => simp [Value.keyNumber?, Number.numericEq, Double.toInt?_eq_some_iff]
      | complex re im =>
        cases him : im.isZero <;>
          simp [Value.keyNumber?, Number.numericEq, Double.toInt?_eq_some_iff, him]
      | _ => simp [Value.keyNumber?]
    | text s =>
      simp only [toValue, Option.some.injEq, exists_eq_left', Value.samePlainKey_text_iff]
      cases w with
      | number n => cases n <;> simp
      | _ => simp

lemma toValue_beq_eq (i : Ident) (v : Value) : (i.toValue == v) = (some i == Ident.ofKey? v) := by
  rw [Bool.eq_iff_iff, ← ofKey?_eq_some_iff, beq_iff_eq]
  exact eq_comm

/-- Whatever finds an identifier can be a key. -/
lemma isKey_of_toValue_beq {i : Ident} {v : Value} (h : (i.toValue == v) = true) :
    v.isKey = true := by
  have hfound := ofKey?_eq_some_iff.2 h
  cases v with
  | list _ | set _ | map _ | array _ _ _ _ | tuple _ => simp [ofKey?, Value.keyContent?] at hfound
  | _ => rfl

end Ident

namespace Value

variable {v w : Value} {s : String}

/-- What is the same key as a text is known by this text. -/
lemma beq_text_iff : (v == .text s) = true ↔ v.keyContent? = some (.text s) := by
  have hcomm : (v == .text s) = ((Ident.text s).toValue == v) := sameKey_comm v (.text s)
  rw [hcomm, Ident.toValue_beq_eq_true_iff]
  simp [Ident.toValue, samePlainKey_text_iff]

/-- The same key is the same key as a text, or is not, for both. -/
lemma beq_text_congr (h : (v == w) = true) : (v == .text s) = (w == .text s) := by
  have hforth {a b : Value} (hab : a.sameKey b = true) (ha : (a == .text s) = true) :
      (b == .text s) = true := by
    rw [beq_text_iff] at ha ⊢
    have hnot : ∀ as, a = .tuple as → False := by
      rintro as rfl
      simp [keyContent?] at ha
    rw [sameKey_of_ne_tuple hnot, ha] at hab
    cases hb : b.keyContent? with
    | none => simp [hb] at hab
    | some c =>
      simp only [hb, Option.bind_some, Option.map_some, Option.getD_some] at hab
      rw [samePlainKey_text_iff.1 hab]
  rw [Bool.eq_iff_iff]
  exact ⟨hforth h, hforth (sameKey_comm v w ▸ h)⟩

/-- Values that are the same key as a text are the same key. -/
lemma beq_of_beq_text (hv : (v == .text s) = true) (hw : (w == .text s) = true) :
    (v == w) = true := by
  rw [beq_text_iff] at hv hw
  have hnot : ∀ vs, v = .tuple vs → False := by
    rintro vs rfl
    simp [keyContent?] at hv
  show v.sameKey w = true
  rw [sameKey_of_ne_tuple hnot, hv, hw]
  exact samePlainKey_text_iff.2 rfl

end Value

end PropertyGraph
