/-
# What a number denotes

A number denotes a rational number, an infinity, or nothing at all.  Two numbers are equal in the
sense of `Scalar.equal` exactly when they denote the same, where not-a-number counts as a
denotation of its own.  So the equality of numbers, which is defined by scaling mantissas, is the
kernel of a function, and with it an equivalence relation.
-/
import Mathlib.Algebra.Field.Rat
import Mathlib.Algebra.Order.Field.Power
import Mathlib.Algebra.Order.Ring.Unbundled.Rat
import Mathlib.Tactic.NormNum
import Mathlib.Tactic.Ring
import PropertyGraph.Property.Equality

namespace PropertyGraph

/-- What a number denotes. -/
inductive Denotation
  | nan
  | infinity (negative : Bool)
  | rational (q : ℚ)

namespace Double

/-- What a double denotes; the zeros of both signs denote the same. -/
def denotation : Double → Denotation
  | .nan => .nan
  | .infinity negative => .infinity negative
  | .finite negative m e => .rational (signed negative m * 2 ^ e)

/-- Shifting a mantissa to a lower exponent does not change the number. -/
lemma scaled_to_lower (m : ℤ) {e low : ℤ} (h : low ≤ e) :
    ((m * Int.pow 2 (e - low).toNat : ℤ) : ℚ) * 2 ^ low = m * 2 ^ e := by
  have hshift : (2 : ℚ) ^ (e - low).toNat * 2 ^ low = 2 ^ e := by
    rw [← zpow_natCast, Int.toNat_of_nonneg (by omega), ← zpow_add₀ two_ne_zero]
    congr 1
    omega
  have hpow : Int.pow 2 (e - low).toNat = (2 : ℤ) ^ (e - low).toNat := rfl
  rw [hpow]
  push_cast
  rw [mul_assoc, hshift]

lemma sameScaled_iff {m e n k : ℤ} :
    sameScaled m e n k = true ↔ (m : ℚ) * 2 ^ e = n * 2 ^ k := by
  have hpos : (2 : ℚ) ^ min e k ≠ 0 := zpow_ne_zero _ two_ne_zero
  simp only [sameScaled, beq_iff_eq]
  rw [← scaled_to_lower m (min_le_left e k), ← scaled_to_lower n (min_le_right e k),
    mul_left_inj' hpos, Int.cast_inj]

lemma equalsInt_iff {x : Double} {i : ℤ} :
    x.equalsInt i = true ↔ x.denotation = .rational i := by
  cases x <;> simp [equalsInt, denotation, sameScaled_iff]

/-! ### Whole numbers among the doubles -/

lemma signed_mul (negative : Bool) (m n : ℕ) :
    signed negative (m * n) = signed negative m * n := by
  cases negative <;> simp [signed]

lemma quotient_den_pos (m : ℕ) (e : ℤ) : 0 < (quotient m e).2 := by
  cases e <;> simp [quotient, Nat.shiftLeft_eq]

/-- A finite double is equal to a whole number if its numerator is that many denominators. -/
lemma equalsInt_finite {negative : Bool} {m : ℕ} {e i : ℤ} :
    (finite negative m e).equalsInt i = true ↔
      signed negative (quotient m e).1 = i * ((quotient m e).2 : ℤ) := by
  cases e with
  | ofNat k => simp [equalsInt, sameScaled, quotient, Nat.shiftLeft_eq, signed_mul]
  | negSucc k =>
    have hlow : min (Int.negSucc k) 0 = Int.negSucc k := min_eq_left (Int.negSucc_lt_zero k).le
    simp [equalsInt, sameScaled, quotient, hlow, Nat.shiftLeft_eq]

/-- A double is read as the whole number that it is equal to, if there is one. -/
lemma toInt?_eq_some_iff {x : Double} {i : ℤ} : x.toInt? = some i ↔ x.equalsInt i = true := by
  cases x with
  | nan => simp [toInt?, equalsInt]
  | infinity s => simp [toInt?, equalsInt]
  | finite s m e =>
    rw [equalsInt_finite]
    simp only [toInt?]
    generalize hn : (quotient m e).1 = n
    generalize hd : (quotient m e).2 = d
    have hpos : 0 < d := hd ▸ quotient_den_pos m e
    constructor
    · intro h
      split at h
      · next hmod =>
        obtain ⟨k, rfl⟩ := Nat.dvd_of_mod_eq_zero hmod
        rw [Nat.mul_div_cancel_left k hpos, Option.some_inj] at h
        rw [Nat.mul_comm, signed_mul, h]
      · cases h
    · intro h
      -- a sign does not matter to divisibility, so the denominator divides the numerator
      have hint : (d : ℤ) ∣ signed s n := Dvd.intro_left i h.symm
      have hdvd : d ∣ n := by
        cases s with
        | false => exact Int.natCast_dvd_natCast.1 hint
        | true => exact Int.natCast_dvd_natCast.1 (Int.dvd_neg.1 hint)
      obtain ⟨k, rfl⟩ := hdvd
      rw [Nat.mul_comm, signed_mul] at h
      have hki : signed s k = i := Int.eq_of_mul_eq_mul_right (by omega) h
      rw [if_pos (Nat.mul_mod_right d k), Nat.mul_div_cancel_left k hpos, hki]

end Double

namespace Number

/-- What a number denotes. -/
def denotation : Number → Denotation
  | .int i => .rational i
  | .double x => x.denotation

/-- Numbers are equal when they denote the same; nothing is rounded on the way. -/
lemma equal_iff_denotation {m n : Number} :
    ((m.isNaN && n.isNaN) || m.numericEq n) = true ↔ m.denotation = n.denotation := by
  cases m with
  | int i =>
    cases n with
    | int j => simp [isNaN, numericEq, denotation]
    | double y =>
      simp only [isNaN, numericEq, denotation, Bool.false_and, Bool.false_or,
        Double.equalsInt_iff]
      exact eq_comm
  | double x =>
    cases n with
    | int j => simp [isNaN, numericEq, denotation, Double.equalsInt_iff]
    | double y =>
      cases x <;> cases y <;>
        simp [isNaN, numericEq, denotation, Double.denotation, Double.numericEq,
          Double.sameScaled_iff]

end Number

end PropertyGraph
