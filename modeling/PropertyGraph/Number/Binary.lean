/-
# Binary floating-point numbers, decoded

A floating-point number is kept as what it denotes: not a number, an infinity, or a sign with
a whole mantissa and a power of two.  No machine arithmetic is involved, so comparisons with
whole numbers of any size are exact and every definition below can be reasoned about over
`Nat` and `Int`.

`FloatFormat.round` takes a quotient of whole numbers to the nearest number of a format, a tie
going to the even mantissa.  Double precision is the format in which numbers are stored; the
narrower formats are only passed through on the way in (`Double.throughFormat`).
-/
namespace PropertyGraph

/-- The finite numbers of a format are `± m * 2 ^ e` with `m < 2 ^ precision` and
`minExponent ≤ e ≤ maxExponent`. -/
structure FloatFormat where
  /-- The number of binary digits of a mantissa. -/
  precision : Nat
  /-- The power of two of the smallest positive number. -/
  minExponent : Int
  /-- The power of two of the last digit of the largest finite number. -/
  maxExponent : Int
deriving DecidableEq, Repr

namespace FloatFormat

/-- The 64-bit format. -/
def double : FloatFormat := ⟨53, -1074, 971⟩

/-- The 32-bit format. -/
def single : FloatFormat := ⟨24, -149, 104⟩

/-- The 16-bit format. -/
def half : FloatFormat := ⟨11, -24, 5⟩

end FloatFormat

/-- A floating-point number. -/
inductive Double
  /-- Not a number. -/
  | nan
  /-- An infinity, with its sign. -/
  | infinity (negative : Bool)
  /-- The number `± mantissa * 2 ^ exponent`; zero keeps its sign. -/
  | finite (negative : Bool) (mantissa : Nat) (exponent : Int)
deriving DecidableEq, Repr, Inhabited

/-- The quotient `num / den` as a whole number, a tie going to the even neighbour. -/
def roundHalfEven (num den : Nat) : Nat :=
  let quotient := num / den
  let twice := 2 * (num % den)
  if twice < den then quotient
  else if den < twice then quotient + 1
  else quotient + quotient % 2

/-- The quotient `num / den` divided by `2 ^ exponent`, as a quotient of whole numbers. -/
def scaleQuotient (num den : Nat) : Int → Nat × Nat
  | .ofNat e => (num, den <<< e)
  | .negSucc e => (num <<< (e + 1), den)

namespace FloatFormat

/-- The exponent at which the mantissa of `num / den` has exactly `precision` digits, raised
to the smallest exponent of the format where it is below that. -/
def exponentOf (f : FloatFormat) (num den : Nat) : Int :=
  let guess : Int := num.log2 - den.log2 - f.precision + 1
  let (n, d) := scaleQuotient num den guess
  -- The quotient lies strictly between `2 ^ (precision - 2)` and `2 ^ precision`.
  let exact := if n < d <<< (f.precision - 1) then guess - 1 else guess
  max exact f.minExponent

/-- The number of the format nearest to `± num / den`, a tie going to the even mantissa.
What is too large for the format becomes an infinity. -/
def round (f : FloatFormat) (negative : Bool) (num den : Nat) : Double :=
  if num = 0 then .finite negative 0 f.minExponent
  else
    let e := f.exponentOf num den
    let (n, d) := scaleQuotient num den e
    let m := roundHalfEven n d
    -- Rounding up can carry into one more digit.
    let (m, e) := if m < Nat.pow 2 f.precision then (m, e) else (m / 2, e + 1)
    if e ≤ f.maxExponent then .finite negative m e else .infinity negative

end FloatFormat

namespace Double

/-- Zero, with its sign. -/
def zero (negative : Bool) : Double := .finite negative 0 FloatFormat.double.minExponent

/-- The magnitude of a finite number as a quotient of whole numbers. -/
def quotient (mantissa : Nat) : Int → Nat × Nat
  | .ofNat e => (mantissa <<< e, 1)
  | .negSucc e => (mantissa, 1 <<< (e + 1))

/-- A number rounded to a format; the result is in the terms of that format. -/
def inFormat (f : FloatFormat) : Double → Double
  | .finite negative m e => let (n, d) := quotient m e; f.round negative n d
  | x => x

/-- A number rounded to a narrower format and widened again. -/
def throughFormat (f : FloatFormat) (x : Double) : Double :=
  (x.inFormat f).inFormat .double

/-- The double nearest to a whole number. -/
def ofInt (i : Int) : Double := FloatFormat.double.round (i < 0) i.natAbs 1

/-- A mantissa with its sign. -/
def signed (negative : Bool) (mantissa : Nat) : Int :=
  if negative then -mantissa else mantissa

/-- Whether `m * 2 ^ e` and `n * 2 ^ k` are the same number. -/
def sameScaled (m : Int) (e : Int) (n : Int) (k : Int) : Bool :=
  let low := min e k
  m * Int.pow 2 (e - low).toNat == n * Int.pow 2 (k - low).toNat

/-- Equality as numbers: zero has no sign, and not-a-number equals nothing. -/
def numericEq : Double → Double → Bool
  | .infinity s, .infinity t => s == t
  | .finite s m e, .finite t n k => sameScaled (signed s m) e (signed t n) k
  | _, _ => false

/-- Equality with a whole number, without rounding it. -/
def equalsInt (x : Double) (i : Int) : Bool :=
  match x with
  | .finite s m e => sameScaled (signed s m) e i 0
  | _ => false

/-- The whole number that a double is, if it is one. -/
def toInt? : Double → Option Int
  | .finite s m e =>
    let (n, d) := quotient m e
    if n % d = 0 then some (signed s (n / d)) else none
  | _ => none

/-- Whether a number is a zero of either sign. -/
def isZero : Double → Bool
  | .finite _ m _ => m == 0
  | _ => false

end Double

end PropertyGraph
