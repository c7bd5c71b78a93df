/-
# Numbers

A number is a whole number of any size or a double.  The two are compared by the exact number
they denote, with no rounding on either side.
-/
import PropertyGraph.Number.Decimal

namespace PropertyGraph

/-- A number. -/
inductive Number
  /-- A whole number. -/
  | int (i : Int)
  /-- A floating-point number. -/
  | double (x : Double)
deriving DecidableEq, Repr, Inhabited

namespace Number

/-- Equality as numbers: zero has no sign, and not-a-number equals nothing. -/
def numericEq : Number → Number → Bool
  | .int i, .int j => i == j
  | .int i, .double y => y.equalsInt i
  | .double x, .int j => x.equalsInt j
  | .double x, .double y => x.numericEq y

/-- Whether a number is not-a-number. -/
def isNaN : Number → Bool
  | .double .nan => true
  | _ => false

/-- Whether a number is a zero of either sign. -/
def isZero : Number → Bool
  | .int i => i == 0
  | .double x => x.isZero

/-- A number as a double, rounded if need be. -/
def toDouble : Number → Double
  | .int i => .ofInt i
  | .double x => x

/-- Whether a whole number fits 64 bits, one of them being a sign. -/
def fitsSigned (i : Int) : Bool := -9223372036854775808 ≤ i && i ≤ 9223372036854775807

/-- Whether a whole number fits 64 bits without a sign. -/
def fitsUnsigned (i : Int) : Bool := 0 ≤ i && i ≤ 18446744073709551615

/-- The greatest number of digits with which a whole number is read or written. -/
def digitLimit : Nat := 4300

/-- Whether a number can be written: a whole number must not have too many digits, its sign not
being counted. -/
def isWritable : Number → Bool
  | .int i => (Nat.toDigits 10 i.natAbs).length ≤ digitLimit
  | .double _ => true

/-- The text of a number that can be written. -/
def text : Number → String
  | .int i => toString i
  | .double x => x.text

end Number

end PropertyGraph
