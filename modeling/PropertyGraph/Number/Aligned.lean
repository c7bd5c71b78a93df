/-
# Columns of floating-point numbers

Numbers that stand side by side or below each other are laid out alike.  Either all of them are in
positional notation, with their points at the same place, or all of them are in scientific notation
with equally many digits.  Scientific notation is used as soon as one of the numbers is too large or
too small for positional notation, or the largest is more than a thousand times the smallest.  No
more than eight digits follow a point.
-/
import PropertyGraph.Number.Decimal

namespace PropertyGraph

/-- Whether one quotient of whole numbers is less than another one. -/
def quotientLt (a b : Nat × Nat) : Bool := a.1 * b.2 < b.1 * a.2

/-- The power of ten below which no digit of a number in a column is shown. -/
def alignedPlaces : Nat := 8

namespace Double

/-- The magnitude of a number, if it is finite and not zero. -/
def magnitude? : Double → Option (Nat × Nat)
  | .finite _ m e => if m = 0 then none else some (quotient m e)
  | _ => none

/-- Whether a number is finite. -/
def isFinite : Double → Bool
  | .finite _ _ _ => true
  | _ => false

/-- Whether a number is less than zero or the negative zero. -/
def isNegative : Double → Bool
  | .nan => false
  | .infinity negative => negative
  | .finite negative _ _ => negative

/-- The sign of a number that stands in front of its digits; with `plus` every number has one. -/
def signText (plus : Bool) (x : Double) : String :=
  if x.isNegative then "-" else if plus then "+" else ""

/-- What stands before and after the point of a finite number in positional notation. -/
def positionalPieces (f : FloatFormat) (plus : Bool) (x : Double) : String × String :=
  let (whole, fraction) := match x with
    | .finite _ (m + 1) e =>
      FloatLayout.positionalParts (f.shortestFrom (m + 1) e (-alignedPlaces))
    | _ => ("0", "")
  (x.signText plus ++ whole, fraction)

/-- The power of ten of the first digit of a positive number. -/
def leadingPower (mantissa : Nat) (exponent : Int) : Int :=
  let (num, den) := quotient mantissa exponent
  FloatFormat.leadingPower num den

/-- What stands before and after the point of a finite number in scientific notation, and the
exponent.  There are no more digits than it takes to tell the number apart. -/
def scientificPieces (f : FloatFormat) (plus : Bool) (x : Double) : String × String × Int :=
  let (first, fraction, e) := match x with
    | .finite _ (m + 1) e =>
      let power := leadingPower (m + 1) e - alignedPlaces
      FloatLayout.scientificParts (f.shortestFrom (m + 1) e power)
    | _ => ("0", "", 0)
  (x.signText plus ++ first, fraction, e)

/-- A finite number in scientific notation with so many digits after the point, as far as the number
itself has them; the widths are those of what stands before the point and of the exponent. -/
def scientificText (f : FloatFormat) (plus : Bool) (left places width : Nat) (x : Double) :
    String :=
  let (first, fraction, e) := match x with
    | .finite _ (m + 1) e =>
      let power := leadingPower (m + 1) e - places
      FloatLayout.scientificParts ((f.onGrid (m + 1) e power).trim 400)
    | _ => ("0", "", 0)
  Text.padLeft left (x.signText plus ++ first) ++ "." ++ fraction ++
    Text.repeated '0' (places - fraction.length) ++ "e" ++ FloatLayout.exponentDigits width e

end Double

namespace FloatFormat

/-- Whether a column of numbers of a format calls for scientific notation. -/
def prefersScientific (f : FloatFormat) (xs : List Double) : Bool :=
  match xs.filterMap Double.magnitude? with
  | [] => false
  | q :: qs =>
    let largest := qs.foldl (fun a b => if quotientLt a b then b else a) q
    let smallest := qs.foldl (fun a b => if quotientLt b a then b else a) q
    let bound (x : Double) := x.magnitude?.getD (0, 1)
    let tooLarge := !quotientLt largest (Nat.pow 10 (min alignedPlaces f.decimalDigits), 1)
    let tooSmall := quotientLt smallest (bound (f.round false 1 10000))
    let ratio := f.round false (largest.1 * smallest.2) (largest.2 * smallest.1)
    let tooFar := match ratio.magnitude? with
      | some r => quotientLt (1000, 1) r
      | none => true
    tooLarge || tooSmall || tooFar

end FloatFormat

/-- The texts of the numbers of a column; `left` and `right` are the widths of what stands before
and after the points, and `finiteText` is the text of a finite number within these widths.  What is
not finite ends where the other numbers end. -/
def alignedColumn (plus : Bool) (left right : Nat) (finiteText : Nat → Double → String)
    (xs : List Double) : List String :=
  let special (x : Double) : String := match x with
    | .nan => x.signText plus ++ "nan"
    | _ => x.signText plus ++ "inf"
  -- An infinity takes up a sign if any number of the column could have one.
  let signed := plus || xs.any fun x => x == .infinity true
  let room := (if signed then 4 else 3) - (right + 1)
  let left := if xs.all Double.isFinite then left else max left room
  xs.map fun x =>
    if x.isFinite then finiteText left x else Text.padLeft (left + right + 1) (special x)

/-- The texts of the numbers of a column, all of them equally wide.  The numbers are in the terms
of a format; with `plus` every number has a sign. -/
def alignedTexts (f : FloatFormat) (plus : Bool) (xs : List Double) : List String :=
  let finite := xs.filter Double.isFinite
  if f.prefersScientific finite then
    let pieces := finite.map (Double.scientificPieces f plus)
    let places := Text.widest (pieces.map fun p => p.2.1)
    let width := max 2 (Text.widest (pieces.map fun p => Decimal.digitText p.2.2.natAbs))
    alignedColumn plus (Text.widest (pieces.map Prod.fst)) (width + 2 + places)
      (fun left x => x.scientificText f plus left places width) xs
  else
    let pieces := finite.map (Double.positionalPieces f plus)
    let right := Text.widest (pieces.map Prod.snd)
    alignedColumn plus (Text.widest (pieces.map Prod.fst)) right
      (fun left x =>
        let (whole, fraction) := x.positionalPieces f plus
        Text.padLeft left whole ++ "." ++ Text.padRight right fraction)
      xs

end PropertyGraph
