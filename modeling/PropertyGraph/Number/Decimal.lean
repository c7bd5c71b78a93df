/-
# Decimal text of floating-point numbers

`FloatFormat.shortest` finds the shortest decimal that reads back as a given number, and of those
the one nearest to it; `FloatLayout` says how the digits are laid out on paper; `Double.ofText?`
reads a decimal.  Everything is exact arithmetic on whole numbers.
-/
import PropertyGraph.Number.Binary
import PropertyGraph.Text.Blank
import PropertyGraph.Text.Digit
import PropertyGraph.Text.Padded

namespace PropertyGraph

/-- A decimal number `digits * 10 ^ exponent`. -/
structure Decimal where
  /-- The significant digits, as one whole number. -/
  digits : Nat
  /-- The power of ten of the last digit. -/
  exponent : Int
deriving DecidableEq, Repr

namespace Decimal

/-- The decimal digits of a whole number, the first one first. -/
def digitText (n : Nat) : String := String.ofList (Nat.toDigits 10 n)

/-- Trailing zeros moved into the exponent, at most `fuel` of them. -/
def trim : Nat → Decimal → Decimal
  | 0, d => d
  | fuel + 1, d =>
    if d.digits ≠ 0 ∧ d.digits % 10 = 0 then trim fuel ⟨d.digits / 10, d.exponent + 1⟩ else d

/-- The quotient of whole numbers that a decimal is. -/
def toQuotient (d : Decimal) : Nat × Nat :=
  match d.exponent with
  | .ofNat e => (d.digits * Nat.pow 10 e, 1)
  | .negSucc e => (d.digits, Nat.pow 10 (e + 1))

end Decimal

/-! ### The shortest decimal -/

namespace FloatFormat

/-- The decimals that read back as `mantissa * 2 ^ exponent` lie between these two multiples of
`2 ^ (exponent - 2)`, which belong to them exactly when the mantissa is even.  Below a power of
two the numbers lie twice as close. -/
def roundingBounds (f : FloatFormat) (mantissa : Nat) (exponent : Int) : Nat × Nat :=
  let narrow := mantissa = Nat.pow 2 (f.precision - 1) ∧ f.minExponent < exponent
  (4 * mantissa - (if narrow then 1 else 2), 4 * mantissa + 2)

/-- Whether a decimal reads back as `mantissa * 2 ^ exponent`. -/
def readsBack (f : FloatFormat) (mantissa : Nat) (exponent : Int) (d : Decimal) : Bool :=
  let (low, high) := f.roundingBounds mantissa exponent
  let (lowNum, lowDen) := Double.quotient low (exponent - 2)
  let (highNum, highDen) := Double.quotient high (exponent - 2)
  let (num, den) := d.toQuotient
  if mantissa % 2 = 0 then lowNum * den ≤ num * lowDen ∧ num * highDen ≤ highNum * den
  else lowNum * den < num * lowDen ∧ num * highDen < highNum * den

/-- The power of ten of the first digit of `num / den`, which is not zero. -/
def leadingPower (num den : Nat) : Int :=
  let guess : Int := ((num.log2 : Int) - den.log2) * 30103 / 100000
  let below (p : Int) : Bool :=
    let (n, d) := Decimal.toQuotient ⟨1, p⟩
    n * den ≤ num * d
  -- The guess from the binary logarithm is at most one off on either side.
  if below (guess + 1) then guess + 1 else if below guess then guess else guess - 1

/-- The decimal on the grid of multiples of `10 ^ power` that reads back and is nearest to
`num / den`, if there is one. -/
def nearestOnGrid (f : FloatFormat) (mantissa : Nat) (exponent : Int) (power : Int) :
    Option Decimal :=
  let (num, den) := Double.quotient mantissa exponent
  let (scaleNum, scaleDen) := Decimal.toQuotient ⟨1, power⟩
  let n := num * scaleDen
  let d := den * scaleNum
  let low : Decimal := ⟨n / d, power⟩
  let high : Decimal := ⟨n / d + 1, power⟩
  match f.readsBack mantissa exponent low, f.readsBack mantissa exponent high with
  | true, true =>
    let twice := 2 * (n % d)
    some (if twice < d ∨ (twice = d ∧ n / d % 2 = 0) then low else high)
  | true, false => some low
  | false, true => some high
  | false, false => none

/-- The shortest decimal that reads back as the positive number `mantissa * 2 ^ exponent`:
grids of one digit, of two digits and so on are tried in turn.  Seventeen digits always do. -/
def shortest (f : FloatFormat) (mantissa : Nat) (exponent : Int) : Decimal :=
  let (num, den) := Double.quotient mantissa exponent
  let lead := leadingPower num den
  let grids := (List.range 17).map fun (k : Nat) => lead - k
  ((grids.findSome? fun p => f.nearestOnGrid mantissa exponent p).getD ⟨0, 0⟩).trim 400

/-- The multiple of `10 ^ power` that stands for the number: the nearest one that reads back, or
else the nearest one, a tie going to the even one. -/
def onGrid (f : FloatFormat) (mantissa : Nat) (exponent : Int) (power : Int) : Decimal :=
  match f.nearestOnGrid mantissa exponent power with
  | some d => d
  | none =>
    let (num, den) := Double.quotient mantissa exponent
    let (scaleNum, scaleDen) := Decimal.toQuotient ⟨1, power⟩
    ⟨roundHalfEven (num * scaleDen) (den * scaleNum), power⟩

/-- The shortest decimal that reads back, unless its last digit is below a power of ten; then the
multiple of this power that stands for the number. -/
def shortestFrom (f : FloatFormat) (mantissa : Nat) (exponent : Int) (power : Int) : Decimal :=
  let d := f.shortest mantissa exponent
  if power ≤ d.exponent then d else (f.onGrid mantissa exponent power).trim 400

/-- How many decimal digits every number of a format can stand for. -/
def decimalDigits (f : FloatFormat) : Nat := (f.precision - 1) * 30103 / 100000

end FloatFormat

/-! ### Layout -/

/-- How a floating-point number is laid out. -/
structure FloatLayout where
  /-- Positional notation is used from this power of ten on ... -/
  positionalFrom : Int
  /-- ... up to this one, exclusive. -/
  positionalBefore : Int
  /-- What follows a whole number in positional notation. -/
  wholeSuffix : String
  /-- The least number of digits of an exponent. -/
  exponentWidth : Nat
deriving DecidableEq, Repr

namespace FloatLayout

/-- Numbers from `0.0001` up to but not including `10 ^ 16` are positional; a whole number ends
in `.0`; an exponent has two digits at least. -/
def standard : FloatLayout := ⟨-4, 16, ".0", 2⟩

/-- As `standard`, but a whole number ends in nothing: the parts of a complex number. -/
def bare : FloatLayout := { standard with wholeSuffix := "" }

/-- As `standard`, but in a format narrower than double precision only the numbers are positional
whose whole part is sure to have no more digits than the format can tell apart. -/
def forFormat (f : FloatFormat) : FloatLayout :=
  if f.precision < FloatFormat.double.precision then
    { standard with positionalBefore := f.decimalDigits }
  else standard

/-- An exponent: a sign always, and zeros up to a width. -/
def exponentDigits (width : Nat) (e : Int) : String :=
  (if e < 0 then "-" else "+") ++ Text.padZeros width (Decimal.digitText e.natAbs)

/-- Whether the positive number `num / den` is written in positional notation. -/
def isPositional (layout : FloatLayout) (num den : Nat) : Bool :=
  let (fromNum, fromDen) := Decimal.toQuotient ⟨1, layout.positionalFrom⟩
  let (beforeNum, beforeDen) := Decimal.toQuotient ⟨1, layout.positionalBefore⟩
  fromNum * den ≤ num * fromDen && num * beforeDen < beforeNum * den

/-- The whole part and the digits after the point of a positive decimal in positional notation. -/
def positionalParts (d : Decimal) : String × String :=
  let digits := Decimal.digitText d.digits
  let lead : Int := d.exponent + digits.length - 1
  if 0 ≤ d.exponent then (digits ++ Text.repeated '0' d.exponent.toNat, "")
  else if 0 ≤ lead then
    let whole := lead.toNat + 1
    (String.ofList (digits.toList.take whole), String.ofList (digits.toList.drop whole))
  else ("0", Text.repeated '0' (-lead - 1).toNat ++ digits)

/-- The first digit, the digits after the point and the exponent of a positive decimal in
scientific notation. -/
def scientificParts (d : Decimal) : String × String × Int :=
  let digits := Decimal.digitText d.digits
  (String.ofList (digits.toList.take 1), String.ofList (digits.toList.drop 1),
    d.exponent + digits.length - 1)

/-- A positive decimal in positional notation. -/
def renderPositional (layout : FloatLayout) (d : Decimal) : String :=
  let (whole, fraction) := positionalParts d
  whole ++ if fraction.isEmpty then layout.wholeSuffix else "." ++ fraction

/-- A positive decimal in scientific notation. -/
def renderScientific (layout : FloatLayout) (d : Decimal) : String :=
  let (first, fraction, e) := scientificParts d
  first ++ (if fraction.isEmpty then "" else "." ++ fraction) ++ "e" ++
    exponentDigits layout.exponentWidth e

end FloatLayout

namespace Double

/-- The text of a number that is in the terms of format `f`. -/
def textIn (f : FloatFormat) (layout : FloatLayout) : Double → String
  | .nan => "nan"
  | .infinity negative => if negative then "-inf" else "inf"
  | .finite negative m e =>
    let sign := if negative then "-" else ""
    if m = 0 then sign ++ "0" ++ layout.wholeSuffix
    else
      let (num, den) := quotient m e
      let d := f.shortest m e
      sign ++
        if layout.isPositional num den then layout.renderPositional d
        else layout.renderScientific d

/-- The text of a double. -/
def text (x : Double) : String := x.textIn .double .standard

/-! ### Reading -/

/-- The digits at the front of a text, as a number with their count, and what follows. -/
def takeDigits (cs : List Char) : Nat × Nat × List Char :=
  let ds := cs.takeWhile Char.isDigit
  (ds.foldl (fun n c => 10 * n + (c.toNat - '0'.toNat)) 0, ds.length, cs.dropWhile Char.isDigit)

/-- An optional sign at the front of a text: whether it is a minus, and what follows. -/
def takeSign : List Char → Bool × List Char
  | '-' :: cs => (true, cs)
  | '+' :: cs => (false, cs)
  | cs => (false, cs)

/-- The exponent part at the front of a text, if there is one, and what follows. -/
def takeExponent : List Char → Int × List Char
  | [] => (0, [])
  | c :: cs =>
    let (negative, digits) := takeSign cs
    match takeDigits digits with
    | (n, _ + 1, rest) => if c = 'e' ∨ c = 'E' then (signed negative n, rest) else (0, c :: cs)
    | _ => (0, c :: cs)

/-- The double nearest to `± digits * 10 ^ exponent`.  Exponents far out of range are settled
without computing the power. -/
def ofDecimal (negative : Bool) (digits : Nat) (exponent : Int) : Double :=
  let lead : Int := exponent + (Decimal.digitText digits).length
  if digits = 0 ∨ lead < -400 then zero negative
  else if 400 < lead then .infinity negative
  else
    let (n, d) := Decimal.toQuotient ⟨digits, exponent⟩
    FloatFormat.double.round negative n d

/-- Whether a text begins with a word in lower case, whatever its own case. -/
def startsWithWord (word : String) (cs : List Char) : Bool :=
  (cs.take word.length).map Char.toLower == word.toList

/-- The unsigned number at the front of a text, and what follows: `inf`, `nan` or a decimal with an
optional exponent. -/
def takeUnsigned? (negative : Bool) (cs : List Char) : Option (Double × List Char) :=
  if startsWithWord "infinity" cs then some (.infinity negative, cs.drop 8)
  else if startsWithWord "inf" cs then some (.infinity negative, cs.drop 3)
  else if startsWithWord "nan" cs then some (.nan, cs.drop 3)
  else
    let (whole, wholeCount, cs) := takeDigits cs
    let (fraction, count, cs) := match cs with
      | '.' :: cs => takeDigits cs
      | cs => (0, 0, cs)
    if wholeCount + count = 0 then none
    else
      let (e, cs) := takeExponent cs
      some (ofDecimal negative (whole * Nat.pow 10 count + fraction) (e - count), cs)

/-- The number at the front of a text, and what follows. -/
def takeNumber? (cs : List Char) : Option (Double × List Char) :=
  let (negative, cs) := takeSign cs
  takeUnsigned? negative cs

/-- Characters without the underscores that stand between two digits. -/
def joinGroups : List Char → List Char
  | a :: '_' :: b :: cs =>
    if a.isDigit && b.isDigit then a :: joinGroups (b :: cs) else a :: '_' :: joinGroups (b :: cs)
  | c :: cs => c :: joinGroups cs
  | [] => []

/-- Whether every underscore stands between two digits, behind a character and up to the first
character that no number has. -/
def separatesDigits (previous : Char) : List Char → Bool
  | [] => previous ≠ '_'
  | c :: cs =>
    let isForeign := 127 ≤ c.toNat && !Text.isWhiteSpace c
    (if c = '_' then previous.isDigit else previous ≠ '_' || c.isDigit) &&
      (isForeign || separatesDigits c cs)

/-- Whether every underscore of a text that may be a number stands between two digits. -/
def hasJoinedDigits (s : String) : Bool := separatesDigits ' ' (s.toList.map Text.asciiDigit)

/-- The characters of a number on paper: with ASCII digits, and without blanks at either end and
single underscores between digits. -/
def digitsOf (s : String) : List Char :=
  joinGroups ((Text.trimBy Text.isWhiteSpace s.toList).map Text.asciiDigit)

/-- The double that a text denotes, correctly rounded. -/
def ofText? (s : String) : Option Double :=
  match takeNumber? (digitsOf s) with
  | some (x, []) => some x
  | _ => none

/-- The whole number that a text denotes: an optional sign and digits. -/
def wholeOfText? (s : String) : Option Int :=
  let (negative, cs) := takeSign (digitsOf s)
  match takeDigits cs with
  | (n, _ + 1, []) => some (signed negative n)
  | _ => none

/-- A number and what follows it in front of the letter `j`, which may stand for one by itself. -/
def takeImaginary? (cs : List Char) : Option (Double × List Char) :=
  let (x, cs) := match takeNumber? cs with
    | some (x, rest) => (x, rest)
    | none =>
      let (negative, rest) := takeSign cs
      (.ofInt (if negative then -1 else 1), rest)
  match cs with
  | c :: rest => if c = 'j' ∨ c = 'J' then some (x, rest) else none
  | [] => none

/-- The two parts of the complex number at the front of a text, and what follows. -/
def takeComplex? (cs : List Char) : Option ((Double × Double) × List Char) :=
  match takeNumber? cs with
  | some (re, c :: rest) =>
    if c = '+' ∨ c = '-' then (takeImaginary? (c :: rest)).map fun (im, rest) => ((re, im), rest)
    else if c = 'j' ∨ c = 'J' then some ((.zero false, re), rest)
    else some ((re, .zero false), c :: rest)
  | some (re, []) => some ((re, .zero false), [])
  | none => (takeImaginary? cs).map fun (im, rest) => ((.zero false, im), rest)

/-- The two parts of the complex number that a text denotes: a real part, an imaginary part with a
`j` behind it, or both, possibly in parentheses. -/
def complexOfText? (s : String) : Option (Double × Double) :=
  match digitsOf s with
  | '(' :: cs => match takeComplex? (cs.dropWhile Text.isWhiteSpace) with
    | some (z, rest) => if rest.dropWhile Text.isWhiteSpace = [')'] then some z else none
    | none => none
  | cs => match takeComplex? cs with
    | some (z, []) => some z
    | _ => none

end Double

end PropertyGraph
