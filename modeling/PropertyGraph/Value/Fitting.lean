/-
# Fitting values to a type

What a fixed-width scalar of a type holds when it is made from a value.  A plain value is read as
what the type wants: a number is rounded to the precision of the type, a truth value counts as 0 or
1, a text is read as a number or a point in time, and a type of texts takes anything by its text.
What another fixed-width scalar holds is converted from type to type instead, and whole numbers that
have no room go on counting from the other end.
-/
import PropertyGraph.Time.Reading
import PropertyGraph.Value.Promotion
import PropertyGraph.Value.Written

namespace PropertyGraph

/-- Why a value cannot be held by a scalar or an array of some type. -/
inductive FitFault
  /-- The value is of a type that is not taken. -/
  | wrongType
  /-- A text is no number. -/
  | notNumber (v : Value)
  /-- A text is no whole number. -/
  | notInteger (v : Value)
  /-- A text is no complex number. -/
  | notComplex
  /-- A text that may be a complex number has an underscore that is not between digits. -/
  | misplacedUnderscore (s : String)
  /-- Not-a-number is no whole number. -/
  | nanAsInteger
  /-- An infinity is no whole number. -/
  | infiniteAsInteger
  /-- A whole number is out of the range of its type. -/
  | outOfBounds (type : ScalarType) (i : Int)
  /-- A whole number is out of the range of all types. -/
  | beyondIntegers
  /-- A whole number is out of the range of floating-point numbers. -/
  | beyondDoubles
  /-- A byte of a byte string is no ASCII character. -/
  | foreignByte (position : Nat) (b : UInt8)
  /-- Characters of a text that follow each other are no ASCII characters. -/
  | foreignText (position count : Nat) (first : Char)
  /-- A text is no point in time. -/
  | moment (fault : MomentFault)
  /-- A value is no point in time. -/
  | notMoment
  /-- A number of steps does not tell their unit. -/
  | stepsWithoutUnit
  /-- A point in time is given where only a missing one is taken. -/
  | momentWithoutUnit
  /-- The lists of a grid differ in their lengths behind the dimensions that they have in common. -/
  | ragged (shape : List Nat)
deriving Repr

namespace FitFault

/-- Whether the fault is that a number is too large. -/
def isOverflow : FitFault → Bool
  | .infiniteAsInteger | .outOfBounds _ _ | .beyondIntegers | .beyondDoubles => true
  | _ => false

/-- The wording of a fault; that a value is of a wrong type is its own wording. -/
def message : FitFault → String
  | .wrongType => ""
  | .notNumber v => "could not convert string to float: " ++ v.written
  | .notInteger v => "invalid literal for int() with base 10: " ++ v.written
  | .notComplex => "complex() arg is a malformed string"
  | .misplacedUnderscore s => "could not convert string to complex: " ++ Text.quoted s
  | .nanAsInteger => "cannot convert float NaN to integer"
  | .infiniteAsInteger => "cannot convert float infinity to integer"
  | .outOfBounds type i => s!"Python integer {i} out of bounds for {type.name}"
  | .beyondIntegers => "Python int too large to convert to C long"
  | .beyondDoubles => "int too large to convert to float"
  | .foreignByte position b =>
    s!"'ascii' codec can't decode byte 0x{Text.hex 2 b.toNat} in position {position}: " ++
      "ordinal not in range(128)"
  | .foreignText position count first =>
    let place :=
      if count = 1 then s!" '{Text.codeEscape first.toNat}' in position {position}: "
      else s!"s in position {position}-{position + count - 1}: "
    "'ascii' codec can't encode character" ++ place ++ "ordinal not in range(128)"
  | .moment fault => fault.message
  | .notMoment => "Could not convert object to NumPy datetime"
  | .stepsWithoutUnit =>
    "Converting an integer to a NumPy datetime requires a specified unit"
  | .momentWithoutUnit =>
    "Cannot create a NumPy datetime other than NaT with generic units"
  | .ragged shape =>
    "setting an array element with a sequence. The requested array has an inhomogeneous shape " ++
      s!"after {shape.length} dimensions. The detected shape was " ++
      Value.shapeText shape ++ " + inhomogeneous part."

end FitFault

/-- A double without its fractional part; what is not finite has no whole part. -/
def Double.truncate? : Double → Option Int
  | .finite negative m e => let (n, d) := quotient m e; some (signed negative (n / d))
  | _ => none

/-- The number of a narrower format nearest to a whole number, as a double. -/
def Double.ofIntIn (format : FloatFormat) (i : Int) : Double :=
  (format.round (i < 0) i.natAbs 1).inFormat .double

namespace ScalarType

/-! ### Whole numbers -/

/-- A whole number folded into the range of a type. -/
def wrap (type : ScalarType) (i : Int) : Int :=
  match type.bits? with
  | some (true, bits) => Int.bmod i (Nat.pow 2 bits)
  | some (false, bits) => i % Nat.pow 2 bits
  | none => i

/-- Whether a type of whole numbers has at least 32 bits and no sign. -/
def isWideUnsigned : ScalarType → Bool
  | .uint32 | .uint64 => true
  | _ => false

/-- Whether a whole number is in the range of the type that stands in for a type of whole numbers
while values are read. -/
def isReadable (type : ScalarType) (i : Int) : Bool :=
  Number.fitsSigned i || (type.isWideUnsigned && Number.fitsUnsigned i)

/-- A whole number in the range of a type. -/
def within (type : ScalarType) (i : Int) : Except FitFault Int :=
  if !type.isReadable i then .error .beyondIntegers
  else if type.wrap i = i then .ok i
  else .error (.outOfBounds type i)

/-- A whole number that something else was read as, folded into the range of a type. -/
def foldInto (type : ScalarType) (i : Int) : Except FitFault Int :=
  if type.isReadable i then .ok (type.wrap i) else .error .beyondIntegers

/-- A byte string as a text; a byte that is no ASCII character stands for no character. -/
def asciiText (bs : List UInt8) : String :=
  String.ofList (bs.map fun b => if b < 128 then Char.ofNat b.toNat else Char.ofNat 0xFFFD)

/-- A plain value as a whole number of a type; a fractional part is dropped. -/
def readInteger (type : ScalarType) (v : Value) : Except FitFault Int :=
  let ofText (s : String) := match Double.wholeOfText? s with
    | some i => type.foldInto i
    | none => .error (.notInteger v)
  match v with
  | .bool b => .ok (if b then 1 else 0)
  | .number (.int i) => type.within i
  | .number (.double .nan) => .error .nanAsInteger
  | .number (.double x) | .complex x _ => match x.truncate? with
    | some i => type.foldInto i
    | none => .error .infiniteAsInteger
  | .text s => ofText s
  | .bytes bs => ofText (asciiText bs)
  | _ => .error .wrongType

/-! ### Floating-point numbers -/

/-- A plain value as a double; null is not-a-number. -/
def readDouble (v : Value) : Except FitFault Double :=
  let ofText (s : String) := match Double.ofText? s with
    | some x => .ok x
    | none => .error (.notNumber v)
  match v with
  | .null => .ok .nan
  | .bool b => .ok (.ofInt (if b then 1 else 0))
  | .number (.int i) => match Double.ofInt i with
    | .infinity _ => .error .beyondDoubles
    | x => .ok x
  | .number (.double x) => .ok x
  | .text s => ofText s
  | .bytes bs => ofText (asciiText bs)
  | _ => .error .wrongType

/-- A plain value as a complex number; null has no part that is a number. -/
def readComplex (v : Value) : Except FitFault Value :=
  let ofText (s : String) := match Double.complexOfText? s with
    | some (re, im) => .ok (.complex re im)
    | none => .error (if Double.hasJoinedDigits s then .notComplex else .misplacedUnderscore s)
  match v with
  | .null => .ok (.complex .nan .nan)
  | .complex re im => .ok (.complex re im)
  | .text s => ofText s
  | .bytes bs => ofText (asciiText bs)
  | v => (readDouble v).map fun x => .complex x (.zero false)

/-! ### Points in time -/

/-- The number of steps that stands for the missing point in time. -/
def missingSteps : Int := -9223372036854775808

/-- A number of steps as what a scalar holds. -/
def ofSteps (count : Int) : Value :=
  let count := Moment.folded count
  if count = missingSteps then .null else .int count

/-- Whether a text stands for the missing point in time. -/
def isMissingMoment (s : String) : Bool := s.isEmpty || s.toLower == "nat"

/-- The unit up to which a value tells a point in time, if it is one. -/
def unitOf? : Value → Option TimeUnit
  | .text s | .sized .text (.text s) =>
    if isMissingMoment s then none
    else match Moment.ofText s with
      | .ok (_, unit) => some unit
      | .error _ => none
  | .bytes bs =>
    match Moment.ofText (asciiText bs) with
    | .ok (_, unit) => some unit
    | .error _ => none
  | .sized (.datetime64 unit) _ | .array (.datetime64 unit) _ [] _ => unit
  | _ => none

/-- A plain value as a point in time that is known up to a unit. -/
def readMoment (unit : Option TimeUnit) (v : Value) : Except FitFault Value :=
  let ofText (s : String) :=
    if isMissingMoment s then .ok .null
    else match unit, Moment.ofText s with
      | some unit, .ok (m, _) => .ok (ofSteps (m.steps unit))
      | some _, .error fault => .error (.moment fault)
      | none, _ => .error .momentWithoutUnit
  let ofCount (i : Int) :=
    match unit with
    | some _ => if Number.fitsSigned i then .ok (ofSteps i) else .error .beyondIntegers
    | none => .error .stepsWithoutUnit
  match v with
  | .null => .ok .null
  | .text s => ofText s
  | .bytes bs => ofText (asciiText bs)
  | .bool b => ofCount (if b then 1 else 0)
  | .number (.int i) => ofCount i
  | _ => .error .notMoment

/-! ### From plain values -/

/-- The text that a plain value becomes; byte strings are taken as ASCII text. -/
def textFrom (v : Value) : Except FitFault String :=
  match v with
  | .bytes bs | .sized _ (.bytes bs) => match bs.find? (128 ≤ ·) with
    | some b => .error (.foreignByte (bs.findIdx (128 ≤ ·)) b)
    | none => .ok (Value.withoutPadding (asciiText bs))
  | .text s => .ok (Value.withoutPadding s)
  | v => .ok (Value.withoutPadding v.shown)

/-- The byte string of a text, which has to be ASCII text. -/
def asciiBytes (s : String) : Except FitFault (List UInt8) :=
  let isForeign (c : Char) := decide (128 ≤ c.toNat)
  let cs := s.toList
  match cs.dropWhile (!isForeign ·) with
  | [] => .ok (cs.map fun c => c.toNat.toUInt8)
  | c :: rest =>
    .error (.foreignText (cs.findIdx isForeign) (1 + (rest.takeWhile isForeign).length) c)

/-- The byte string that a plain value becomes. -/
def bytesFrom (v : Value) : Except FitFault (List UInt8) :=
  match v with
  | .bytes bs | .sized _ (.bytes bs) => .ok (Text.trimEndBy (· == 0) bs)
  | v => do asciiBytes (← textFrom v)

/-- What a scalar of a type holds when it is made from a value that is of no fixed width. -/
def fitPlain (type : ScalarType) (v : Value) : Except FitFault Value :=
  match type with
  | .object => .ok v
  | .boolean => .ok (.bool v.isTruthyPlain)
  | .text => (textFrom v).map Value.text
  | .bytes => (bytesFrom v).map Value.bytes
  | .complex128 => readComplex v
  | .datetime64 unit => readMoment unit v
  | type => match type.floatFormat? with
    | some format => (readDouble v).map fun x => .double (x.throughFormat format)
    | none => (type.readInteger v).map Value.int

/-! ### From one type to another -/

/-- What a scalar of a type holds, as a whole number: a point in time as its number of steps, a
floating-point number without its fractional part. -/
def countOf : Value → Int
  | .bool b => if b then 1 else 0
  | .number (.int i) => i
  | .number (.double x) | .complex x _ => match x.truncate? with
    | some i => if Number.fitsSigned i || Number.fitsUnsigned i then i else missingSteps
    | none => missingSteps
  | _ => missingSteps

/-- What a scalar of a type holds, as a double of some format.  A whole number passes through single
precision on its way to half precision. -/
def floatOf (format : FloatFormat) : Value → Double
  | .number (.double x) | .complex x _ => x.throughFormat format
  | v =>
    let i := countOf v
    if format = .half then (Double.ofIntIn .single i).throughFormat .half
    else .ofIntIn format i

/-- What a scalar of one type holds that is made from what a scalar of another type holds. -/
def convert (source type : ScalarType) (content : Value) : Except FitFault Value :=
  if source = type then .ok content
  else match type, source with
    | .object, _ => .ok (source.unwrap content)
    | .text, .object | .bytes, .object => type.fitPlain content
    | _, .object => type.fitPlain content.plain
    | .text, _ | .bytes, _ => type.fitPlain (.sized source content)
    | .boolean, .text => match readInteger .int64 content with
      | .ok i => .ok (.bool (i ≠ 0))
      | .error fault => .error fault
    | _, .text | _, .bytes => type.fitPlain (source.unwrap content)
    | .boolean, _ => .ok (.bool (content.isTruthyPlain || content matches .null))
    | .complex128, _ => .ok (.complex (floatOf .double content) (.zero false))
    | .datetime64 (some unit), .datetime64 _ => match source.moment? content with
      | some m => .ok (ofSteps (m.steps unit))
      | none => .ok .null
    | .datetime64 (some _), _ => match content with
      | .number (.double .nan) => .ok .null
      | content => .ok (ofSteps (countOf content))
    | .datetime64 none, .datetime64 _ => .ok .null
    | .datetime64 none, _ => .error .stepsWithoutUnit
    | type, _ => match type.floatFormat? with
      | some format => .ok (.double (floatOf format content))
      | none => .ok (.int (type.wrap (countOf content)))

/-- Whether a type reads other fixed-width scalars as plain values. -/
def readsScalars (type : ScalarType) : Bool :=
  match type.bits? with
  | some (signed, _) => signed
  | none => false

/-- What a scalar of a type holds when it is made from a value. -/
def fit (type : ScalarType) (v : Value) : Except FitFault Value :=
  match v with
  | .array source _ [] [content] => if type = .object then .ok v else source.convert type content
  | .sized source content =>
    if type = .object then .ok v
    else if source = type then .ok content
    else if type.readsScalars then type.fitPlain (source.unwrap content)
    else match type, source with
      | .datetime64 _, .text => type.fitPlain content
      | _, _ => source.convert type content
  | v => type.fitPlain v

end ScalarType

end PropertyGraph
