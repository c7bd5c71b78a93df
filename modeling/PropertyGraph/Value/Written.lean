/-
# Values in messages

`Value.written` is the form in which a value is quoted inside a message, unambiguous and nested;
`Value.shown` is the form in which it stands as a text of its own: text and fixed-width scalars
are shown bare, all else as written.  An array is shown as a grid of its elements, all of them
equally wide if they are numbers.
-/
import PropertyGraph.Number.Aligned
import PropertyGraph.Text.Quoted
import PropertyGraph.Value.Basic

namespace PropertyGraph

namespace Value

/-- A complex number without parentheses around its two parts; the real part is left out when it
is a zero without a sign. -/
def complexBody (re im : Double) : String :=
  let part (x : Double) := x.textIn .double .bare
  let imaginary := part im ++ "j"
  if re = .zero false then imaginary
  else if imaginary.startsWith "-" then part re ++ imaginary
  else part re ++ "+" ++ imaginary

/-- A complex number, in parentheses if it has two parts. -/
def complexText (re im : Double) : String :=
  if re = .zero false then complexBody re im else "(" ++ complexBody re im ++ ")"

/-- A truth value. -/
def boolText (b : Bool) : String := if b then "True" else "False"

/-- The text of the missing point in time. -/
def noInstantText : String := "NaT"

/-- A calendar date with a time of day as a call with the numbers of it, down to the minute or to
the last one that is not zero. -/
def dateTimeWritten (m : Moment) : String :=
  let microsecond := m.attosecond / TimeUnit.microsecond.attoseconds
  let clock := if microsecond ≠ 0 then [m.second, microsecond]
    else if m.second ≠ 0 then [m.second]
    else []
  let numbers := [m.month, m.day, m.hour, m.minute] ++ clock
  "datetime.datetime(" ++ ", ".intercalate (toString m.year :: numbers.map toString) ++ ")"

end Value

namespace ScalarType

open Value

/-- A plain value held by a fixed-width scalar, bare: a floating-point number has as many digits
as its width needs, and a point in time is told as far as its unit goes. -/
def textOf (type : ScalarType) (content : Value) : String :=
  match type, content with
  | .datetime64 unit, content => match unit, type.moment? content with
    | some unit, some m => m.textTo unit
    | _, _ => noInstantText
  | type, .number (.double x) =>
    let format := type.floatFormat?.getD .double
    (x.inFormat format).textIn format (.forFormat format)
  | _, .number (.int i) => toString i
  | _, .bool b => boolText b
  | _, .complex re im => complexText re im
  | _, .text s => withoutPadding s
  | _, .bytes bs => Text.quotedBytes bs
  | _, _ => ""

/-- A fixed-width scalar with its type around it.  The unit of a point in time is told where its
text leaves it open. -/
def writtenAround (type : ScalarType) (content : Value) : String :=
  match content with
  | .bool b => "np." ++ boolText b ++ "_"
  | content =>
    let inner := match type, content with
      | .datetime64 unit, content =>
        let unitText := match unit with
          | none => ",'generic'"
          | some unit =>
            if unit = .hour ∨ (type.moment? content).isNone then ",'" ++ unit.code ++ "'" else ""
        Text.quoted (type.textOf content) ++ unitText
      | _, .text s => Text.quoted (withoutPadding s)
      | _, .complex re im => complexBody re im
      | type, v => type.textOf v
    "np." ++ type.name ++ "(" ++ inner ++ ")"

/-- The name of the type as the type of an array, between quotes where it is no single word. -/
def arrayName (type : ScalarType) (room : Nat) : String :=
  match type with
  | .text => "'<U" ++ toString room ++ "'"
  | .bytes => "'|S" ++ toString room ++ "'"
  | .datetime64 (some unit) => "'datetime64[" ++ unit.code ++ "]'"
  | type => type.name

/-- Whether the type of an array can be told from its elements. -/
def isImplied : ScalarType → Bool
  | .int64 | .float64 | .complex128 | .boolean => true
  | _ => false

/-- A plain value as a double. -/
def doubleOf : Value → Double
  | .number n => n.toDouble
  | .complex re _ => re
  | _ => .nan

/-- The imaginary part of a plain value. -/
def imaginaryOf : Value → Double
  | .complex _ im => im
  | _ => .zero false

/-- The elements of an array of fixed-width scalars as words of a grid.  Numbers and points in time
are equally wide, and so are truth values in a grid that has a dimension. -/
def words (type : ScalarType) (bare : Bool) (items : List Value) : List String :=
  match type with
  | .text | .bytes => items.map fun v => match v with
    | .text s => Text.quoted (withoutPadding s)
    | v => type.textOf v
  | .boolean => items.map fun v =>
    Text.padLeft (if bare then 0 else 5) (type.textOf v)
  | .complex128 =>
    let imaginary := (alignedTexts .double true (items.map imaginaryOf)).map fun s =>
      let digits := GridLayout.trimEnd s
      digits ++ "j" ++ Text.repeated ' ' (s.length - digits.length)
    (alignedTexts .double false (items.map doubleOf)).zipWith (· ++ ·) imaginary
  | .float16 | .float32 | .float64 =>
    let format := type.floatFormat?.getD .double
    alignedTexts format false (items.map fun v => (doubleOf v).inFormat format)
  | type =>
    let texts := items.map fun v => match type with
      | .datetime64 _ => "'" ++ type.textOf v ++ "'"
      | type => type.textOf v
    texts.map (Text.padLeft (Text.widest texts))

end ScalarType

/-- The layout of an array inside a message. -/
def GridLayout.written : GridLayout := ⟨", ", 6, 74⟩

/-- The layout of an array that stands on its own. -/
def GridLayout.shown : GridLayout := ⟨" ", 0, 75⟩

namespace Value

/-- The grid of an array, the words of its elements being given. -/
def gridText (layout : GridLayout) (shape : List Nat) (words : List String) : String :=
  if Axis.sizeOf shape = 0 then "[]" else layout.render (Axis.ofShape shape) words

/-- The elements of an array that are shown. -/
def shownItems {α : Type} (shape : List Nat) (items : List α) : List α :=
  visibleItems (Axis.sizeOf shape ≤ Axis.fullSize) shape items

/-- The lengths of an array along its dimensions. -/
def shapeText (shape : List Nat) : String :=
  "(" ++ ", ".intercalate (shape.map toString) ++ (if shape.length = 1 then ",)" else ")")

/-- An array inside a message, the grid of its elements being given: its shape follows where the
grid leaves it open, and its type where the elements do. -/
def arrayWritten (type : ScalarType) (room : Nat) (shape : List Nat) (grid : String) : String :=
  let size := Axis.sizeOf shape
  let shapeTexts :=
    if (size = 0 ∧ shape ≠ [0]) ∨ Axis.fullSize < size then ["shape=" ++ shapeText shape] else []
  let typeTexts :=
    if !type.isImplied ∨ size = 0 then ["dtype=" ++ type.arrayName room] else []
  match shapeTexts ++ typeTexts with
  | [] => "array(" ++ grid ++ ")"
  | extras =>
    let front := "array(" ++ grid ++ ","
    let back := ", ".intercalate extras ++ ")"
    let lastLine := (front.toList.reverse.takeWhile (· != '\n')).length
    front ++ (if 75 < lastLine + back.length + 1 then "\n      " else " ") ++ back

mutual

/-- A value as it is quoted inside a message. -/
def written : Value → String
  | .null => "None"
  | .bool b => boolText b
  | .number n => n.text
  | .complex re im => complexText re im
  | .text s => Text.quoted s
  | .bytes bs => Text.quotedBytes bs
  | .date m => s!"datetime.date({m.year}, {m.month}, {m.day})"
  | .dateTime m => dateTimeWritten m
  | .instant m => "Timestamp(" ++ Text.quoted m.text ++ ")"
  | .noInstant => noInstantText
  | .list items => "[" ++ ", ".intercalate (writtenItems items) ++ "]"
  | .tuple items =>
    "(" ++ ", ".intercalate (writtenItems items) ++ (if items.length = 1 then ",)" else ")")
  | .set items =>
    if items.isEmpty then "set()"
    else "\x7b" ++ ", ".intercalate (writtenItems items) ++ "\x7d"
  | .map entries => "\x7b" ++ ", ".intercalate (writtenEntries entries) ++ "\x7d"
  | .sized type content => type.writtenAround content
  | .array type room shape items =>
    let words :=
      if type = .object then shownItems shape (writtenElements items)
      else type.words (shape = []) (shownItems shape items)
    arrayWritten type room shape (gridText .written shape words)

/-- The written forms of the members of a collection. -/
def writtenItems : List Value → List String
  | [] => []
  | v :: vs => written v :: writtenItems vs

/-- The written forms of the elements of an array of objects; a list among them is marked, lest it
look like a part of the grid. -/
def writtenElements : List Value → List String
  | [] => []
  | v :: vs =>
    (match v with
      | .list _ => "list(" ++ written v ++ ")"
      | _ => written v) :: writtenElements vs

/-- The written forms of the entries of a map. -/
def writtenEntries : List (Value × Value) → List String
  | [] => []
  | (k, v) :: es => (written k ++ ": " ++ written v) :: writtenEntries es

end

/-- A value that is no array as a text of its own. -/
def shownPlain : Value → String
  | .text s => s
  | .date m => m.dateText
  | .dateTime m => m.text
  | .instant m => m.text
  | .sized type content => type.textOf content
  | v => v.written

/-- A value as a text of its own.  An array without dimensions is shown as its element. -/
def shown : Value → String
  | .array type _ [] items =>
    let element := items.headD .null
    if type = .object then element.shownPlain else type.textOf element
  | .array type _ shape items =>
    let words :=
      if type = .object then shownItems shape (writtenElements items)
      else type.words false (shownItems shape items)
    gridText .shown shape words
  | v => v.shownPlain

/-! ### What can be written -/

mutual

/-- Whether a value can be written: no whole number that would be seen has too many digits. -/
def isWritable : Value → Bool
  | .number n => n.isWritable
  | .list items | .tuple items | .set items => (writables items).all id
  | .map entries => areWritable entries
  | .array type _ shape items =>
    type != .object || (shownItems shape (writables items)).all id
  | _ => true

/-- Of each value of a list, whether it can be written. -/
def writables : List Value → List Bool
  | [] => []
  | v :: vs => isWritable v :: writables vs

/-- Whether all keys and values of a map can be written. -/
def areWritable : List (Value × Value) → Bool
  | [] => true
  | (k, v) :: es => isWritable k && isWritable v && areWritable es

end

end Value

/-- Why something cannot be written. -/
inductive WritingFault
  /-- A whole number has too many digits. -/
  | tooManyDigits
deriving DecidableEq, Repr

/-- The wording of a fault. -/
def WritingFault.message : WritingFault → String
  | .tooManyDigits =>
    s!"Exceeds the limit ({Number.digitLimit} digits) for integer string conversion; " ++
      "use sys.set_int_max_str_digits() to increase the limit"

namespace Value

/-- A value as it is quoted inside a message, if it can be written. -/
def written? (v : Value) : Except WritingFault String :=
  if v.isWritable then .ok v.written else .error .tooManyDigits

/-- A value as a text of its own, if it can be written. -/
def shown? (v : Value) : Except WritingFault String :=
  if v.isWritable then .ok v.shown else .error .tooManyDigits

/-- A value as it is quoted inside a message, or by its type if it cannot be written. -/
def writtenOrType (v : Value) : String :=
  match v.written? with
  | .ok s => s
  | .error _ => "<unprintable " ++ v.typeName ++ " object>"

/-- A value inside a sentence: as it is shown, except that a floating-point number is told in full
whatever its width. -/
def told : Value → String
  | .sized (.datetime64 unit) content => (ScalarType.datetime64 unit).textOf content
  | .sized _ (.number n) => n.text
  | .sized _ (.text s) => s
  | v => v.shown

end Value

end PropertyGraph
