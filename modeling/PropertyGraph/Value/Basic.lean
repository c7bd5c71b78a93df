/-
# Values from outside

What a caller may put into a graph, before it is known to be acceptable: scalars, collections
nested to any depth, scalars of a fixed width and arrays of them.  Only a small part of these
values can be stored as a property (`PropertyGraph.Property`); the rest exists to be refused by
name.

These are data.  Objects of other types, such as elements that have been made before, queues,
generators and views of maps, are no values here, and what is said of all values is not said of
them.
-/
import PropertyGraph.Number.Basic
import PropertyGraph.Text.Bracketed
import PropertyGraph.Time.Moment

namespace PropertyGraph

/-- The type of a fixed-width scalar, or of the elements of an array. -/
inductive ScalarType
  | int8 | int16 | int32 | int64
  | uint8 | uint16 | uint32 | uint64
  | float16 | float32 | float64
  | boolean | complex128
  | text | bytes
  /-- Points in time up to some unit, which is not known if there is no point in time. -/
  | datetime64 (unit : Option TimeUnit)
  /-- Elements of any type, kept as they are. -/
  | object
deriving DecidableEq, Repr

namespace ScalarType

/-- The name by which messages call the type. -/
def name : ScalarType → String
  | .int8 => "int8"
  | .int16 => "int16"
  | .int32 => "int32"
  | .int64 => "int64"
  | .uint8 => "uint8"
  | .uint16 => "uint16"
  | .uint32 => "uint32"
  | .uint64 => "uint64"
  | .float16 => "float16"
  | .float32 => "float32"
  | .float64 => "float64"
  | .boolean => "bool"
  | .complex128 => "complex128"
  | .text => "str_"
  | .bytes => "bytes_"
  | .datetime64 _ => "datetime64"
  | .object => "object"

/-- Whether the type, if it is one of whole numbers, has a sign, and how many bits it has. -/
def bits? : ScalarType → Option (Bool × Nat)
  | .int8 => some (true, 8)
  | .int16 => some (true, 16)
  | .int32 => some (true, 32)
  | .int64 => some (true, 64)
  | .uint8 => some (false, 8)
  | .uint16 => some (false, 16)
  | .uint32 => some (false, 32)
  | .uint64 => some (false, 64)
  | _ => none

/-- The floating-point format of the type, if it has one. -/
def floatFormat? : ScalarType → Option FloatFormat
  | .float16 => some .half
  | .float32 => some .single
  | .float64 => some .double
  | _ => none

end ScalarType

/-- A value from outside: scalars, and what is built of them as collections and arrays. -/
inductive Value
  | null
  | bool (b : Bool)
  | number (n : Number)
  | complex (re im : Double)
  | text (s : String)
  | bytes (bs : List UInt8)
  /-- A calendar date, without a time of day. -/
  | date (m : Moment)
  /-- A calendar date with a time of day. -/
  | dateTime (m : Moment)
  /-- A point in time in a table. -/
  | instant (m : Moment)
  /-- The missing point in time. -/
  | noInstant
  | list (items : List Value)
  | tuple (items : List Value)
  /-- A set; the members are listed in some order. -/
  | set (items : List Value)
  | map (entries : List (Value × Value))
  /-- A scalar of a fixed width, with what it holds: a plain value, or for a point in time the
  number of steps from the epoch, or null. -/
  | sized (type : ScalarType) (content : Value)
  /-- An array: the type of its elements, the length for which an element that is a text or a byte
  string has room, the length along each dimension, and what the elements hold, the last dimension
  running fastest. -/
  | array (type : ScalarType) (room : Nat) (shape : List Nat) (items : List Value)
deriving Repr, Inhabited

namespace Value

/-- A whole number as a value. -/
def int (i : Int) : Value := .number (.int i)

/-- A double as a value. -/
def double (x : Double) : Value := .number (.double x)

/-- A text without the NUL characters at its end, which a scalar of a fixed width cannot tell from
the room that it does not use. -/
def withoutPadding (s : String) : String :=
  String.ofList (Text.trimEndBy (· == Char.ofNat 0) s.toList)

/-- The plain value of a point in time so many steps of a unit from the epoch: a date, with a time
of day if the unit is part of a day.  Where these have no place for it, the number stays. -/
def ofSteps (unit : TimeUnit) (count : Int) : Value :=
  let m := Moment.ofSteps unit count
  if TimeUnit.microsecond.rank < unit.rank ∨ m.year < 1 ∨ 9999 < m.year then .int count
  else if unit.isClock then .dateTime m
  else .date m

end Value

namespace ScalarType

/-- The plain value of a scalar of the type that holds some content. -/
def unwrap (type : ScalarType) (content : Value) : Value :=
  match type, content with
  | .text, .text s => .text (Value.withoutPadding s)
  | .datetime64 (some unit), .number (.int n) => .ofSteps unit n
  | .datetime64 _, _ => .null
  | _, v => v

/-- The point in time of a scalar of the type that holds some content. -/
def moment? (type : ScalarType) (content : Value) : Option Moment :=
  match type, content with
  | .datetime64 (some unit), .number (.int n) => some (.ofSteps unit n)
  | _, _ => none

end ScalarType

namespace Value

/-- A fixed-width scalar gives its plain value; any other value stays. -/
def plain : Value → Value
  | .sized type content => type.unwrap content
  | v => v

/-- The name by which messages call the type of a value. -/
def typeName : Value → String
  | .null => "NoneType"
  | .bool _ => "bool"
  | .number (.int _) => "int"
  | .number (.double _) => "float"
  | .complex _ _ => "complex"
  | .text _ => "str"
  | .bytes _ => "bytes"
  | .date _ => "date"
  | .dateTime _ => "datetime"
  | .instant _ => "Timestamp"
  | .noInstant => "NaTType"
  | .list _ => "list"
  | .tuple _ => "tuple"
  | .set _ => "set"
  | .map _ => "dict"
  | .sized type _ => type.name
  | .array _ _ _ _ => "ndarray"

/-- The text that a value is: plain text, or text as a fixed-width scalar. -/
def asText? : Value → Option String
  | .text s => some s
  | .sized .text (.text s) => some s
  | _ => none

/-- The text that a value stands for where text is wanted: text, or bytes that are UTF-8. -/
def decodeText? : Value → Option String
  | .bytes bs | .sized .bytes (.bytes bs) => String.fromUTF8? (ByteArray.mk bs.toArray)
  | v => v.asText?

/-- Whether a value marks a missing table cell: null, not-a-number or no point in time.
Collections are never missing. -/
def isMissing : Value → Bool
  | .null | .noInstant => true
  | .number n => n.isNaN
  | .complex re im => re == .nan || im == .nan
  | .sized _ .null => true
  | .sized _ (.number n) => n.isNaN
  | .sized _ (.complex re im) => re == .nan || im == .nan
  | _ => false

/-- The plain values of the elements of an array of some shape in nested lists; an array without
dimensions gives its only element. -/
def nested (type : ScalarType) : List Nat → List Value → Value
  | [], items => type.unwrap (items.headD .null)
  | [_], items => .list (items.map type.unwrap)
  | n :: shape, items => .list ((partsOf n (Axis.sizeOf shape) items).map (nested type shape))

/-- The elements of an array along its first dimension, if it has one: scalars of the array's type,
or arrays of one dimension less.  An array of objects holds them as they are. -/
def arrayElements? (type : ScalarType) (room : Nat) (items : List Value) :
    List Nat → Option (List Value)
  | [] => none
  | [_] => some (items.map fun v => if type = .object then v else .sized type v)
  | n :: shape => some ((partsOf n (Axis.sizeOf shape) items).map (.array type room shape))

/-- The members of a value that is a list, a tuple, a set, or an array that has a dimension. -/
def members? : Value → Option (List Value)
  | .list items | .tuple items | .set items => some items
  | .array type room shape items => arrayElements? type room items shape
  | _ => none

/-- The truth of a plain value: nothing, false, zero and what is empty are untrue. -/
def isTruthyPlain : Value → Bool
  | .null => false
  | .bool b => b
  | .number n => !n.isZero
  | .complex re im => !(re.isZero && im.isZero)
  | .text s => !s.isEmpty
  | .bytes bs => !bs.isEmpty
  | .list items | .tuple items | .set items => !items.isEmpty
  | .map entries => !entries.isEmpty
  | _ => true

/-- The truth of a scalar of a type that holds some content.  Among points in time only the epoch is
untrue. -/
def isTruthyAs (type : ScalarType) (content : Value) : Bool :=
  match type, content with
  | .datetime64 _, .null => true
  | _, v => v.isTruthyPlain

/-- The truth of a value; an array has the truth of its only element, and none if it has more or
fewer. -/
def truth? : Value → Option Bool
  | .sized type v => some (isTruthyAs type v)
  | .array type _ _ items => match items with
    | [v] => if type = .object then truth? v else some (isTruthyAs type v)
    | _ => none
  | v => some v.isTruthyPlain

end Value

end PropertyGraph
