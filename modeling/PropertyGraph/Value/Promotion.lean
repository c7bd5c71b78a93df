/-
# The least type for several values

The types of fixed-width scalars with the relation of having room for the values of each other.
Whole numbers with and without a sign meet in a type with a sign that is wider than the latter,
numbers of all kinds meet in the complex ones, and a type of texts has room for the text of any
number.  Values that have no type in common are kept as they are.
-/
import PropertyGraph.Value.Basic

namespace PropertyGraph.ScalarType

/-- The type of whole numbers with so many bits; no type has more than 64. -/
def ofBits (signed : Bool) (bits : Nat) : ScalarType :=
  match signed, bits with
  | true, 8 => .int8
  | true, 16 => .int16
  | true, 32 => .int32
  | true, 64 => .int64
  | false, 8 => .uint8
  | false, 16 => .uint16
  | false, 32 => .uint32
  | false, 64 => .uint64
  | _, _ => .float64

/-- The type of floating-point numbers that takes over from a numeric type. -/
def asFloat (type : ScalarType) : ScalarType :=
  match type.bits? with
  | some (_, 8) => .float16
  | some (_, 16) => .float32
  | some _ => .float64
  | none => type

/-- The wider one of two types of floating-point numbers. -/
def widerFloat : ScalarType → ScalarType → ScalarType
  | .float16, t | t, .float16 => t
  | .float32, t | t, .float32 => t
  | _, _ => .float64

/-- The least type with room for the numbers of two numeric types: whole numbers with and without a
sign go into a type with a sign that is wider than the latter, if there is one. -/
def joinNumbers (a b : ScalarType) : ScalarType :=
  match a.bits?, b.bits? with
  | some (s, m), some (t, n) =>
    if s = t then ofBits s (max m n)
    else
      let (signed, unsigned) := if s then (m, n) else (n, m)
      ofBits true (if unsigned < signed then signed else 2 * unsigned)
  | _, _ => widerFloat a.asFloat b.asFloat

/-- A type with room for the values of two types: a number beside a text becomes one, and types that
have nothing in common leave their values as they are. -/
def join (a b : ScalarType) : ScalarType :=
  if a = b then a
  else match a, b with
    | .object, _ | _, .object => .object
    | .datetime64 (some u), .datetime64 (some v) => .datetime64 (some (u.finer v))
    | .datetime64 none, .datetime64 u | .datetime64 u, .datetime64 none => .datetime64 u
    | .datetime64 _, _ | _, .datetime64 _ => .object
    | .text, _ | _, .text => .text
    | .bytes, _ | _, .bytes => .bytes
    | .complex128, _ | _, .complex128 => .complex128
    | .boolean, t | t, .boolean => t
    | a, b => joinNumbers a b

/-- The least type with room for a value. -/
def ofValue : Value → ScalarType
  | .bool _ => .boolean
  | .number (.int i) =>
    if Number.fitsSigned i then .int64
    else if Number.fitsUnsigned i then .uint64
    else .object
  | .number (.double _) => .float64
  | .complex _ _ => .complex128
  | .text _ => .text
  | .bytes _ => .bytes
  | .sized type _ | .array type _ [] _ => type
  | _ => .object

/-- The length of the longest text of a value of a type. -/
def longestText : ScalarType → Nat
  | .boolean => 5
  | .int8 => 4
  | .uint8 => 3
  | .int16 => 6
  | .uint16 => 5
  | .int32 => 11
  | .uint32 => 10
  | .int64 => 21
  | .uint64 => 20
  | .complex128 => 64
  | _ => 32

end PropertyGraph.ScalarType
