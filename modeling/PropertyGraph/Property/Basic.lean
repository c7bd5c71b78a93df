/-
# Properties

What a node or a relationship can store under a key: a truth value, a number, a text, or an array
of scalars that are all of one kind.  `Property.ofValue?` is the only way from a value of outside
to a property, and the only place where such a value is refused.
-/
import PropertyGraph.OrderedMap
import PropertyGraph.Value.Written

namespace PropertyGraph

/-- The kinds of scalars.  Whole numbers and doubles are of one kind. -/
inductive Kind
  | boolean
  | number
  | string
deriving DecidableEq, Repr

/-- The kinds of properties. -/
inductive PropertyKind
  | scalar (k : Kind)
  | array
deriving DecidableEq, Repr

namespace Kind

/-- All kinds, in the alphabetical order of their names. -/
def all : List Kind := [.boolean, .number, .string]

/-- The name of a kind. -/
def name : Kind → String
  | .boolean => "boolean"
  | .number => "number"
  | .string => "string"

end Kind

/-- The name of a kind of property. -/
def PropertyKind.name : PropertyKind → String
  | .scalar k => k.name
  | .array => "array"

/-- A scalar that can be stored. -/
inductive Scalar
  | bool (b : Bool)
  | number (n : Number)
  | text (s : String)
deriving DecidableEq, Repr

namespace Scalar

/-- The kind of a scalar. -/
def kind : Scalar → Kind
  | .bool _ => .boolean
  | .number _ => .number
  | .text _ => .string

/-- A scalar as a value. -/
def toValue : Scalar → Value
  | .bool b => .bool b
  | .number n => .number n
  | .text s => .text s

end Scalar

/-- All scalars of a list are of one kind. -/
def Uniform (items : List Scalar) : Prop := ∀ x ∈ items, ∀ y ∈ items, x.kind = y.kind

/-- Compares the kinds of a list with the kind at its front. -/
def isUniform : List Scalar → Bool
  | [] => true
  | x :: xs => xs.all fun y => y.kind == x.kind

theorem isUniform_iff (items : List Scalar) : isUniform items = true ↔ Uniform items := by
  cases items with
  | nil => simp [isUniform, Uniform]
  | cons x xs =>
    simp only [isUniform, List.all_eq_true, beq_iff_eq]
    constructor
    · intro h y hy z hz
      have front : ∀ w ∈ x :: xs, w.kind = x.kind := by
        intro w hw
        rcases List.mem_cons.1 hw with rfl | hw
        · rfl
        · exact h w hw
      rw [front y hy, front z hz]
    · intro h y hy
      exact h y (List.mem_cons_of_mem _ hy) x List.mem_cons_self

instance (items : List Scalar) : Decidable (Uniform items) :=
  decidable_of_iff _ (isUniform_iff items)

/-- What is stored under a key. -/
inductive Property
  /-- A single scalar. -/
  | scalar (s : Scalar)
  /-- An array of scalars of one kind. -/
  | array (items : List Scalar) (uniform : Uniform items)
deriving DecidableEq

/-- The properties of a node or relationship, in the order in which they were given. -/
abbrev Properties := OrderedMap String Property

namespace Property

/-- The kind of a property. -/
def kind : Property → PropertyKind
  | .scalar s => .scalar s.kind
  | .array _ _ => .array

/-- A property as a value; an array is a tuple. -/
def toValue : Property → Value
  | .scalar s => s.toValue
  | .array items _ => .tuple (items.map Scalar.toValue)

end Property

/-- Properties as a value. -/
def Properties.toValue (ps : Properties) : Value :=
  .map (ps.entries.map fun e => (.text e.1, e.2.toValue))

/-! ### What can be stored -/

/-- Why a value cannot be stored as a property. -/
inductive PropertyFault
  /-- The value is null. -/
  | null
  /-- The value, or an element of it, is of a type that cannot be stored. -/
  | unsupported (typeName : String)
  /-- The elements of an array are of more than one kind. -/
  | mixedKinds (kinds : List Kind)
deriving DecidableEq, Repr

/-- The wording of a fault. -/
def PropertyFault.message : PropertyFault → String
  | .null => "Property values cannot be null"
  | .unsupported typeName => "Unsupported property value type: " ++ typeName
  | .mixedKinds kinds =>
    "Array property mixes value kinds: " ++ (Value.list (kinds.map (.text ·.name))).written

namespace Value

/-- The scalar that a value is as it stands.  Fixed-width doubles and texts are scalars; other
fixed-width scalars have to be made plain first. -/
def asScalar? : Value → Option Scalar
  | .bool b => some (.bool b)
  | .number n => some (.number n)
  | .sized .float64 (.number n) => some (.number n)
  | v => v.asText?.map .text

/-- The kind of a value that is a scalar as it stands. -/
def scalarKind? (v : Value) : Except PropertyFault Kind :=
  match v.asScalar? with
  | some s => .ok s.kind
  | none => .error (.unsupported v.typeName)

/-- The kind of a value as a property; every tuple counts as an array. -/
def propertyKind? : Value → Except PropertyFault PropertyKind
  | .tuple _ => .ok .array
  | v => .scalar <$> v.scalarKind?

end Value

/-- The scalar that a value holds, if it is one or a fixed-width scalar around one. -/
def Scalar.ofValue? (v : Value) : Except PropertyFault Scalar :=
  match v.plain.asScalar? with
  | some s => .ok s
  | none => .error (.unsupported v.plain.typeName)

/-- The kinds that occur in a list of scalars. -/
def kindsOf (items : List Scalar) : List Kind :=
  Kind.all.filter fun k => items.any fun x => x.kind == k

namespace Property

/-- An array property from the elements of a list or tuple. -/
def ofItems? (items : List Value) : Except PropertyFault Property := do
  let scalars ← items.mapM Scalar.ofValue?
  if h : Uniform scalars then
    return .array scalars h
  else
    throw (.mixedKinds (kindsOf scalars))

/-- A property from a value that is no array of fixed-width scalars. -/
def ofPlainValue? : Value → Except PropertyFault Property
  | .list items | .tuple items => ofItems? items
  | .null => .error .null
  | v => .scalar <$> Scalar.ofValue? v

/-- The property that a value is stored as. -/
def ofValue? : Value → Except PropertyFault Property
  | .array type _ shape items => ofPlainValue? (.nested type shape items)
  | v => ofPlainValue? v

end Property

end PropertyGraph
