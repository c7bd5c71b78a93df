/-
# Equality of properties

Properties are equal when they are of one kind and agree in content: truth values and texts
literally, numbers as the exact numbers they denote, arrays element by element.  Not-a-number
equals itself here, and a whole number equals the double of the same value.

The same comparison is defined for values of outside, where it can fail: it asks for the kinds of
both values first, and a value of no kind is a fault.
-/
import PropertyGraph.Property.Basic

namespace PropertyGraph

/-- Equality of scalars. -/
def Scalar.equal : Scalar → Scalar → Bool
  | .bool a, .bool b => a == b
  | .number m, .number n => (m.isNaN && n.isNaN) || m.numericEq n
  | .text s, .text t => s == t
  | _, _ => false

/-- Equality of lists of scalars, element by element. -/
def equalItems : List Scalar → List Scalar → Bool
  | [], [] => true
  | x :: xs, y :: ys => x.equal y && equalItems xs ys
  | _, _ => false

/-- Equality of properties. -/
def Property.equal : Property → Property → Bool
  | .scalar s, .scalar t => s.equal t
  | .array xs _, .array ys _ => equalItems xs ys
  | _, _ => false

/-- Properties are equal when they have equally many keys and every key of the first is a key of
the second with an equal property. -/
def Properties.equal (p q : Properties) : Bool :=
  p.size == q.size && p.entries.all fun e => match q.find? e.1 with
    | some v => e.2.equal v
    | none => false

namespace Value

mutual

/-- Equality of two values, each of which must be of some kind.  Two tuples are compared up to
the first difference, so a fault behind it goes unnoticed. -/
def equal? : Value → Value → Except PropertyFault Bool
  | .tuple xs, w => match w.propertyKind? with
    | .error fault => .error fault
    | .ok (.scalar _) => .ok false
    | .ok .array => match w with
      | .tuple ys => if xs.length = ys.length then equalTuples? xs ys else .ok false
      | _ => .ok false
  | v, w => do
    let k ← v.scalarKind?
    if (← w.propertyKind?) ≠ .scalar k then
      return false
    match v.asScalar?, w.asScalar? with
    | some s, some t => return s.equal t
    | _, _ => return false

/-- Equality of the elements of two tuples of one length. -/
def equalTuples? : List Value → List Value → Except PropertyFault Bool
  | x :: xs, y :: ys => do
    if ← equal? x y then equalTuples? xs ys else return false
  | _, _ => .ok true

end

end Value

end PropertyGraph
