/-
# Fixed-width scalars and arrays from plain values

An array is made from nested lists.  Its dimensions go as deep as the lists agree in their lengths,
which they have to do throughout unless the array takes elements of any type, and all elements are
fitted to one type, which is either given or the least type that has room for every element.
-/
import PropertyGraph.Value.Fitting

namespace PropertyGraph.Value

/-! ### Dimensions -/

/-- The longest common beginning of two lists. -/
def commonPrefix : List Nat → List Nat → List Nat
  | m :: ms, n :: ns => if m = n then m :: commonPrefix ms ns else []
  | _, _ => []

mutual

/-- The lengths of nested lists, as deep as they agree. -/
def gridShape : Value → List Nat
  | .list items | .tuple items => items.length :: commonShape items
  | .array _ _ shape _ => shape
  | _ => []

/-- The lengths that all members of a list have in common. -/
def commonShape : List Value → List Nat
  | [] => []
  | [v] => gridShape v
  | v :: vs => commonPrefix (gridShape v) (commonShape vs)

end

mutual

/-- Whether nested lists have no other dimensions than these. -/
def hasShape : Value → List Nat → Bool
  | .list items, n :: shape | .tuple items, n :: shape =>
    items.length = n && haveShape items shape
  | .array _ _ own _, shape => own = shape
  | .list _, [] | .tuple _, [] => false
  | _, shape => shape.isEmpty

/-- Whether the members of a list have no other dimensions than these. -/
def haveShape : List Value → List Nat → Bool
  | [], _ => true
  | v :: vs, shape => hasShape v shape && haveShape vs shape

end

mutual

/-- The elements of nested lists at some depth, in order; an element of an array is an array without
dimensions, or its plain value. -/
def elementsAt (asPlain : Bool) : Value → Nat → List Value
  | .list items, depth + 1 | .tuple items, depth + 1 => elementsOfAll asPlain items depth
  | .array type room _ items, _ + 1 =>
    items.map fun v => if asPlain then type.unwrap v else .array type room [] [v]
  | v, _ => [v]

/-- The elements of all lists of a list at some depth, in order. -/
def elementsOfAll (asPlain : Bool) : List Value → Nat → List Value
  | [], _ => []
  | v :: vs, depth => elementsAt asPlain v depth ++ elementsOfAll asPlain vs depth

end

/-! ### The type of an array -/

/-- The least type with room for all elements; without elements it holds doubles. -/
def commonType (elements : List Value) : ScalarType :=
  match elements.map ScalarType.ofValue with
  | [] => .float64
  | t :: ts => ts.foldl ScalarType.join t

/-- A given type of points in time with the finest unit of the elements, unless it has its own. -/
def withUnit (type : ScalarType) (elements : List Value) : ScalarType :=
  match type with
  | .datetime64 none => .datetime64 ((elements.filterMap ScalarType.unitOf?).foldl
      (fun unit own => some ((unit.map own.finer).getD own)) none)
  | type => type

/-- The length for which an element of a type of texts has to have room. -/
def roomFor (given : Bool) (v : Value) : Nat :=
  match v with
  | .text s | .sized _ (.text s) => s.length
  | .bytes bs | .sized _ (.bytes bs) => bs.length
  | .array .text room [] _ | .array .bytes room [] _ => room
  | v => if given then v.shown.length else (ScalarType.ofValue v).longestText

/-- What a scalar holds, cut to the length for which its type has room. -/
def cutTo (room : Nat) : Value → Value
  | .text s => .text (withoutPadding (String.ofList (s.toList.take room)))
  | .bytes bs => .bytes (bs.take room)
  | v => v

/-! ### Making arrays and scalars -/

/-- An array of elements in nested lists, of a given type or of the one they have in common.  A type
of texts has room for the longest element unless its length is given. -/
def ofNested (type : Option ScalarType) (room : Option Nat) (v : Value) :
    Except FitFault Value := do
  let shape := v.gridShape
  if type ≠ some .object ∧ !v.hasShape shape then
    throw (.ragged shape)
  let elements := match v with
    | .array own _ [] items => if type = some .object then items.map own.unwrap else [v]
    | v => v.elementsAt (type = some .object) shape.length
  let common := match type with
    | some type => withUnit type elements
    | none => commonType elements
  let fitted ← elements.mapM common.fit
  if common = .text ∨ common = .bytes then
    let room := room.getD (max 1 ((elements.map (roomFor type.isSome)).foldl max 0))
    return .array common room shape (fitted.map (cutTo room))
  else
    return .array common 0 shape fitted

/-- A point in time of fixed width, made from a value. -/
def momentOf (v : Value) : Except FitFault Value :=
  match v with
  | .sized (.datetime64 unit) content | .array (.datetime64 unit) _ [] [content] =>
    .ok (.sized (.datetime64 unit) content)
  | .text s | .sized .text (.text s) => sized s
  | .bytes bs => sized (ScalarType.asciiText bs)
  | .sized _ _ => .error .notMoment
  | v => (ScalarType.readMoment none v).map (.sized (.datetime64 none))
where
  /-- The point in time that a text denotes, up to the unit at which it stops. -/
  sized (s : String) : Except FitFault Value :=
    if ScalarType.isMissingMoment s then .ok (.sized (.datetime64 none) .null)
    else match Moment.ofText s with
      | .ok (m, unit) => .ok (.sized (.datetime64 (some unit)) (ScalarType.ofSteps (m.steps unit)))
      | .error fault => .error (.moment fault)

/-- A scalar of a type, made from a value.  Lists make an array instead. -/
def ofScalar (type : ScalarType) (v : Value) : Except FitFault Value :=
  match type with
  | .text => .ok (.sized .text (.text v.shown))
  | .datetime64 none => momentOf v
  | .object => .ok v
  | type => do
    let array ← ofNested (some type) none v
    return match array with
      | .array type _ [] [content] => .sized type content
      | array => array

end PropertyGraph.Value
