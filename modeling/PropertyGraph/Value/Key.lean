/-
# Values as keys

Two values are the same key when they are equal as numbers (truth values count as 0 and 1), as
texts, as byte strings, as points in time, or part by part as tuples; a fixed-width scalar is the
same key as the value it holds.  Collections that can change are no keys.  Not-a-number and the
missing point in time are not even the same key as themselves, so the relation is not reflexive.
-/
import PropertyGraph.Value.Basic

namespace PropertyGraph.Value

/-- The number that a value counts as when it is a key. -/
def keyNumber? : Value → Option Number
  | .bool b => some (.int (if b then 1 else 0))
  | .number n => some n
  | .complex re im => if im.isZero then some (.double re) else none
  | _ => none

/-- The same key, for plain values that are no tuples. -/
def samePlainKey (v w : Value) : Bool :=
  match v.keyNumber?, w.keyNumber? with
  | some m, some n => m.numericEq n
  | none, none => match v, w with
    | .null, .null | .noInstant, .noInstant => true
    | .text s, .text t => s == t
    | .bytes s, .bytes t => s == t
    | .date s, .date t | .dateTime s, .dateTime t | .instant s, .instant t => s == t
    | .complex a b, .complex c d => a.numericEq c && b.numericEq d
    | _, _ => false
  | _, _ => false

/-- The value by which a value is known as a key: a fixed-width scalar by what it holds, and a point
in time by itself, whatever its unit.  The missing point in time has none. -/
def keyContent? : Value → Option Value
  | .sized (.datetime64 unit) v => ((ScalarType.datetime64 unit).moment? v).map .instant
  | .sized _ v => some v
  | v => some v

mutual

/-- Whether two values are the same key. -/
def sameKey : Value → Value → Bool
  | .tuple vs, w => match w with
    | .tuple ws => sameKeys vs ws
    | _ => false
  | v, w => match v.keyContent?, w.keyContent? with
    | some v, some w => samePlainKey v w
    | _, _ => false

/-- Whether two lists of values are the same keys one by one. -/
def sameKeys : List Value → List Value → Bool
  | [], [] => true
  | v :: vs, w :: ws => sameKey v w && sameKeys vs ws
  | _, _ => false

end

instance : BEq Value := ⟨sameKey⟩

mutual

/-- Whether a value can be a key. -/
def isKey : Value → Bool
  | .list _ | .set _ | .map _ | .array _ _ _ _ => false
  | .tuple items => areKeys items
  | _ => true

/-- Whether all values of a list can be keys. -/
def areKeys : List Value → Bool
  | [] => true
  | v :: vs => isKey v && areKeys vs

end

/-- The members of a set given by a list: of values that are the same key, the first is kept. -/
def distinctKeys (items : List Value) : List Value :=
  items.foldl (fun kept v => if kept.any (· == v) then kept else kept ++ [v]) []

end PropertyGraph.Value
