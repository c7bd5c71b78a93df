/-
# Field faults

When the fields of a node, a relationship, a graph or the settings are read from values of
outside, everything that is wrong with them is reported at once: a list of faults in the order of
the fields, each with the path to the offending value.  `Checked.both` and `Checked.all` read
several parts side by side and keep the faults of all of them.
-/
import PropertyGraph.Snapshot.Basic

namespace PropertyGraph

/-- What is being read. -/
inductive Subject
  | node
  | relationship
  | graph
  | settings
deriving DecidableEq, Repr

/-- A step from a value to a part of it. -/
inductive PathStep
  /-- To the field or entry of this name. -/
  | name (s : String)
  /-- To the element at this position, or to the entry at this number. -/
  | number (i : Int)
deriving DecidableEq, Repr

/-- What can be wrong with a value. -/
inductive FaultCause
  /-- A required field is absent. -/
  | missing
  | notInteger
  | notText
  /-- A byte string is not UTF-8. -/
  | notUtf8
  | emptyText
  /-- Labels are no collection. -/
  | notNames
  | notMap
  /-- Nodes or relationships are no collection. -/
  | notSequence
  /-- A member of the nodes or relationships is no map. -/
  | notElement (of : Subject)
  | property (fault : PropertyFault)
  | integrity (fault : IntegrityFault)
  /-- What is wrong cannot be said. -/
  | unwritable (fault : WritingFault)
  /-- A field is assigned after the fact. -/
  | frozen
  /-- No severity has this name. -/
  | unknownLevel (given : Value)
  | notBool
  /-- A text or a number that is neither true nor false. -/
  | unclearBool
  /-- A text that is no whole number. -/
  | unclearInteger
  /-- A number with a fractional part. -/
  | fractional
  | notFinite
  | tooLarge
deriving Repr

/-- A fault, with the path to where it is. -/
structure FieldFault where
  /-- The path, from the outside in. -/
  path : List PathStep
  /-- What is wrong there. -/
  cause : FaultCause
deriving Repr

namespace Subject

/-- The name by which messages call what is being read. -/
def name : Subject → String
  | .node => "Node"
  | .relationship => "Relationship"
  | .graph => "GraphSnapshot"
  | .settings => "Settings"

end Subject

namespace FaultCause

/-- The short code of a cause. -/
def code : FaultCause → String
  | .missing => "missing"
  | .notInteger => "int_type"
  | .notText => "string_type"
  | .notUtf8 => "string_unicode"
  | .emptyText => "string_too_short"
  | .notNames => "frozen_set_type"
  | .notMap => "dict_type"
  | .notSequence => "tuple_type"
  | .notElement _ => "model_type"
  | .property _ | .integrity _ | .unwritable _ | .unknownLevel _ => "value_error"
  | .frozen => "frozen_instance"
  | .notBool => "bool_type"
  | .unclearBool => "bool_parsing"
  | .unclearInteger => "int_parsing"
  | .fractional => "int_from_float"
  | .notFinite => "finite_number"
  | .tooLarge => "int_parsing_size"

/-- That elements do not fit together, or that the identifiers to be named for it cannot be
written. -/
def ofIntegrity (fault : IntegrityFault) : FaultCause :=
  if fault.isWritable then .integrity fault else .unwritable .tooManyDigits

/-- The wording of a cause. -/
def message : FaultCause → String
  | .missing => "Field required"
  | .notInteger => "Input should be a valid integer"
  | .notText => "Input should be a valid string"
  | .notUtf8 => "Input should be a valid string, unable to parse raw data as a unicode string"
  | .emptyText => "String should have at least 1 character"
  | .notNames => "Input should be a valid frozenset"
  | .notMap => "Input should be a valid dictionary"
  | .notSequence => "Input should be a valid tuple"
  | .notElement of => "Input should be a valid dictionary or instance of " ++ of.name
  | .property fault => "Value error, " ++ fault.message
  | .integrity fault => "Value error, " ++ fault.message
  | .unwritable fault => "Value error, " ++ fault.message
  | .frozen => "Instance is frozen"
  | .unknownLevel given => "Value error, Unknown log level: " ++ given.written
  | .notBool => "Input should be a valid boolean"
  | .unclearBool => "Input should be a valid boolean, unable to interpret input"
  | .unclearInteger => "Input should be a valid integer, unable to parse string as an integer"
  | .fractional => "Input should be a valid integer, got a number with a fractional part"
  | .notFinite => "Input should be a finite number"
  | .tooLarge => "Unable to parse input string as an integer, exceeded maximum size"

end FaultCause

/-- What was read, or all faults found on the way. -/
abbrev Checked (α : Type) := Except (List FieldFault) α

namespace Checked

variable {α β : Type}

/-- A single fault at the value being read itself. -/
def fault (cause : FaultCause) : Checked α := .error [⟨[], cause⟩]

/-- A reading of a part, whose faults are one step further away. -/
def under (step : PathStep) (x : Checked α) : Checked α :=
  x.mapError fun faults => faults.map fun f => { f with path := step :: f.path }

/-- Two readings side by side; the faults of the first come first. -/
def both : Checked α → Checked β → Checked (α × β)
  | .ok a, .ok b => .ok (a, b)
  | .ok _, .error fs => .error fs
  | .error fs, .ok _ => .error fs
  | .error fs, .error gs => .error (fs ++ gs)

/-- Many readings side by side. -/
def all : List (Checked α) → Checked (List α)
  | [] => .ok []
  | x :: xs => (both x (all xs)).map fun (a, as) => a :: as

/-- The members of a collection, each read on its own. -/
def members (read : Value → Checked α) (items : List Value) : Checked (List α) :=
  all (items.zipIdx.map fun (v, i) => under (.number i) (read v))

end Checked

end PropertyGraph
