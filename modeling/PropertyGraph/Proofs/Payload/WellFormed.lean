/-
# Well-formed payloads

What a plain map has to be like to describe a graph, said of its entries alone: each element has the
fields it needs (`Fields.IsPayload`), and the elements fit together (`Fields.FitTogether`).  Which
values count as collections is left open here, except where the conditions are put in plain terms.
`payloadFaults` lists what is wrong with the fields of a map that does not describe a graph, element
by element.
-/
import Mathlib.Data.List.Duplicate
import PropertyGraph.Payload
import PropertyGraph.Proofs.Checked
import PropertyGraph.Proofs.Value.Contents

namespace PropertyGraph

/-! ### Fields -/

namespace Value

/-- A whole number or a text. -/
def IsIdentifier (v : Value) : Prop := (∃ i, v = .int i) ∨ ∃ s, v.asText? = some s

/-- A text, or bytes that are UTF-8. -/
def IsText (v : Value) : Prop := ∃ s, v.decodeText? = some s

/-- A text that is not empty. -/
def IsType (v : Value) : Prop := ∃ s, v.decodeText? = some s ∧ s ≠ ""

/-- Null, or a map from texts to values that can be stored. -/
def IsProperties (v : Value) : Prop :=
  v = .null ∨ ∃ entries, v = .map entries ∧
    ∀ e ∈ entries, e.1.IsText ∧ ∃ p, Property.ofValue? e.2 = .ok p

/-- The members of a list, a tuple or a set. -/
def listed? : Value → Option (List Value)
  | .list items | .tuple items | .set items => some items
  | _ => none

variable (members : Value → Option (List Value))

/-- Null, a single text, or a collection of texts. -/
def IsLabels (v : Value) : Prop :=
  v = .null ∨ (∃ s, v.asText? = some s) ∨ ∃ items, members v = some items ∧ ∀ x ∈ items, x.IsText

/-- A collection of maps with some property. -/
def AreElements (P : Fields → Prop) (v : Value) : Prop :=
  ∃ items, members v = some items ∧ ∀ x ∈ items, ∃ fields, x = .map fields ∧ P fields

/-! What this means where the collections are those that are read: a text, whether it stands alone
or among labels, is given in one of four ways, and a collection in one of four shapes. -/

variable {v : Value}

lemma isIdentifier_iff : v.IsIdentifier ↔
    (∃ i, v = .int i) ∨ ∃ s, v = .text s ∨ v = .sized .text (.text s) := by
  simp only [IsIdentifier, asText?_eq_some_iff]

lemma isText_iff : v.IsText ↔ ∃ s, v = .text s ∨ v = .sized .text (.text s) ∨
    v = .bytes (utf8Of s) ∨ v = .sized .bytes (.bytes (utf8Of s)) := by
  simp only [IsText, decodeText?_eq_some_iff]

lemma isLabels_iff (h : v.IsFull) : v.IsLabels members? ↔
    v = .null ∨ (∃ s, v = .text s ∨ v = .sized .text (.text s)) ∨
      ∃ items, v.Lists items ∧ ∀ x ∈ items, x.IsText := by
  simp only [IsLabels, asText?_eq_some_iff, members?_eq_some_iff h]

lemma areElements_iff (h : v.IsFull) {P : Fields → Prop} : v.AreElements members? P ↔
    ∃ items, v.Lists items ∧ ∀ x ∈ items, ∃ fields, x = .map fields ∧ P fields := by
  simp only [AreElements, members?_eq_some_iff h]

end Value

namespace Fields

/-- A field is present and in order. -/
def Has (fields : Fields) (name : String) (P : Value → Prop) : Prop :=
  ∃ v, fields.get? name = some v ∧ P v

/-- A field is in order if it is present. -/
def MayHave (fields : Fields) (name : String) (P : Value → Prop) : Prop :=
  ∀ v, fields.get? name = some v → P v

/-- The fields of a relationship. -/
structure IsRelationship (fields : Fields) : Prop where
  id : fields.Has "id" Value.IsIdentifier
  type : fields.Has "type" Value.IsType
  source : fields.Has "start" Value.IsIdentifier
  target : fields.Has "end" Value.IsIdentifier
  properties : fields.MayHave "properties" Value.IsProperties

variable (members : Value → Option (List Value))

/-- The fields of a node. -/
structure IsNode (fields : Fields) : Prop where
  id : fields.Has "id" Value.IsIdentifier
  labels : fields.MayHave "labels" (Value.IsLabels members)
  properties : fields.MayHave "properties" Value.IsProperties

/-- The fields of a graph, each element being in order on its own. -/
structure IsPayload (fields : Fields) : Prop where
  nodes : fields.MayHave "nodes" (Value.AreElements members (IsNode members))
  relationships : fields.MayHave "relationships" (Value.AreElements members IsRelationship)

/-! ### Elements that fit together -/

/-- The identifier in a field. -/
def ident? (fields : Fields) (name : String) : Option Ident :=
  (fields.get? name).bind fun v => (Ident.read v).toOption

/-- The maps that are listed in a field. -/
def elements (fields : Fields) (name : String) : List Fields :=
  (((fields.get? name).bind members).getD []).filterMap fun
    | .map fields => some fields
    | _ => none

/-- The identifiers of the nodes. -/
def nodeIds (fields : Fields) : List (Option Ident) :=
  (fields.elements members "nodes").map (ident? · "id")

/-- The identifiers of the relationships. -/
def relationshipIds (fields : Fields) : List (Option Ident) :=
  (fields.elements members "relationships").map (ident? · "id")

/-- Identifiers occur once, and relationships connect nodes that are there. -/
structure FitTogether (fields : Fields) : Prop where
  nodeIds : (fields.nodeIds members).Nodup
  relationshipIds : (fields.relationshipIds members).Nodup
  endpoints : ∀ r ∈ fields.elements members "relationships",
    r.ident? "start" ∈ fields.nodeIds members ∧ r.ident? "end" ∈ fields.nodeIds members

/-- A fault that a graph has. -/
def HasFault (fields : Fields) : IntegrityFault → Prop
  | .duplicateNode id => List.Duplicate (some id) (fields.nodeIds members)
  | .duplicateRelationship id => List.Duplicate (some id) (fields.relationshipIds members)
  | .unknownNode id node => ∃ r ∈ fields.elements members "relationships",
    r.ident? "id" = some id ∧ (r.ident? "start" = some node ∨ r.ident? "end" = some node) ∧
      some node ∉ fields.nodeIds members

end Fields

/-! ### What is wrong with fields -/

/-- A value that is no identifier is wrong on both counts. -/
def identifierFaults (v : Value) : List FieldFault :=
  match v, v.asText? with
  | .number (.int _), _ | _, some _ => []
  | _, none => [⟨[.name "int"], .notInteger⟩, ⟨[.name "str"], .notText⟩]

def textFaults (v : Value) : List FieldFault :=
  match v.decodeText?, v with
  | some _, _ => []
  | none, .bytes _ | none, .sized .bytes (.bytes _) => [⟨[], .notUtf8⟩]
  | none, _ => [⟨[], .notText⟩]

def typeFaults (v : Value) : List FieldFault :=
  if v.decodeText? = some "" then [⟨[], .emptyText⟩] else textFaults v

/-- The faults of the members of a collection, each at its position. -/
def memberFaults (faults : Value → List FieldFault) (items : List Value) : List FieldFault :=
  items.zipIdx.flatMap fun p => (faults p.1).map (FieldFault.under (.number p.2))

def labelsFaults (v : Value) : List FieldFault :=
  match v, v.asText?, v.members? with
  | .null, _, _ | _, some _, _ => []
  | _, none, some items => memberFaults textFaults items
  | _, none, none => [⟨[], .notNames⟩]

/-- Why a value cannot be stored. -/
def propertyFault? (v : Value) : Option PropertyFault :=
  match Property.ofValue? v with
  | .ok _ => none
  | .error fault => some fault

/-- The faults of the keys of properties, each under its key. -/
def keyFaults (entries : List (Value × Value)) : List FieldFault :=
  entries.flatMap fun e => (textFaults e.1).map fun f =>
    (f.under (.name "[key]")).under (PathStep.toKey e.1)

/-- Of the values only the first one that cannot be stored is a fault, and then the keys are not
looked at. -/
def propertiesFaults : Value → List FieldFault
  | .null => []
  | .map entries => match entries.findSome? fun e => propertyFault? e.2 with
    | some fault => [⟨[], .property fault⟩]
    | none => keyFaults entries
  | _ => [⟨[], .notMap⟩]

namespace Fields

/-- The faults of a field that has to be there. -/
def requiredFaults (fields : Fields) (name : String) (faults : Value → List FieldFault) :
    List FieldFault :=
  match fields.get? name with
  | some v => (faults v).map (FieldFault.under (.name name))
  | none => [⟨[.name name], .missing⟩]

/-- The faults of a field that may be absent. -/
def optionalFaults (fields : Fields) (name : String) (faults : Value → List FieldFault) :
    List FieldFault :=
  match fields.get? name with
  | some v => (faults v).map (FieldFault.under (.name name))
  | none => []

end Fields

def nodeFaults (fields : Fields) : List FieldFault :=
  fields.requiredFaults "id" identifierFaults ++
  fields.optionalFaults "labels" labelsFaults ++
  fields.optionalFaults "properties" propertiesFaults

def relationshipFaults (fields : Fields) : List FieldFault :=
  fields.requiredFaults "id" identifierFaults ++
  fields.requiredFaults "type" typeFaults ++
  fields.requiredFaults "start" identifierFaults ++
  fields.requiredFaults "end" identifierFaults ++
  fields.optionalFaults "properties" propertiesFaults

/-- The faults of a member that has to be a map. -/
def elementFaults (of : Subject) (faults : Fields → List FieldFault) : Value → List FieldFault
  | .map fields => faults fields
  | _ => [⟨[], .notElement of⟩]

/-- The faults of a collection of elements. -/
def elementsFaults (of : Subject) (faults : Fields → List FieldFault) (v : Value) :
    List FieldFault :=
  match v.members? with
  | some items => memberFaults (elementFaults of faults) items
  | none => [⟨[], .notSequence⟩]

/-- All faults of the fields of a graph: those of the nodes, then those of the relationships. -/
def payloadFaults (fields : Fields) : List FieldFault :=
  fields.optionalFaults "nodes" (elementsFaults .node nodeFaults) ++
  fields.optionalFaults "relationships" (elementsFaults .relationship relationshipFaults)

end PropertyGraph
