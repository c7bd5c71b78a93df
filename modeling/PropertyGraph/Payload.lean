/-
# Graphs from plain maps

A graph can be given as a map with the entries `nodes` and `relationships`, whose members are maps
in turn.  Reading is strict about identifiers and properties and lenient about text, which may also
be given as bytes; entries of other names are ignored.
-/
import PropertyGraph.Fault

namespace PropertyGraph

/-- The fields of something that is being read. -/
abbrev Fields := List (Value × Value)

namespace Fields

/-- The value of a field. -/
def get? (fields : Fields) (name : String) : Option Value :=
  (fields.find? fun e => e.1.asText? == some name).map Prod.snd

/-- A field that has to be there. -/
def required {α : Type} (fields : Fields) (name : String) (read : Value → Checked α) : Checked α :=
  Checked.under (.name name) <| match fields.get? name with
    | some v => read v
    | none => Checked.fault .missing

/-- A field that may be absent. -/
def optional {α : Type} (fields : Fields) (name : String) (default : α)
    (read : Value → Checked α) : Checked α :=
  match fields.get? name with
  | some v => Checked.under (.name name) (read v)
  | none => .ok default

end Fields

/-- An identifier: a whole number or a text, nothing else.  Anything else is wrong on both
counts. -/
def Ident.read : Value → Checked Ident
  | .number (.int i) => .ok (.int i)
  | v => match v.asText? with
    | some s => .ok (.text s)
    | none => .error [⟨[.name "int"], .notInteger⟩, ⟨[.name "str"], .notText⟩]

/-- A text, possibly given as bytes. -/
def readText (v : Value) : Checked String :=
  match v.decodeText?, v with
  | some s, _ => .ok s
  | none, .bytes _ | none, .sized .bytes (.bytes _) => Checked.fault .notUtf8
  | none, _ => Checked.fault .notText

/-- The type of a relationship: a text that is not empty. -/
abbrev RelationshipType := { s : String // s ≠ "" }

/-- The type of a relationship. -/
def readType (v : Value) : Checked RelationshipType := do
  let s ← readText v
  if h : s = "" then Checked.fault .emptyText else return ⟨s, h⟩

/-- The labels of a node: none, a single one, or a collection. -/
def readLabels (v : Value) : Checked NameSet :=
  match v.asText? with
  | some s => .ok (.ofList [s])
  | none => match v, v.members? with
    | .null, _ => .ok .empty
    | _, some items => (Checked.members readText items).map NameSet.ofList
    | _, none => Checked.fault .notNames

/-- The step to an entry of a map: by its number if the key is a whole number of 64 bits, else by
the text of the key. -/
def PathStep.toKey : Value → PathStep
  | .bool b => .number (if b then 1 else 0)
  | .number (.int i) =>
    if Number.fitsSigned i then .number i else .name (Value.int i).writtenOrType
  | .sized type (.number (.int i)) =>
    if type.bits?.isSome ∧ Number.fitsSigned i then .number i
    else .name (type.writtenAround (.int i))
  | v => .name v.writtenOrType

/-- The property under a key that has been read already. -/
def readEntry (e : Value × Property) : Checked (String × Property) :=
  Checked.under (PathStep.toKey e.1) <| Checked.under (.name "[key]") <|
    (readText e.1).map fun k => (k, e.2)

/-- The properties of an element.  A value that cannot be stored hides what is wrong with the
keys. -/
def readProperties : Value → Checked Properties
  | .null => .ok .empty
  | .map entries =>
    match entries.mapM fun e => (Property.ofValue? e.2).map fun p => (e.1, p) with
    | .error fault => Checked.fault (.property fault)
    | .ok entries => (Checked.all (entries.map readEntry)).map OrderedMap.ofList
  | _ => Checked.fault .notMap

/-- A node from its fields. -/
def Node.ofFields (fields : Fields) : Checked Node := do
  let (id, labels, properties) ←
    Checked.both (fields.required "id" Ident.read) <|
    Checked.both (fields.optional "labels" .empty readLabels)
      (fields.optional "properties" .empty readProperties)
  return { id, labels, properties }

/-- A relationship of a type. -/
def Relationship.ofType (id : Ident) (type : RelationshipType) (source target : Ident)
    (properties : Properties) : Relationship :=
  ⟨id, type.val, source, target, properties, type.property⟩

/-- A relationship from its fields. -/
def Relationship.ofFields (fields : Fields) : Checked Relationship := do
  let (id, type, source, target, properties) ←
    Checked.both (fields.required "id" Ident.read) <|
    Checked.both (fields.required "type" readType) <|
    Checked.both (fields.required "start" Ident.read) <|
    Checked.both (fields.required "end" Ident.read)
      (fields.optional "properties" .empty readProperties)
  return .ofType id type source target properties

/-- The members of `nodes` or `relationships`. -/
def readElements {α : Type} (of : Subject) (read : Fields → Checked α) (v : Value) :
    Checked (List α) :=
  match v.members? with
  | some items =>
    Checked.members (fun
      | .map fields => read fields
      | _ => Checked.fault (.notElement of)) items
  | none => Checked.fault .notSequence

/-- A graph from its fields.  Whether the elements fit together is asked only when each of them
is in order. -/
def Snapshot.ofFields (fields : Fields) : Checked Snapshot := do
  let (nodes, relationships) ←
    Checked.both (fields.optional "nodes" [] (readElements .node Node.ofFields))
      (fields.optional "relationships" [] (readElements .relationship Relationship.ofFields))
  match Snapshot.ofElements? nodes relationships with
  | .ok g => return g
  | .error fault => Checked.fault (.ofIntegrity fault)

/-- A graph from a value, which has to be a map. -/
def Snapshot.ofValue : Value → Checked Snapshot
  | .map fields => ofFields fields
  | _ => Checked.fault (.notElement .graph)

end PropertyGraph
