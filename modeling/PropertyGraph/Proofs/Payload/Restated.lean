/-
# Graphs restated as payloads

The fields of a graph can be put down as a map again: identifiers as they are, labels in any order
and as often as one likes, arrays as lists or as tuples.  `Fields.Describes` says that a map does
this, and any map that does is read as the same graph (`Snapshot.ofFields_restated`).  What a
reading normalizes, labels into a set and lists into tuples, is thus in its normal form after one
reading.
-/
import PropertyGraph.Proofs.Isomorphism
import PropertyGraph.Proofs.Payload.Acceptance

namespace PropertyGraph

open Checked

/-! ### What describes a graph -/

/-- A value that gives a property: the property as it is, or an array as a list. -/
inductive Property.WrittenAs : Property → Value → Prop
  | same (p : Property) : WrittenAs p p.toValue
  | list (items : List Scalar) (uniform : Uniform items) :
    WrittenAs (.array items uniform) (.list (items.map Scalar.toValue))

/-- A map that gives properties, in their order. -/
def Properties.WrittenAs (ps : Properties) (v : Value) : Prop :=
  ∃ entries, v = .map entries ∧
    List.Forall₂ (fun e q => e.1 = .text q.1 ∧ q.2.WrittenAs e.2) entries ps.entries

/-- A collection that lists the members of a set, in any order and with any repetitions. -/
def NameSet.ListedIn (s : NameSet) (v : Value) : Prop :=
  ∃ names : List String, v.listed? = some (names.map .text) ∧ ∀ x, x ∈ names ↔ x ∈ s

namespace Fields

/-- The fields are those of a node. -/
structure DescribesNode (fields : Fields) (n : Node) : Prop where
  id : fields.Has "id" (· = n.id.toValue)
  labels : fields.Has "labels" n.labels.ListedIn
  properties : fields.Has "properties" n.properties.WrittenAs

/-- The fields are those of a relationship. -/
structure DescribesRelationship (fields : Fields) (r : Relationship) : Prop where
  id : fields.Has "id" (· = r.id.toValue)
  type : fields.Has "type" (· = .text r.type)
  source : fields.Has "start" (· = r.source.toValue)
  target : fields.Has "end" (· = r.target.toValue)
  properties : fields.Has "properties" r.properties.WrittenAs

end Fields

/-- A collection of maps that describe elements, in their order. -/
def Value.DescribesAll {α : Type} (describes : Fields → α → Prop) (as : List α) (v : Value) :
    Prop :=
  ∃ items, v.listed? = some items ∧
    List.Forall₂ (fun x a => ∃ fields, x = .map fields ∧ describes fields a) items as

/-- The fields are those of a graph. -/
structure Fields.Describes (fields : Fields) (g : Snapshot) : Prop where
  nodes : fields.Has "nodes" (Value.DescribesAll DescribesNode g.nodes)
  relationships :
    fields.Has "relationships" (Value.DescribesAll DescribesRelationship g.relationships)

/-! ### Fields -/

section Reading

variable {α : Type} {fields : Fields} {name : String} {read : Value → Checked α} {a : α}
  {P : Value → Prop}

lemma Fields.Has.required_eq_ok (h : fields.Has name P) (hread : ∀ v, P v → read v = .ok a) :
    fields.required name read = .ok a := by
  obtain ⟨v, hv, hP⟩ := h
  rw [required, hv, under_eq_ok_iff]
  exact hread v hP

lemma Fields.Has.optional_eq_ok {default : α} (h : fields.Has name P)
    (hread : ∀ v, P v → read v = .ok a) : fields.optional name default read = .ok a := by
  obtain ⟨v, hv, hP⟩ := h
  simp only [optional, hv, under_eq_ok_iff]
  exact hread v hP

lemma listed?_eq_some_iff {v : Value} {items : List Value} :
    v.listed? = some items ↔ v = .list items ∨ v = .tuple items ∨ v = .set items := by
  cases v <;> simp [Value.listed?]

lemma members?_of_listed? {v : Value} {items : List Value} (h : v.listed? = some items) :
    v.members? = some items := by
  rcases listed?_eq_some_iff.1 h with rfl | rfl | rfl <;> rfl

/-- The order of the labels and their repetitions are lost in the set. -/
lemma NameSet.ListedIn.readLabels_eq_ok {s : NameSet} {v : Value} (h : s.ListedIn v) :
    readLabels v = .ok s := by
  obtain ⟨names, hlisted, hnames⟩ := h
  have hset : NameSet.ofList names = s :=
    NameSet.ext_mem fun x => NameSet.mem_ofList.trans (hnames x)
  have hlabels : (Checked.members readText (names.map Value.text)).map NameSet.ofList = .ok s := by
    rw [members_readText, Except.map, hset]
  rcases listed?_eq_some_iff.1 hlisted with rfl | rfl | rfl
  · exact hlabels
  · exact hlabels
  · exact hlabels

lemma Property.WrittenAs.ofValue?_eq_ok {p : Property} {v : Value} (h : p.WrittenAs v) :
    Property.ofValue? v = .ok p := by
  cases h with
  | same => exact p.ofValue?_toValue
  | list items uniform => exact (Property.array items uniform).ofValue?_toValue

lemma Properties.WrittenAs.readProperties_eq_ok {ps : Properties} {v : Value}
    (h : ps.WrittenAs v) : readProperties v = .ok ps := by
  obtain ⟨entries, rfl, hentries⟩ := h
  have hread : readProperties (.map entries) = .ok (.ofList ps.entries) := by
    refine PropertyGraph.readProperties_eq_ok (hentries.imp fun e q hq => ⟨?_, hq.2.ofValue?_eq_ok⟩)
    rw [hq.1]
    rfl
  rw [hread, OrderedMap.ext_entries (OrderedMap.entries_ofList_of_pairwise ps.distinct)]

lemma Value.DescribesAll.readElements_eq_ok {of : Subject} {read : Fields → Checked α}
    {describes : Fields → α → Prop} {as : List α} {v : Value}
    (h : v.DescribesAll describes as) (hread : ∀ e a, describes e a → read e = .ok a) :
    readElements of read v = .ok as := by
  obtain ⟨items, hlisted, hitems⟩ := h
  exact PropertyGraph.readElements_eq_ok (members?_of_listed? hlisted)
    (hitems.imp fun _ a ⟨e, hx, he⟩ => ⟨e, hx, hread e a he⟩)

end Reading

/-! ### Elements and graphs -/

lemma Node.ofFields_eq_ok {fields : Fields} {n : Node} (h : fields.DescribesNode n) :
    Node.ofFields fields = .ok n := by
  rw [Node.ofFields_eq, map_eq_ok_iff]
  refine ⟨(n.id, n.labels, n.properties), ?_, rfl⟩
  simp only [both_eq_ok_iff]
  exact ⟨h.id.required_eq_ok fun _ hv => hv ▸ n.id.read_toValue,
    h.labels.optional_eq_ok fun _ hv => hv.readLabels_eq_ok,
    h.properties.optional_eq_ok fun _ hv => hv.readProperties_eq_ok⟩

lemma Relationship.ofFields_eq_ok {fields : Fields} {r : Relationship}
    (h : fields.DescribesRelationship r) : Relationship.ofFields fields = .ok r := by
  rw [Relationship.ofFields_eq, map_eq_ok_iff]
  refine ⟨(r.id, ⟨r.type, r.type_ne_empty⟩, r.source, r.target, r.properties), ?_, rfl⟩
  simp only [both_eq_ok_iff]
  exact ⟨h.id.required_eq_ok fun _ hv => hv ▸ r.id.read_toValue,
    h.type.required_eq_ok fun _ hv => hv ▸ readType_text r.type_ne_empty,
    h.source.required_eq_ok fun _ hv => hv ▸ r.source.read_toValue,
    h.target.required_eq_ok fun _ hv => hv ▸ r.target.read_toValue,
    h.properties.optional_eq_ok fun _ hv => hv.readProperties_eq_ok⟩

lemma readParts_eq_ok {fields : Fields} {g : Snapshot} (h : fields.Describes g) :
    readParts fields = .ok (g.nodes, g.relationships) := by
  rw [readParts, both_eq_ok_iff]
  exact ⟨h.nodes.optional_eq_ok fun _ hv => hv.readElements_eq_ok fun _ _ => Node.ofFields_eq_ok,
    h.relationships.optional_eq_ok fun _ hv =>
      hv.readElements_eq_ok fun _ _ => Relationship.ofFields_eq_ok⟩

/-! ### The fields of a graph -/

/-- The fields of a node. -/
def Node.toFields (n : Node) : Fields :=
  [(.text "id", n.id.toValue), (.text "labels", .list (n.labels.toList.map .text)),
    (.text "properties", n.properties.toValue)]

/-- The fields of a relationship. -/
def Relationship.toFields (r : Relationship) : Fields :=
  [(.text "id", r.id.toValue), (.text "type", .text r.type), (.text "start", r.source.toValue),
    (.text "end", r.target.toValue), (.text "properties", r.properties.toValue)]

/-- The fields of a graph. -/
def Snapshot.toFields (g : Snapshot) : Fields :=
  [(.text "nodes", .list (g.nodes.map fun n => .map n.toFields)),
    (.text "relationships", .list (g.relationships.map fun r => .map r.toFields))]

lemma Properties.writtenAs_toValue (ps : Properties) : ps.WrittenAs ps.toValue := by
  refine ⟨_, rfl, ?_⟩
  rw [List.forall₂_map_left_iff, List.forall₂_same]
  exact fun e _ => ⟨rfl, .same e.2⟩

lemma Node.describesNode_toFields (n : Node) : n.toFields.DescribesNode n where
  id := ⟨_, rfl, rfl⟩
  labels := ⟨_, rfl, n.labels.toList, rfl, fun _ => Iff.rfl⟩
  properties := ⟨_, rfl, n.properties.writtenAs_toValue⟩

lemma Relationship.describesRelationship_toFields (r : Relationship) :
    r.toFields.DescribesRelationship r where
  id := ⟨_, rfl, rfl⟩
  type := ⟨_, rfl, rfl⟩
  source := ⟨_, rfl, rfl⟩
  target := ⟨_, rfl, rfl⟩
  properties := ⟨_, rfl, r.properties.writtenAs_toValue⟩

lemma Snapshot.describes_toFields (g : Snapshot) : g.toFields.Describes g where
  nodes := by
    refine ⟨_, rfl, _, rfl, ?_⟩
    rw [List.forall₂_map_left_iff, List.forall₂_same]
    exact fun n _ => ⟨_, rfl, n.describesNode_toFields⟩
  relationships := by
    refine ⟨_, rfl, _, rfl, ?_⟩
    rw [List.forall₂_map_left_iff, List.forall₂_same]
    exact fun r _ => ⟨_, rfl, r.describesRelationship_toFields⟩

/-- The fields of a graph, and any map that gives the same fields with the labels in another order
or repeated and with arrays as lists or tuples, are read as that graph. -/
theorem Snapshot.ofFields_restated (g : Snapshot) :
    g.toFields.Describes g ∧
      ∀ fields : Fields, fields.Describes g → Snapshot.ofFields fields = .ok g := by
  refine ⟨g.describes_toFields, fun fields h => ?_⟩
  exact Snapshot.ofFields_eq_ok (readParts_eq_ok h)

end PropertyGraph
