/-
# Labels as attributes and as fields

The labels of a vertex and those of a node in a plain map may be absent, null, a text or a
collection of texts.  Neither reading refuses any of these (`parseLabels_value?`,
`Fields.optional_labels`).  A collection holds the same labels for both of them, but a text is split
at its colons in a network and is a single label in a map, so that the two agree exactly on texts
that are not empty and have no colons (`LabelForm.ofList_parts_eq_iff`).
-/
import PropertyGraph.Proofs.Label.Colons
import PropertyGraph.Proofs.Network.FixedPoint
import PropertyGraph.Proofs.Payload.Restated

namespace PropertyGraph

open Network (labelsKey readVertex)

/-! ### Forms -/

/-- A form of labels that can be read both from a network and from a plain map. -/
inductive LabelForm
  | absent
  | null
  | text (s : String)
  | list (names : List String)
  | tuple (names : List String)
  | set (names : List String)

namespace LabelForm

/-- The value that holds the labels, if there is one. -/
def value? : LabelForm → Option Value
  | absent => none
  | null => some .null
  | text s => some (.text s)
  | list names => some (.list (names.map .text))
  | tuple names => some (.tuple (names.map .text))
  | set names => some (.set (names.map .text))

/-- The labels, a text being one of them. -/
def names : LabelForm → List String
  | absent | null => []
  | text s => [s]
  | list names | tuple names | set names => names

/-- The labels, those of a text standing between colons. -/
def parts : LabelForm → List String
  | text s => colonParts s
  | form => form.names

/-- The labels are not a text that is empty or has colons. -/
def isPlain : LabelForm → Bool
  | text s => s ≠ "" ∧ ':' ∉ s.toList
  | _ => true

lemma isPlain_text_iff {s : String} :
    (text s).isPlain = true ↔ s ≠ "" ∧ ':' ∉ s.toList := by
  rw [isPlain, decide_eq_true_eq]

/-- Labels that both readings tell apart are a text. -/
lemma exists_text_of_isPlain_eq_false {form : LabelForm} (h : form.isPlain = false) :
    ∃ s, form = text s := by
  cases form with
  | text s => exact ⟨s, rfl⟩
  | _ => cases h

lemma parts_eq_names {form : LabelForm} (h : form.isPlain = true) : form.parts = form.names := by
  cases form with
  | text s => exact colonParts_name (isPlain_text_iff.1 h)
  | _ => rfl

/-- Between colons there is no label that is empty or has a colon itself. -/
lemma isPlain_of_mem_parts {s name : String} (h : name ∈ (text s).parts) :
    (text name).isPlain = true :=
  isPlain_text_iff.2 (mem_colonParts h)

/-- The labels are the same exactly if they are not a text that is empty or has colons. -/
theorem ofList_parts_eq_iff (form : LabelForm) :
    NameSet.ofList form.parts = .ofList form.names ↔ form.isPlain = true := by
  refine ⟨fun h => ?_, fun h => by rw [parts_eq_names h]⟩
  by_contra hplain
  obtain ⟨s, rfl⟩ := exists_text_of_isPlain_eq_false (Bool.eq_false_iff.2 hplain)
  have hs : s ∈ NameSet.ofList (text s).parts := by
    rw [h, NameSet.mem_ofList]
    exact List.mem_singleton_self s
  exact hplain (isPlain_of_mem_parts (NameSet.mem_ofList.1 hs))

/-- Where the parts are the single label `s`, which is empty or has a colon, `s` was no text. -/
lemma ofList_names_eq_of_parts_eq {form : LabelForm} {s : String}
    (hs : (text s).isPlain = false) (h : NameSet.ofList form.parts = .ofList [s]) :
    NameSet.ofList form.names = .ofList [s] := by
  rw [← h]
  refine ((ofList_parts_eq_iff form).2 ?_).symm
  by_contra hplain
  obtain ⟨t, rfl⟩ := exists_text_of_isPlain_eq_false (Bool.eq_false_iff.2 hplain)
  have hmem : s ∈ NameSet.ofList (text t).parts := by
    rw [h, NameSet.mem_ofList]
    exact List.mem_singleton_self s
  rw [isPlain_of_mem_parts (NameSet.mem_ofList.1 hmem)] at hs
  cases hs

end LabelForm

/-! ### Both readings -/

/-- As an attribute, labels are read in parts. -/
lemma parseLabels_value? (form : LabelForm) :
    parseLabels (form.value?.getD .null) = .ok form.parts := by
  cases form with
  | absent | null | text => rfl
  | list names | tuple names | set names => exact parseLabels_list names

/-- As a field, labels are read whole. -/
lemma Fields.optional_labels {fields : Fields} {form : LabelForm}
    (h : fields.get? "labels" = form.value?) :
    fields.optional "labels" .empty readLabels = .ok (.ofList form.names) := by
  have hlisted {v : Value} {names : List String} (hv : v.listed? = some (names.map .text)) :
      readLabels v = .ok (.ofList names) :=
    NameSet.ListedIn.readLabels_eq_ok ⟨names, hv, fun _ => NameSet.mem_ofList.symm⟩
  rw [optional, h]
  cases form with
  | absent | null | text => rfl
  | list names | tuple names | set names => exact Checked.under_eq_ok_iff.2 (hlisted rfl)

/-! ### Vertices and nodes -/

/-- A vertex has labels in some form. -/
def Vertex.LabelledBy (v : Vertex) (form : LabelForm) : Prop :=
  v.attributes.find? (.text labelsKey) = form.value?

/-- The fields are those of a vertex: its name, and its attributes with the labels apart. -/
structure Fields.RestatesVertex (fields : Fields) (v : Vertex) : Prop where
  id : fields.ident? "id" = some (.ofForeign v.name)
  labels : fields.get? "labels" = v.attributes.find? (.text labelsKey)
  properties : (fields.get? "properties").getD (.map []) =
    .map (v.attributes.erase (.text labelsKey)).entries

/-- A node whose labels have some form. -/
structure NodeForm where
  id : Ident
  form : LabelForm
  properties : Properties

/-- The node as it is read from a vertex. -/
def NodeForm.inParts (x : NodeForm) : Node := ⟨x.id, .ofList x.form.parts, x.properties⟩

/-- The node as it is read from fields. -/
def NodeForm.whole (x : NodeForm) : Node := ⟨x.id, .ofList x.form.names, x.properties⟩

lemma NodeForm.inParts_eq_whole {x : NodeForm} (h : x.form.isPlain = true) :
    x.inParts = x.whole := by
  rw [inParts, whole, LabelForm.parts_eq_names h]

/-- Absent properties are none. -/
lemma Fields.optional_properties_eq_ok_iff {fields : Fields} {ps : Properties} :
    fields.optional "properties" .empty readProperties = .ok ps ↔
      readProperties ((fields.get? "properties").getD (.map [])) = .ok ps := by
  rw [optional]
  cases fields.get? "properties" with
  | none => exact Iff.rfl
  | some v => exact Checked.under_eq_ok_iff

section Reading

variable {v : Vertex} {fields : Fields} {form : LabelForm}

lemma Vertex.LabelledBy.readVertex_eq_ok_iff (h : v.LabelledBy form) {n : Node} :
    readVertex v = .ok n ↔
    v.name.canIdentify = true ∧
      ∃ ps, readProperties (.map (v.attributes.erase (.text labelsKey)).entries) = .ok ps ∧
        NodeForm.inParts ⟨.ofForeign v.name, form, ps⟩ = n := by
  have hlabels : parseLabels ((v.attributes.find? (.text labelsKey)).getD .null) =
      .ok form.parts := by
    rw [show v.attributes.find? (.text labelsKey) = form.value? from h, parseLabels_value?]
  simp only [Network.readVertex_eq_ok_iff, hlabels, Except.ok.injEq, exists_eq_left',
    Node.ofParts?_eq_ok_iff]
  rfl

lemma nodeOfFields_eq_ok_iff (h : v.LabelledBy form) (hv : fields.RestatesVertex v) {m : Node} :
    Node.ofFields fields = .ok m ↔
      ∃ ps, readProperties (.map (v.attributes.erase (.text labelsKey)).entries) = .ok ps ∧
        NodeForm.whole ⟨.ofForeign v.name, form, ps⟩ = m := by
  have hid : fields.required "id" Ident.read = .ok (.ofForeign v.name) :=
    Fields.required_eq_ok_iff_ident?.2 hv.id
  have hlabels := Fields.optional_labels (hv.labels.trans h)
  rw [Node.ofFields_eq, Checked.map_eq_ok_iff]
  simp only [Prod.exists, Checked.both_eq_ok_iff, hid, hlabels, Except.ok.injEq,
    Fields.optional_properties_eq_ok_iff, hv.properties]
  constructor
  · rintro ⟨_, _, ps, ⟨rfl, rfl, hps⟩, rfl⟩
    exact ⟨ps, hps, rfl⟩
  · rintro ⟨ps, hps, rfl⟩
    exact ⟨_, _, ps, ⟨rfl, rfl, hps⟩, rfl⟩

/-- A vertex and its fields are read as one node, but for the labels. -/
lemma exists_nodeForm (h : v.LabelledBy form) (hv : fields.RestatesVertex v) {n m : Node}
    (hn : readVertex v = .ok n) (hm : Node.ofFields fields = .ok m) :
    ∃ x : NodeForm, x.form = form ∧ x.inParts = n ∧ x.whole = m := by
  obtain ⟨-, ps, hps, rfl⟩ := h.readVertex_eq_ok_iff.1 hn
  obtain ⟨ps', hps', rfl⟩ := (nodeOfFields_eq_ok_iff h hv).1 hm
  obtain rfl := Except.ok.inj (hps.symm.trans hps')
  exact ⟨⟨_, form, ps⟩, rfl, rfl, rfl⟩

end Reading

end PropertyGraph
