/-
# Reading the elements of a draft

However an element of a draft is written, it is read back as the element to be read
(`NodeDraft.ofFields_fields`, `NodeDraft.readVertex_eq`, `RelationshipDraft.readEdge_eq`), with its
labels from a list or from between colons (`colonParts_intercalate`).  A plain map gives the graph
of the draft as it is (`Draft.ofFields_payload`).
-/
import PropertyGraph.Proofs.Draft.Basic
import PropertyGraph.Proofs.Label.Colons
import PropertyGraph.Proofs.Network.RoundTrip
import PropertyGraph.Proofs.Payload.Acceptance

namespace PropertyGraph

/-! ### Properties -/

/-- Given properties are read as they are stored. -/
lemma readProperties_given (es : List (String × GivenProperty)) :
    readProperties (.map (es.map fun e => (.text e.1, e.2.value))) =
      .ok (.ofList (es.map fun e => (e.1, e.2.property))) :=
  readProperties_map_eq_ok fun e _ => ⟨rfl, e.2.stored⟩

namespace PropertyDraft

variable (ps : PropertyDraft)

lemma readProperties_pairs : readProperties (.map ps.pairs) = .ok ps.properties := by
  rw [pairs, readProperties_given]
  exact congrArg Except.ok (OrderedMap.ext_entries
    (OrderedMap.entries_ofList_of_pairwise ps.properties.distinct))

lemma notMem_keys {k : String} (hk : k ∈ structuralNames) : k ∉ ps.given.keys :=
  fun h => ps.free k h hk

/-- The attributes of an element are distinct: no property has the name of its own one. -/
lemma entries_cons_pairs {k : String} (hk : k ∈ structuralNames) (v : Value) :
    (OrderedMap.ofList ((.text k, v) :: ps.pairs)).entries = (.text k, v) :: ps.pairs := by
  refine OrderedMap.entries_ofList_of_pairwise ?_
  rw [List.pairwise_cons, pairs, List.forall_mem_map, List.pairwise_map]
  refine ⟨fun e he => ?_, ps.given.distinct⟩
  have hne : k ≠ e.1 := fun heq => ps.notMem_keys hk (heq ▸ List.mem_map_of_mem he)
  rw [Value.text_beq]
  exact beq_eq_false_iff_ne.2 hne

lemma find?_cons_pairs {k : String} (hk : k ∈ structuralNames) (v : Value) :
    (OrderedMap.ofList ((.text k, v) :: ps.pairs)).find? (.text k) = some v := by
  rw [OrderedMap.find?, ps.entries_cons_pairs hk, List.find?_cons_of_pos]
  · rfl
  · exact beq_self_eq_true k

lemma erase_cons_pairs {k : String} (hk : k ∈ structuralNames) (v : Value) :
    ((OrderedMap.ofList ((.text k, v) :: ps.pairs)).erase (.text k)).entries = ps.pairs := by
  rw [OrderedMap.entries_erase, ps.entries_cons_pairs hk, List.filter_cons_of_neg,
    List.filter_eq_self, pairs, List.forall_mem_map]
  · intro e he
    have hne : e.1 ≠ k := fun heq => ps.notMem_keys hk (heq ▸ List.mem_map_of_mem he)
    simp [Value.text_beq, hne]
  · simp [Value.text_beq]

end PropertyDraft

/-! ### Labels -/

namespace NodeDraft

variable (n : NodeDraft)

lemma plain_names : ∀ s ∈ n.names, s ≠ "" ∧ ':' ∉ s.toList := by
  rw [names, List.forall_mem_map]
  exact fun l _ => l.2

lemma parseLabels_labelList : parseLabels n.labelList = .ok n.names := parseLabels_list n.names

lemma parseLabels_labelCell (joined : NodeDraft → Bool) :
    parseLabels (n.labelCell joined) = .ok n.names := by
  rw [labelCell]
  split
  · exact congrArg Except.ok (colonParts_intercalate n.plain_names)
  · exact n.parseLabels_labelList

lemma ofParts?_eq {es : List (String × GivenProperty)} :
    Node.ofParts? n.id n.names (es.map fun e => (.text e.1, e.2.value)) =
      .ok ⟨n.id, .ofList n.names, .ofList (es.map fun e => (e.1, e.2.property))⟩ := by
  rw [Node.ofParts?, readProperties_given]
  rfl

/-- A node in draft is read from its map. -/
lemma ofFields_fields : Node.ofFields n.fields = .ok n.node := by
  have hid : n.fields.required "id" Ident.read = .ok n.id := by
    rw [Fields.required, Checked.under_eq_ok_iff]
    exact n.id.read_toValue
  have hlabels : n.fields.optional "labels" .empty readLabels = .ok (.ofList n.names) := by
    refine Checked.under_eq_ok_iff.2 ?_
    exact Checked.map_eq_ok_iff.2 ⟨_, members_readText n.names, rfl⟩
  have hproperties : n.fields.optional "properties" .empty readProperties =
      .ok n.properties.properties :=
    Checked.under_eq_ok_iff.2 n.properties.readProperties_pairs
  rw [Node.ofFields_eq, hid, hlabels, hproperties]
  rfl

/-- A node in draft is read from its attributes. -/
lemma readVertex_eq {slot : Nat} :
    Network.readVertex ⟨slot, n.id.toValue, .ofList n.attributes⟩ = .ok n.node := by
  have hfind := n.properties.find?_cons_pairs (k := "labels") (by decide) n.labelList
  have herase := n.properties.erase_cons_pairs (k := "labels") (by decide) n.labelList
  rw [Network.readVertex, Network.labelsKey, attributes, hfind, herase, Option.getD_some,
    n.parseLabels_labelList]
  simp only [Ident.ofForeign?_toValue]
  show Node.ofParts? n.id n.names n.properties.pairs = .ok n.node
  rw [Node.ofParts?, n.properties.readProperties_pairs]
  rfl

end NodeDraft

namespace RelationshipDraft

variable (r : RelationshipDraft)

lemma ofParts?_eq (id : Ident) (es : List (String × GivenProperty)) :
    Relationship.ofParts? id r.type r.source r.target (es.map fun e => (.text e.1, e.2.value)) =
      .ok (.ofType id r.type r.source r.target
        (.ofList (es.map fun e => (e.1, e.2.property)))) := by
  rw [Relationship.ofParts?, readProperties_given, readType_text r.type.2]
  rfl

/-- A relationship in draft is read from its map. -/
lemma ofFields_fields : Relationship.ofFields r.fields = .ok r.relationship := by
  have hid : r.fields.required "id" Ident.read = .ok r.id :=
    Checked.under_eq_ok_iff.2 r.id.read_toValue
  have htype : r.fields.required "type" readType = .ok r.type :=
    Checked.under_eq_ok_iff.2 (readType_text r.type.2)
  have hsource : r.fields.required "start" Ident.read = .ok r.source :=
    Checked.under_eq_ok_iff.2 r.source.read_toValue
  have htarget : r.fields.required "end" Ident.read = .ok r.target :=
    Checked.under_eq_ok_iff.2 r.target.read_toValue
  have hproperties : r.fields.optional "properties" .empty readProperties =
      .ok r.properties.properties :=
    Checked.under_eq_ok_iff.2 r.properties.readProperties_pairs
  rw [Relationship.ofFields_eq, hid, htype, hsource, htarget, hproperties]
  rfl

/-- A relationship in draft is read from its attributes, identified by its position. -/
lemma readEdge_eq (key : Value) (position : Nat) :
    Network.readEdge ⟨r.source.toValue, r.target.toValue, key, .ofList r.attributes⟩ position =
      .ok (r.relationship.withId (.int position)) := by
  have hfind := r.properties.find?_cons_pairs (k := "type") (by decide) (.text r.type)
  have herase := r.properties.erase_cons_pairs (k := "type") (by decide) (.text r.type)
  have htruth : (Value.text r.type).truth? = some true := by
    simp [Value.truth?, Value.isTruthyPlain, r.type.2]
  simp only [Network.readEdge, Network.typeKey, attributes, hfind, herase, Option.getD_some, htruth,
    Value.foreignText?_text, Ident.ofForeign?_toValue]
  show Relationship.ofParts? (.int position) r.type r.source r.target r.properties.pairs = _
  rw [Relationship.ofParts?, readType_text r.type.2, r.properties.readProperties_pairs]
  rfl

end RelationshipDraft

/-! ### Plain maps -/

/-- Elements that can be read from their maps are read from the list of these. -/
lemma readElements_map {α β : Type} {of : Subject} {read : Fields → Checked β} {fields : α → Fields}
    {b : α → β} (h : ∀ a, read (fields a) = .ok (b a)) (as : List α) :
    readElements of read (.list (as.map fun a => .map (fields a))) = .ok (as.map b) := by
  refine readElements_eq_ok rfl ?_
  rw [List.forall₂_map_left_iff, List.forall₂_map_right_iff, List.forall₂_same]
  exact fun a _ => ⟨_, rfl, h a⟩

/-- A plain map gives the graph of the draft. -/
theorem Draft.ofFields_payload (d : Draft) : Snapshot.ofFields d.payload = .ok d.graph := by
  have hnodes : d.payload.optional "nodes" [] (readElements .node Node.ofFields) =
      .ok d.graph.nodes :=
    Checked.under_eq_ok_iff.2 (readElements_map NodeDraft.ofFields_fields d.nodes)
  have hrels : d.payload.optional "relationships" []
      (readElements .relationship Relationship.ofFields) = .ok d.graph.relationships :=
    Checked.under_eq_ok_iff.2 (readElements_map RelationshipDraft.ofFields_fields d.relationships)
  exact Snapshot.ofFields_eq_ok (Checked.both_eq_ok_iff.2 ⟨hnodes, hrels⟩)

end PropertyGraph
