/-
# Which payloads are accepted

Since no reading gets in the way of another, a map is read as a graph exactly if each of its
elements is in order and they fit together, and what is reported otherwise is every fault of every
field, in order (`Snapshot.ofFields_outcome`).

This is said of maps of data, as all values are here.  What the conditions come to in plain terms is
said next to them (`Value.isLabels_iff`, `Value.areElements_iff`).
-/
import Mathlib.Data.Option.Basic
import PropertyGraph.Proofs.Payload.Fields
import PropertyGraph.Proofs.Snapshot.Integrity
import PropertyGraph.Proofs.Writing

namespace PropertyGraph

open Checked

/-! ### Elements -/

lemma Node.ofFields_eq (fields : Fields) : Node.ofFields fields =
    (both (fields.required "id" Ident.read) <|
      both (fields.optional "labels" .empty readLabels)
        (fields.optional "properties" .empty readProperties)).map
      fun (id, labels, properties) => { id, labels, properties } := rfl

lemma Relationship.ofFields_eq (fields : Fields) : Relationship.ofFields fields =
    (both (fields.required "id" Ident.read) <|
      both (fields.required "type" readType) <|
      both (fields.required "start" Ident.read) <|
      both (fields.required "end" Ident.read)
        (fields.optional "properties" .empty readProperties)).map
      fun (id, type, source, target, properties) => .ofType id type source target properties := rfl

lemma passes_nodeOfFields_iff (fields : Fields) :
    (Node.ofFields fields).Passes ↔ fields.IsNode Value.members? := by
  rw [Node.ofFields_eq, passes_map_iff, passes_both_iff, passes_both_iff,
    Fields.passes_required_iff passes_identRead_iff,
    Fields.passes_optional_iff passes_readLabels_iff,
    Fields.passes_optional_iff passes_readProperties_iff]
  constructor
  · rintro ⟨id, labels, properties⟩
    exact ⟨id, labels, properties⟩
  · rintro ⟨id, labels, properties⟩
    exact ⟨id, labels, properties⟩

lemma faults_nodeOfFields (fields : Fields) :
    (Node.ofFields fields).faults = nodeFaults fields := by
  rw [Node.ofFields_eq, faults_map, faults_both, faults_both,
    Fields.faults_required faults_identRead, Fields.faults_optional faults_readLabels,
    Fields.faults_optional faults_readProperties, nodeFaults, List.append_assoc]

lemma passes_relationshipOfFields_iff (fields : Fields) :
    (Relationship.ofFields fields).Passes ↔ fields.IsRelationship := by
  simp only [Relationship.ofFields_eq, passes_map_iff, passes_both_iff,
    Fields.passes_required_iff passes_identRead_iff, Fields.passes_required_iff passes_readType_iff,
    Fields.passes_optional_iff passes_readProperties_iff]
  constructor
  · rintro ⟨id, type, source, target, properties⟩
    exact ⟨id, type, source, target, properties⟩
  · rintro ⟨id, type, source, target, properties⟩
    exact ⟨id, type, source, target, properties⟩

lemma faults_relationshipOfFields (fields : Fields) :
    (Relationship.ofFields fields).faults = relationshipFaults fields := by
  simp only [Relationship.ofFields_eq, faults_map, faults_both,
    Fields.faults_required faults_identRead, Fields.faults_required faults_readType,
    Fields.faults_optional faults_readProperties, relationshipFaults, List.append_assoc]

section Elements

variable {α : Type} {of : Subject} {read : Fields → Checked α}

/-- A member is read as an element if it is a map. -/
private def readElement (of : Subject) (read : Fields → Checked α) : Value → Checked α
  | .map fields => read fields
  | _ => fault (.notElement of)

lemma readElements_eq (v : Value) : readElements of read v = match v.members? with
    | some items => Checked.members (readElement of read) items
    | none => fault .notSequence := rfl

lemma passes_readElements_iff {P : Fields → Prop} (h : ∀ fields, (read fields).Passes ↔ P fields)
    (v : Value) : (readElements of read v).Passes ↔ v.AreElements Value.members? P := by
  have hread : ∀ x, (readElement of read x).Passes ↔ ∃ fields, x = .map fields ∧ P fields := by
    intro x
    cases x <;> simp [readElement, h]
  rw [readElements_eq, Value.AreElements]
  cases v.members? with
  | none => simp
  | some items => simp [passes_members_iff, hread]

lemma faults_readElements {fs : Fields → List FieldFault}
    (h : ∀ fields, (read fields).faults = fs fields) (v : Value) :
    (readElements of read v).faults = elementsFaults of fs v := by
  have hread : ∀ x, (readElement of read x).faults = elementFaults of fs x := by
    intro x
    cases x <;> simp [readElement, elementFaults, h]
  rw [readElements_eq, elementsFaults]
  cases v.members? with
  | none => rfl
  | some items => simp [faults_members, memberFaults, hread]

lemma forall_mem_iff_of_forall₂ {β γ : Type} {R : β → γ → Prop} {P : β → Prop} {Q : γ → Prop}
    {xs : List β} {ys : List γ} (h : List.Forall₂ R xs ys) (hR : ∀ x y, R x y → (P x ↔ Q y)) :
    (∀ x ∈ xs, P x) ↔ ∀ y ∈ ys, Q y := by
  induction h with
  | nil => simp
  | cons hxy _ ih => rw [List.forall_mem_cons, List.forall_mem_cons, hR _ _ hxy, ih]

lemma exists_left_of_forall₂ {β γ : Type} {R : β → γ → Prop} {xs : List β} {ys : List γ}
    (h : List.Forall₂ R xs ys) {y : γ} (hy : y ∈ ys) : ∃ x ∈ xs, R x y := by
  induction h with
  | nil => simp at hy
  | cons hxy _ ih =>
    rcases List.mem_cons.1 hy with rfl | hy
    · exact ⟨_, List.mem_cons_self, hxy⟩
    · obtain ⟨x, hx, hR⟩ := ih hy
      exact ⟨x, List.mem_cons_of_mem _ hx, hR⟩

/-- Maps that are read as elements are read as the collection of these. -/
lemma readElements_eq_ok {v : Value} {items : List Value} {as : List α}
    (hv : v.members? = some items)
    (h : List.Forall₂ (fun x a => ∃ fields, x = .map fields ∧ read fields = .ok a) items as) :
    readElements of read v = .ok as := by
  rw [readElements_eq, hv]
  refine members_eq_ok_iff.2 (h.imp ?_)
  rintro _ a ⟨fields, rfl, hread⟩
  exact hread

/-- The elements that are read are those of the maps that are listed. -/
lemma forall₂_elements {fields : Fields} {name : String} {as : List α}
    (h : fields.optional name [] (readElements of read) = .ok as) :
    List.Forall₂ (fun e a => read e = .ok a) (fields.elements Value.members? name) as := by
  rw [Fields.optional] at h
  rw [Fields.elements]
  cases hv : fields.get? name with
  | none =>
    rw [hv] at h
    obtain rfl := Except.ok.inj h
    exact .nil
  | some v =>
    rw [hv] at h
    simp only [under_eq_ok_iff, readElements_eq] at h
    cases hitems : v.members? with
    | none => simp [hitems, fault] at h
    | some items =>
      simp only [hitems, members_eq_ok_iff] at h
      simp only [Option.bind_some, hitems, Option.getD_some]
      clear hitems
      induction h with
      | nil => exact .nil
      | @cons x a items as hx _ ih =>
        cases x with
        | map e => exact .cons hx ih
        | _ => simp [readElement, fault] at hx

end Elements

/-! ### Graphs -/

lemma Fields.required_eq_ok_iff_ident? {fields : Fields} {name : String} {i : Ident} :
    fields.required name Ident.read = .ok i ↔ fields.ident? name = some i := by
  rw [required, under_eq_ok_iff, ident?]
  cases fields.get? name with
  | none => simp [fault]
  | some v => cases hread : Ident.read v <;> simp [Except.toOption, hread]

lemma ident?_of_nodeOfFields {fields : Fields} {n : Node} (h : Node.ofFields fields = .ok n) :
    fields.ident? "id" = some n.id := by
  rw [Node.ofFields_eq] at h
  obtain ⟨⟨id, labels, properties⟩, hread, rfl⟩ := map_eq_ok_iff.1 h
  exact Fields.required_eq_ok_iff_ident?.1 (both_eq_ok_iff.1 hread).1

lemma ident?_of_relationshipOfFields {fields : Fields} {r : Relationship}
    (h : Relationship.ofFields fields = .ok r) :
    fields.ident? "id" = some r.id ∧ fields.ident? "start" = some r.source ∧
      fields.ident? "end" = some r.target := by
  rw [Relationship.ofFields_eq] at h
  obtain ⟨⟨id, type, source, target, properties⟩, hread, rfl⟩ := map_eq_ok_iff.1 h
  simp only [both_eq_ok_iff] at hread
  obtain ⟨hid, -, hsource, htarget, -⟩ := hread
  exact ⟨Fields.required_eq_ok_iff_ident?.1 hid, Fields.required_eq_ok_iff_ident?.1 hsource,
    Fields.required_eq_ok_iff_ident?.1 htarget⟩

/-- The elements of a payload, each in order on its own. -/
def readParts (fields : Fields) : Checked (List Node × List Relationship) :=
  both (fields.optional "nodes" [] (readElements .node Node.ofFields))
    (fields.optional "relationships" [] (readElements .relationship Relationship.ofFields))

lemma passes_readParts_iff (fields : Fields) :
    (readParts fields).Passes ↔ fields.IsPayload Value.members? := by
  rw [readParts, passes_both_iff,
    Fields.passes_optional_iff (passes_readElements_iff passes_nodeOfFields_iff),
    Fields.passes_optional_iff (passes_readElements_iff passes_relationshipOfFields_iff)]
  exact ⟨fun ⟨nodes, relationships⟩ => ⟨nodes, relationships⟩,
    fun ⟨nodes, relationships⟩ => ⟨nodes, relationships⟩⟩

lemma faults_readParts (fields : Fields) : (readParts fields).faults = payloadFaults fields := by
  rw [readParts, faults_both, Fields.faults_optional (faults_readElements faults_nodeOfFields),
    Fields.faults_optional (faults_readElements faults_relationshipOfFields), payloadFaults]

section Parts

variable {fields : Fields} {nodes : List Node} {relationships : List Relationship}

lemma nodeIds_of_readParts (h : readParts fields = .ok (nodes, relationships)) :
    fields.nodeIds Value.members? = (nodes.map Node.id).map some := by
  have hnodes := forall₂_elements (both_eq_ok_iff.1 h).1
  rw [Fields.nodeIds, List.map_map, map_eq_map_iff_forall₂]
  exact hnodes.imp fun _ _ => ident?_of_nodeOfFields

lemma relationshipIds_of_readParts (h : readParts fields = .ok (nodes, relationships)) :
    fields.relationshipIds Value.members? = (relationships.map Relationship.id).map some := by
  have hrels := forall₂_elements (both_eq_ok_iff.1 h).2
  rw [Fields.relationshipIds, List.map_map, map_eq_map_iff_forall₂]
  exact hrels.imp fun _ _ he => (ident?_of_relationshipOfFields he).1

/-- The elements fit together exactly if their fields say so. -/
lemma fitTogether_iff (h : readParts fields = .ok (nodes, relationships)) :
    fields.FitTogether Value.members? ↔ Consistent nodes relationships := by
  have hnodes := nodeIds_of_readParts h
  have hids := relationshipIds_of_readParts h
  have hrels := forall₂_elements (both_eq_ok_iff.1 h).2
  have hsome := Option.some_injective Ident
  have hends : (∀ r ∈ fields.elements Value.members? "relationships",
      r.ident? "start" ∈ fields.nodeIds Value.members? ∧
        r.ident? "end" ∈ fields.nodeIds Value.members?) ↔
      ∀ r ∈ relationships, r.source ∈ nodes.map Node.id ∧ r.target ∈ nodes.map Node.id := by
    refine forall_mem_iff_of_forall₂ hrels fun e r he => ?_
    obtain ⟨-, hsource, htarget⟩ := ident?_of_relationshipOfFields he
    rw [hsource, htarget, hnodes, List.mem_map_of_injective hsome, List.mem_map_of_injective hsome]
  constructor
  · intro hfit
    exact ⟨(List.nodup_map_iff hsome).1 (hnodes ▸ hfit.nodeIds),
      (List.nodup_map_iff hsome).1 (hids ▸ hfit.relationshipIds), hends.1 hfit.endpoints⟩
  · intro hfit
    exact ⟨hnodes ▸ (List.nodup_map_iff hsome).2 hfit.nodeIds,
      hids ▸ (List.nodup_map_iff hsome).2 hfit.relationshipIds, hends.2 hfit.endpoints⟩

/-- A fault of the elements is one that their fields show. -/
lemma hasFault_of_isIn (h : readParts fields = .ok (nodes, relationships)) {fault : IntegrityFault}
    (hfault : fault.IsIn nodes relationships) : fields.HasFault Value.members? fault := by
  have hnodes := nodeIds_of_readParts h
  cases fault with
  | duplicateNode id =>
    rw [Fields.HasFault, hnodes, List.duplicate_iff_sublist]
    exact (List.duplicate_iff_sublist.1 hfault).map some
  | duplicateRelationship id =>
    rw [Fields.HasFault, relationshipIds_of_readParts h, List.duplicate_iff_sublist]
    exact (List.duplicate_iff_sublist.1 hfault).map some
  | unknownNode id node =>
    obtain ⟨r, hr, rfl, hend, hnode⟩ := hfault
    have hrels := forall₂_elements (both_eq_ok_iff.1 h).2
    obtain ⟨e, he, hread⟩ := exists_left_of_forall₂ hrels hr
    obtain ⟨hid, hsource, htarget⟩ := ident?_of_relationshipOfFields hread
    refine ⟨e, he, hid, ?_, ?_⟩
    · rcases hend with rfl | rfl
      · exact .inl hsource
      · exact .inr htarget
    · rw [hnodes, List.mem_map_of_injective (Option.some_injective Ident)]
      exact hnode

end Parts

lemma Snapshot.ofFields_eq (fields : Fields) : Snapshot.ofFields fields =
    (readParts fields).bind fun (nodes, relationships) =>
      match Snapshot.ofElements? nodes relationships with
      | .ok g => .ok g
      | .error fault => Checked.fault (.ofIntegrity fault) := rfl

/-- The elements of a graph are read as this graph. -/
lemma Snapshot.ofFields_eq_ok {fields : Fields} {g : Snapshot}
    (h : readParts fields = .ok (g.nodes, g.relationships)) : Snapshot.ofFields fields = .ok g := by
  have helements : Snapshot.ofElements? g.nodes g.relationships = .ok g :=
    Snapshot.ofElements?_eq_ok_iff.2 ⟨rfl, rfl⟩
  rw [Snapshot.ofFields_eq, h]
  simp only [Except.bind, helements]

/-- A map is read as a graph exactly if each element is in order and the elements fit together.
Otherwise all faults of all fields are reported in order, and only where there is none, a single
one that the elements have together. -/
theorem Snapshot.ofFields_outcome (fields : Fields) :
    ((∃ g, Snapshot.ofFields fields = .ok g) ↔
      fields.IsPayload Value.members? ∧ fields.FitTogether Value.members?) ∧
    (¬fields.IsPayload Value.members? →
      Snapshot.ofFields fields = .error (payloadFaults fields)) ∧
    (fields.IsPayload Value.members? → ¬fields.FitTogether Value.members? →
      ∃ fault cause, fields.HasFault Value.members? fault ∧
        (fault.IsWritable → cause = .integrity fault) ∧
        (¬fault.IsWritable → cause = .unwritable .tooManyDigits) ∧
        Snapshot.ofFields fields = .error [⟨[], cause⟩]) := by
  rw [Snapshot.ofFields_eq, ← passes_readParts_iff, ← faults_readParts]
  cases hparts : readParts fields with
  | error fs => simp [Except.bind]
  | ok parts =>
    obtain ⟨nodes, relationships⟩ := parts
    rw [fitTogether_iff hparts]
    cases hg : Snapshot.ofElements? nodes relationships with
    | ok g =>
      obtain ⟨rfl, rfl⟩ := Snapshot.ofElements?_eq_ok_iff.1 hg
      simp [Except.bind, hg, g.consistent]
    | error fault =>
      have hfault := Snapshot.ofElements?_eq_error_iff.1 hg
      have hfit : ¬Consistent nodes relationships := by
        rw [← firstFault?_eq_none_iff, hfault]
        simp
      have hhas := hasFault_of_isIn hparts (isIn_of_firstFault? hfault)
      refine ⟨?_, ?_, fun _ _ => ⟨fault, .ofIntegrity fault, hhas,
        FaultCause.ofIntegrity_of_isWritable, FaultCause.ofIntegrity_of_not_isWritable, ?_⟩⟩
      · simp [Except.bind, hg, hfit, Checked.fault]
      · simp
      · simp [Except.bind, hg, Checked.fault]

/-- A node whose labels come as an array. -/
def labelArrayPayload : Fields :=
  [(.text "nodes", .list [.map [
    (.text "id", .int 1),
    (.text "labels", .array .text 1 [1] [.text "A"])]])]

/-- Lists, tuples and sets are not all that is taken for a collection. -/
theorem labelArrayPayload_accepted :
    (∃ g, Snapshot.ofFields labelArrayPayload = .ok g) ∧
      ¬labelArrayPayload.IsPayload Value.listed? := by
  refine ⟨⟨_, rfl⟩, fun h => ?_⟩
  obtain ⟨items, hitems, hnode⟩ := h.nodes _ rfl
  obtain rfl := Option.some.inj hitems
  obtain ⟨fields, hfields, hnode⟩ := hnode _ List.mem_cons_self
  obtain rfl := Value.map.inj hfields
  rcases hnode.labels _ rfl with hnull | ⟨s, hs⟩ | ⟨items, hitems, -⟩
  · simp at hnull
  · simp [Value.asText?] at hs
  · simp [Value.listed?] at hitems

end PropertyGraph
