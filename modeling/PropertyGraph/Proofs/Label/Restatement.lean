/-
# A network restated as a payload

A map restates a network when it gives the same attributes as fields (`Fields.Restates`).  If the
labels have a form that both can have, the two are read as the same graph but for the labels that
are a text: such a text is split at its colons in the network only.  So the graphs pass for the same
exactly if no text of labels is empty or has colons (`labels_readAlike_iff`).  A single other text
cannot be made up for by the labels of other nodes: as a label of its own it occurs more often in
the map than in the network.
-/
import PropertyGraph.Proofs.Comparison.MutualSubgraphs
import PropertyGraph.Proofs.Draft.Alike
import PropertyGraph.Proofs.Label.Forms

namespace PropertyGraph

open Network (Edge labelsKey typeKey readVertex readEdge readEdge_eq_ok_iff result_readSnapshot
  toSnapshot?_eq_ok_iff)

/-! ### Counting labels -/

section Counting

variable {actual expected : Snapshot}

/-- In graphs that pass for the same, each set of labels occurs as often. -/
lemma countP_labels_eq_of_isSameGraph {arrangement : Arrangement} {settings : Settings}
    (h : (isSameGraphArranged arrangement actual expected settings).run.result = .ok true)
    (labels : NameSet) :
    actual.nodes.countP (fun n => n.labels = labels) =
      expected.nodes.countP fun n => n.labels = labels := by
  obtain ⟨m, hm⟩ := (verdict_eq_ok_true_iff _).1 h
  obtain ⟨hcounts, hfirst⟩ := assertSameGraph_eq_ok_iff.1 hm
  exact (isEmbedding_of_firstEmbedding? hfirst).countP_nodes_eq
    (Nat.le_of_eq (congrArg Counts.nodes hcounts))
    fun a b hab => by rw [Node.labels_eq_of_equivalent hab]

/-- Where one test passes no more than another one, it passes the same if it passes as many. -/
lemma forall_of_countP_eq {α : Type} {p q : α → Bool} {xs : List α}
    (himp : ∀ x, p x = true → q x = true) (h : xs.countP p = xs.countP q) :
    ∀ x ∈ xs, q x = true → p x = true := by
  have hsub : (xs.filter p).Sublist (xs.filter q) := List.monotone_filter_right xs himp
  have heq : xs.filter p = xs.filter q := by
    refine hsub.eq_of_length ?_
    rwa [← List.countP_eq_length_filter, ← List.countP_eq_length_filter]
  intro x hx hq
  have hmem : x ∈ xs.filter p := heq ▸ List.mem_filter.2 ⟨hx, hq⟩
  exact (List.mem_filter.1 hmem).2

/-- Labels in parts are those of the whole if each set of labels occurs as often. -/
lemma NodeForm.isPlain_of_countP_eq {xs : List NodeForm}
    (h : ∀ labels, (xs.map inParts).countP (fun n => n.labels = labels) =
      (xs.map whole).countP fun n => n.labels = labels) :
    ∀ x ∈ xs, x.form.isPlain = true := by
  intro x hx
  by_contra hplain
  have hfalse := Bool.eq_false_iff.2 hplain
  obtain ⟨s, hs⟩ := LabelForm.exists_text_of_isPlain_eq_false hfalse
  rw [hs] at hfalse
  -- where the parts are the text alone, so is the whole, and here only the whole is
  have hcount := h (.ofList [s])
  rw [List.countP_map, List.countP_map] at hcount
  have hparts := forall_of_countP_eq (fun y hy => ?_) hcount x hx ?_
  · have hlabels : NameSet.ofList x.form.parts = .ofList [s] := of_decide_eq_true hparts
    refine hplain ((LabelForm.ofList_parts_eq_iff x.form).1 ?_)
    rw [hlabels, hs]
    rfl
  · exact decide_eq_true (LabelForm.ofList_names_eq_of_parts_eq hfalse (of_decide_eq_true hy))
  · exact decide_eq_true (by rw [whole, hs]; rfl)

end Counting

/-! ### Networks and payloads -/

/-- The fields are those of an edge, whose type is a text. -/
structure Fields.RestatesEdge (fields : Fields) (e : Edge) : Prop where
  type : ∃ t, e.attributes.find? (.text typeKey) = some (.text t) ∧
    fields.get? "type" = some (.text t)
  source : fields.ident? "start" = some (.ofForeign e.source)
  target : fields.ident? "end" = some (.ofForeign e.target)
  properties : (fields.get? "properties").getD (.map []) =
    .map (e.attributes.erase (.text typeKey)).entries

/-- The fields are those of a network: its vertices and edges, in whatever order. -/
structure Fields.Restates (fields : Fields) (g : Network) : Prop where
  vertices : ∃ es : List Fields, es.Perm (fields.elements Value.members? "nodes") ∧
    List.Forall₂ RestatesVertex es g.vertices
  edges : ∃ es : List Fields, es.Perm (fields.elements Value.members? "relationships") ∧
    List.Forall₂ RestatesEdge es g.edges

/-- An edge and its fields are read as relationships that tell the same. -/
lemma description_eq_of_restatesEdge {fields : Fields} {e : Edge} {position : Nat}
    {q r : Relationship} (h : fields.RestatesEdge e) (hq : readEdge e position = .ok q)
    (hr : Relationship.ofFields fields = .ok r) : q.description = r.description := by
  obtain ⟨t, ht, ht'⟩ := h.type
  obtain ⟨-, -, -, -, hparts⟩ := readEdge_eq_ok_iff.1 hq
  obtain ⟨type, ps, htype, hps, rfl⟩ := Relationship.ofParts?_eq_ok_iff.1 hparts
  rw [Relationship.ofFields_eq, Checked.map_eq_ok_iff] at hr
  obtain ⟨⟨id, type', source, target, ps'⟩, hread, rfl⟩ := hr
  simp only [Checked.both_eq_ok_iff, Fields.required_eq_ok_iff_ident?, h.source, h.target,
    Fields.optional_properties_eq_ok_iff, h.properties, Option.some.injEq] at hread
  obtain ⟨-, htype', rfl, rfl, hps'⟩ := hread
  obtain rfl := Except.ok.inj (hps.symm.trans hps')
  have htypes : readType (.text t) = .ok type' := by
    rwa [Fields.required, ht', Checked.under_eq_ok_iff] at htype'
  rw [ht] at htype
  obtain rfl := Except.ok.inj (htype.symm.trans htypes)
  rfl

section Graphs

variable {g : Network} {fields : Fields} {forms : List LabelForm} {s t : Snapshot}

/-- The elements of a payload that was read, one by one. -/
lemma readParts_of_ofFields (h : Snapshot.ofFields fields = .ok t) :
    readParts fields = .ok (t.nodes, t.relationships) := by
  rw [Snapshot.ofFields_eq] at h
  cases hparts : readParts fields with
  | error faults => simp [hparts, Except.bind] at h
  | ok parts =>
    obtain ⟨nodes, relationships⟩ := parts
    simp only [hparts, Except.bind] at h
    cases helements : Snapshot.ofElements? nodes relationships with
    | error fault => simp [helements, Checked.fault] at h
    | ok u =>
      simp only [helements, Except.ok.injEq] at h
      obtain ⟨rfl, rfl⟩ := Snapshot.ofElements?_eq_ok_iff.1 helements
      rw [h]

/-- Vertices and their fields are read as the same nodes, but for the labels. -/
lemma exists_nodeForms {vs : List Vertex} {es : List Fields} {ns ms : List Node}
    (hforms : List.Forall₂ Vertex.LabelledBy vs forms)
    (hes : List.Forall₂ Fields.RestatesVertex es vs)
    (hns : List.Forall₂ (fun v n => readVertex v = .ok n) vs ns)
    (hms : List.Forall₂ (fun e m => Node.ofFields e = .ok m) es ms) :
    ∃ xs : List NodeForm, xs.map NodeForm.form = forms ∧ xs.map NodeForm.inParts = ns ∧
      xs.map NodeForm.whole = ms := by
  induction hforms generalizing es ns ms with
  | nil =>
    cases hes
    cases hns
    cases hms
    exact ⟨[], rfl, rfl, rfl⟩
  | cons hform _ ih =>
    cases hes with
    | cons hv hes =>
      cases hns with
      | cons hn hns =>
        cases hms with
        | cons hm hms =>
          obtain ⟨x, rfl, rfl, rfl⟩ := exists_nodeForm hform hv hn hm
          obtain ⟨xs, rfl, rfl, rfl⟩ := ih hes hns hms
          exact ⟨x :: xs, rfl, rfl, rfl⟩

/-- Edges and their fields are read as relationships that tell the same. -/
lemma map_description_eq {ps : List (Edge × Nat)} {es : List Fields} {qs rs : List Relationship}
    (hes : List.Forall₂ (fun e p => Fields.RestatesEdge e p.1) es ps)
    (hqs : List.Forall₂ (fun p q => readEdge p.1 p.2 = .ok q) ps qs)
    (hrs : List.Forall₂ (fun e r => Relationship.ofFields e = .ok r) es rs) :
    qs.map Relationship.description = rs.map Relationship.description := by
  induction hes generalizing qs rs with
  | nil =>
    cases hqs
    cases hrs
    rfl
  | cons he _ ih =>
    cases hqs with
    | cons hq hqs =>
      cases hrs with
      | cons hr hrs =>
        rw [List.map_cons, List.map_cons, description_eq_of_restatesEdge he hq hr, ih hqs hrs]

namespace Fields.Restates

variable (h : fields.Restates g) (hs : g.toSnapshot? = .ok s)
  (ht : Snapshot.ofFields fields = .ok t)

include h hs ht

/-- The nodes of both graphs are the same, but for the labels. -/
lemma exists_nodeForms (hforms : List.Forall₂ Vertex.LabelledBy g.vertices forms) :
    ∃ xs : List NodeForm, xs.map NodeForm.form = forms ∧ xs.map NodeForm.inParts = s.nodes ∧
      (xs.map NodeForm.whole).Perm t.nodes := by
  obtain ⟨es, hperm, hes⟩ := h.vertices
  have hread := forall₂_elements (Checked.both_eq_ok_iff.1 (readParts_of_ofFields ht)).1
  obtain ⟨ms, hms, hmsperm⟩ := List.perm_comp_forall₂ hperm hread
  have hns := mapM_eq_ok_iff_forall₂.1 (toSnapshot?_eq_ok_iff.1 hs).1
  obtain ⟨xs, hxs, hinParts, rfl⟩ := PropertyGraph.exists_nodeForms hforms hes hns hms
  exact ⟨xs, hxs, hinParts, hmsperm⟩

/-- The relationships of both graphs tell the same. -/
lemma perm_relationships : (s.relationships.map Relationship.description).Perm
    (t.relationships.map Relationship.description) := by
  obtain ⟨es, hperm, hes⟩ := h.edges
  have hread := forall₂_elements (Checked.both_eq_ok_iff.1 (readParts_of_ofFields ht)).2
  obtain ⟨rs, hrs, hrsperm⟩ := List.perm_comp_forall₂ hperm hread
  have hqs := mapM_eq_ok_iff_forall₂.1 (toSnapshot?_eq_ok_iff.1 hs).2
  have hzip : List.Forall₂ (fun e p => e.RestatesEdge p.1) es g.edges.zipIdx := by
    rwa [← List.forall₂_map_right_iff, List.zipIdx_map_fst]
  rw [map_description_eq hzip hqs hrs]
  exact hrsperm.map _

/-- Without a text of labels that is empty or has colons, the graphs are isomorphic. -/
lemma nonempty_isomorphism (hforms : List.Forall₂ Vertex.LabelledBy g.vertices forms)
    (hplain : forms.all LabelForm.isPlain = true) : Nonempty (Isomorphism s t) := by
  obtain ⟨xs, rfl, hinParts, hwhole⟩ := h.exists_nodeForms hs ht hforms
  rw [List.all_map, List.all_eq_true] at hplain
  have hnodes : s.nodes.Perm t.nodes := by
    rwa [← hinParts, List.map_congr_left fun x hx => NodeForm.inParts_eq_whole (hplain x hx)]
  exact Snapshot.Reordered.nonempty_isomorphism
    ⟨hnodes.map _, h.perm_relationships hs ht⟩

/-- With such a text, some set of labels does not occur as often in one graph as in the other. -/
lemma isPlain_of_countP_eq (hforms : List.Forall₂ Vertex.LabelledBy g.vertices forms)
    (hcount : ∀ labels, s.nodes.countP (fun n => n.labels = labels) =
      t.nodes.countP fun n => n.labels = labels) : forms.all LabelForm.isPlain = true := by
  obtain ⟨xs, rfl, hinParts, hwhole⟩ := h.exists_nodeForms hs ht hforms
  rw [List.all_map, List.all_eq_true]
  refine NodeForm.isPlain_of_countP_eq fun labels => ?_
  rw [hinParts, hcount, hwhole.countP_eq]

end Fields.Restates

/-- Graphs that are isomorphic if each set of labels occurs as often in one of them as in the other
pass for the same exactly then. -/
lemma isSameGraph_eq_ok {actual expected : Snapshot} {arrangement : Arrangement}
    {settings : Settings} {b : Bool}
    (hcount : (∀ labels, actual.nodes.countP (fun n => n.labels = labels) =
      expected.nodes.countP fun n => n.labels = labels) → b = true)
    (hiso : b = true → Nonempty (Isomorphism actual expected)) :
    ((isSameGraphArranged arrangement actual expected settings).run.result = .ok true ↔
      b = true) ∧
    (RefusalWritable actual expected →
      (isSameGraphArranged arrangement actual expected settings).run.result = .ok b) := by
  have hiff : (isSameGraphArranged arrangement actual expected settings).run.result = .ok true ↔
      b = true := by
    constructor
    · intro h
      exact hcount (countP_labels_eq_of_isSameGraph h)
    · intro h
      obtain ⟨iso⟩ := hiso h
      exact iso.isSameGraph_eq_ok_true arrangement settings
  refine ⟨hiff, fun hwritable => ?_⟩
  obtain ⟨answer, hanswer⟩ := @exists_isSameGraph_eq_ok arrangement _ _ settings hwritable
  rw [hanswer, Except.ok.injEq] at hiff
  rw [hanswer, Bool.eq_iff_iff.2 hiff]

end Graphs

/-! ### What is told apart -/

/-- A vertex is read exactly if its fields are and its name can be written, and both have the same
labels exactly if these are not a text that is empty or has colons: from the vertex such a text is
read in parts, from the fields as a single label.  A network and a map that restates it pass for the
same, in either order, exactly if there is no such text among the labels. -/
theorem labels_readAlike_iff (arrangement : Arrangement) (settings : Settings) :
    (∀ (v : Vertex) (fields : Fields) (form : LabelForm),
      fields.RestatesVertex v → v.LabelledBy form →
      ((∃ n, readVertex v = .ok n) ↔
        v.name.canIdentify = true ∧ ∃ m, Node.ofFields fields = .ok m) ∧
      ∀ n m, readVertex v = .ok n → Node.ofFields fields = .ok m →
        n.labels = .ofList form.parts ∧ m.labels = .ofList form.names ∧
          (n.labels = m.labels ↔ form.isPlain = true)) ∧
    ∀ (g : Network) (fields : Fields) (forms : List LabelForm) (s t : Snapshot),
      fields.Restates g → List.Forall₂ Vertex.LabelledBy g.vertices forms →
      g.readSnapshot.run.result = .ok s → Snapshot.ofFields fields = .ok t →
      (((isSameGraphArranged arrangement s t settings).run.result = .ok true ↔
          forms.all LabelForm.isPlain = true) ∧
        (RefusalWritable s t → (isSameGraphArranged arrangement s t settings).run.result =
          .ok (forms.all LabelForm.isPlain))) ∧
      ((isSameGraphArranged arrangement t s settings).run.result = .ok true ↔
          forms.all LabelForm.isPlain = true) ∧
        (RefusalWritable t s → (isSameGraphArranged arrangement t s settings).run.result =
          .ok (forms.all LabelForm.isPlain)) := by
  refine ⟨fun v fields form hv hform => ⟨?_, fun n m hn hm => ?_⟩,
    fun g fields forms s t h hforms hs ht => ⟨?_, ?_⟩⟩
  · simp only [hform.readVertex_eq_ok_iff, nodeOfFields_eq_ok_iff hform hv]
    constructor
    · rintro ⟨_, hname, ps, hps, -⟩
      exact ⟨hname, _, ps, hps, rfl⟩
    · rintro ⟨hname, _, ps, hps, -⟩
      exact ⟨_, hname, ps, hps, rfl⟩
  · obtain ⟨x, rfl, rfl, rfl⟩ := exists_nodeForm hform hv hn hm
    exact ⟨rfl, rfl, x.form.ofList_parts_eq_iff⟩
  · rw [result_readSnapshot] at hs
    exact isSameGraph_eq_ok (h.isPlain_of_countP_eq hs ht hforms)
      (h.nonempty_isomorphism hs ht hforms)
  · rw [result_readSnapshot] at hs
    refine isSameGraph_eq_ok (fun hcount => ?_) fun hplain => ?_
    · exact h.isPlain_of_countP_eq hs ht hforms fun labels => (hcount labels).symm
    · obtain ⟨iso⟩ := h.nonempty_isomorphism hs ht hforms hplain
      exact ⟨iso.symm⟩

/-- A network of one vertex that has labels. -/
def loneVertex (labels : Value) : Network where
  directed := true
  parallel := false
  vertices := [⟨0, .int 1, .ofList [(.text "labels", labels)]⟩]
  links := []
  nextSlot := 1

/-- A payload of one node that has labels. -/
def loneNode (labels : Value) : Fields :=
  [(.text "nodes", .list [.map [(.text "id", .int 1), (.text "labels", labels)]])]

lemma restates_loneNode (labels : Value) : (loneNode labels).Restates (loneVertex labels) where
  vertices := ⟨_, .refl _, .cons ⟨rfl, rfl, rfl⟩ .nil⟩
  edges := ⟨[], .refl _, .nil⟩

/-- A label with a colon makes no difference in a list, but an empty text does. -/
theorem labels_readAlike_iff_lone :
    (∃ s t, (loneVertex (.list [.text "A:B"])).readSnapshot.run.result = .ok s ∧
      Snapshot.ofFields (loneNode (.list [.text "A:B"])) = .ok t ∧
      (isSameGraphArranged .asAdded s t {}).run.result = .ok true) ∧
    ∃ s t, (loneVertex (.text "")).readSnapshot.run.result = .ok s ∧
      Snapshot.ofFields (loneNode (.text "")) = .ok t ∧
      (isSameGraphArranged .asAdded s t {}).run.result = .ok false := by
  refine ⟨⟨_, _, rfl, rfl, ?_⟩, ⟨_, _, rfl, rfl, ?_⟩⟩
  · exact ((labels_readAlike_iff .asAdded {}).2 _ _ [.list ["A:B"]] _ _ (restates_loneNode _)
      (.cons rfl .nil) rfl rfl).1.1.2 rfl
  · exact ((labels_readAlike_iff .asAdded {}).2 _ _ [.text ""] _ _ (restates_loneNode _)
      (.cons rfl .nil) rfl rfl).1.2 (by decide)

/-- A network and a payload with the same text for labels, which has a colon, are told apart. -/
theorem labels_told_apart :
    (loneNode (.text "A:B")).Restates (loneVertex (.text "A:B")) ∧
    ∃ s t, (loneVertex (.text "A:B")).readSnapshot.run.result = .ok s ∧
      Snapshot.ofFields (loneNode (.text "A:B")) = .ok t ∧
      s.nodes.map Node.labels = [.ofList ["A", "B"]] ∧
      t.nodes.map Node.labels = [.ofList ["A:B"]] ∧
      (isSameGraph s t {}).run.result = .ok false := by
  refine ⟨restates_loneNode _, _, _, rfl, rfl, rfl, rfl, ?_⟩
  cbv

end PropertyGraph
