/-
# What an embedding is

A mapping embeds the expected graph in the actual one when it sends every expected node to an
equivalent actual node, no two to the same, and every expected relationship has an equivalent
counterpart between the images of its ends.  `IsEmbedding` says this of the graphs themselves; the
check of a mapping (`Mapping.embeds`) looks at the relationships only, and
`Mapping.embeds_eq_ok_true` and `Mapping.exists_embeds_eq_ok` say what it decides and that it comes
to a decision for every mapping that covers the expected nodes.
-/
import PropertyGraph.Embedding
import PropertyGraph.Proofs.Candidates

namespace PropertyGraph

/-- An actual relationship between the images of the ends of an expected one is equivalent to
it. -/
def Mapping.Carries (m : Mapping) (actual : Snapshot) (r : Relationship) : Prop :=
  ∃ c ∈ actual.relationships, m.find? r.source = some c.source ∧
    m.find? r.target = some c.target ∧ c.equivalent r = true

/-- A mapping covers all nodes of a graph. -/
def Mapping.Covers (m : Mapping) (g : Snapshot) : Prop := ∀ id ∈ g.nodeIds, id ∈ m.keys

/-- A mapping places the expected nodes in the actual graph; it says nothing about
relationships. -/
structure IsPlacement (actual expected : Snapshot) (m : Mapping) : Prop where
  /-- The expected nodes are mapped, and nothing else is. -/
  keys : m.keys.Perm expected.nodeIds
  /-- No two nodes are mapped to the same node. -/
  injective : ∀ i j t, m.find? i = some t → m.find? j = some t → i = j
  /-- A node is mapped to an equivalent node. -/
  nodes : ∀ n ∈ expected.nodes, ∃ c ∈ actual.nodes, m.find? n.id = some c.id ∧
    n.equivalent c = true

/-- A mapping embeds the expected graph in the actual one. -/
structure IsEmbedding (actual expected : Snapshot) (m : Mapping) : Prop where
  /-- The expected nodes are mapped, and nothing else is. -/
  keys : m.keys.Perm expected.nodeIds
  /-- No two nodes are mapped to the same node. -/
  injective : ∀ i j t, m.find? i = some t → m.find? j = some t → i = j
  /-- A node is mapped to an equivalent node. -/
  nodes : ∀ n ∈ expected.nodes, ∃ c ∈ actual.nodes, m.find? n.id = some c.id ∧
    n.equivalent c = true
  /-- A relationship has an equivalent counterpart between the images of its ends. -/
  relationships : ∀ r ∈ expected.relationships, m.Carries actual r

/-! ### The check of a mapping -/

namespace Mapping

variable {actual expected : Snapshot} {m : Mapping} {r : Relationship}

lemma Covers.exists_find? (hm : m.Covers expected) {id : Ident} (hid : id ∈ expected.nodeIds) :
    ∃ t, m.find? id = some t :=
  OrderedMap.mem_keys_iff.1 (hm id hid)

lemma mem_outgoing_any {s t : Ident} :
    ((actual.index.outgoing s).any fun c => c.target == t && c.equivalent r) = true ↔
      ∃ c ∈ actual.relationships, c.source = s ∧ c.target = t ∧ c.equivalent r = true := by
  simp only [List.any_eq_true, Snapshot.mem_outgoing_index, Bool.and_eq_true, beq_iff_eq]
  constructor
  · rintro ⟨c, ⟨hc, hs⟩, ht, heq⟩
    exact ⟨c, hc, hs, ht, heq⟩
  · rintro ⟨c, hc, hs, ht, heq⟩
    exact ⟨c, ⟨hc, hs⟩, ht, heq⟩

lemma carriedBy_eq_ok_true : r.carriedBy actual.index m = .ok true ↔ m.Carries actual r := by
  unfold Relationship.carriedBy Carries
  split
  · next hs => simp [hs]
  · next ht => simp [ht]
  · next s t hs ht =>
    rw [Except.ok.injEq, mem_outgoing_any]
    constructor
    · rintro ⟨c, hc, rfl, rfl, heq⟩
      exact ⟨c, hc, hs, ht, heq⟩
    · rintro ⟨c, hc, hcs, hct, heq⟩
      rw [hs, Option.some_inj] at hcs
      rw [ht, Option.some_inj] at hct
      exact ⟨c, hc, hcs.symm, hct.symm, heq⟩

lemma carriesAll_eq_ok_true {rs : List Relationship} :
    carriesAll actual.index m rs = .ok true ↔ ∀ r ∈ rs, m.Carries actual r := by
  induction rs with
  | nil => simp [carriesAll]
  | cons r rs ih =>
    rw [carriesAll, List.forall_mem_cons, ← carriedBy_eq_ok_true]
    split
    · next id h => simp [h]
    · next h => simp [h]
    · next h => simp [h, ih]

/-- The check of a mapping succeeds when every expected relationship is carried over. -/
theorem embeds_eq_ok_true :
    m.embeds actual expected = .ok true ↔ ∀ r ∈ expected.relationships, m.Carries actual r :=
  carriesAll_eq_ok_true

lemma exists_carriedBy_eq_ok (hs : r.source ∈ m.keys) (ht : r.target ∈ m.keys) :
    ∃ b, r.carriedBy actual.index m = .ok b := by
  obtain ⟨s, hs⟩ := OrderedMap.mem_keys_iff.1 hs
  obtain ⟨t, ht⟩ := OrderedMap.mem_keys_iff.1 ht
  rw [Relationship.carriedBy, hs, ht]
  exact ⟨_, rfl⟩

lemma exists_carriesAll_eq_ok {rs : List Relationship}
    (h : ∀ r ∈ rs, r.source ∈ m.keys ∧ r.target ∈ m.keys) :
    ∃ b, carriesAll actual.index m rs = .ok b := by
  induction rs with
  | nil => exact ⟨true, rfl⟩
  | cons r rs ih =>
    obtain ⟨hr, hrs⟩ := List.forall_mem_cons.1 h
    obtain ⟨b, hb⟩ : ∃ b, r.carriedBy actual.index m = .ok b :=
      exists_carriedBy_eq_ok hr.1 hr.2
    rw [carriesAll, hb]
    cases b with
    | false => exact ⟨false, rfl⟩
    | true => exact ih hrs

/-- The check of a mapping that covers the expected nodes comes to a decision. -/
theorem exists_embeds_eq_ok (hm : m.Covers expected) :
    ∃ b, m.embeds actual expected = .ok b := by
  refine exists_carriesAll_eq_ok fun r hr => ?_
  obtain ⟨hs, ht⟩ := expected.consistent.endpoints r hr
  exact ⟨hm _ hs, hm _ ht⟩

end Mapping

/-! ### Placements and embeddings -/

namespace IsPlacement

variable {actual expected : Snapshot} {m : Mapping}

lemma covers (h : IsPlacement actual expected m) : m.Covers expected := fun _ hid =>
  h.keys.mem_iff.2 hid

/-- A placement that carries all relationships over is an embedding. -/
lemma isEmbedding (h : IsPlacement actual expected m)
    (hrels : ∀ r ∈ expected.relationships, m.Carries actual r) : IsEmbedding actual expected m :=
  ⟨h.keys, h.injective, h.nodes, hrels⟩

end IsPlacement

namespace IsEmbedding

variable {actual expected : Snapshot} {m : Mapping}

/-- An embedding is a placement in particular. -/
lemma isPlacement (h : IsEmbedding actual expected m) : IsPlacement actual expected m :=
  ⟨h.keys, h.injective, h.nodes⟩

lemma covers (h : IsEmbedding actual expected m) : m.Covers expected := h.isPlacement.covers

lemma lacks_eq_false (h : IsEmbedding actual expected m) {n : Node} (hn : n ∈ expected.nodes) :
    actual.lacks n = false := by
  obtain ⟨c, hc, -, heq⟩ := h.nodes n hn
  exact Snapshot.lacks_eq_false_iff.2 ⟨c, hc, heq⟩

lemma mem_nodeIds_of_find? (h : IsEmbedding actual expected m) {i t : Ident}
    (hi : m.find? i = some t) : i ∈ expected.nodeIds :=
  h.keys.mem_iff.1 (OrderedMap.mem_keys_iff.2 ⟨t, hi⟩)

lemma nodup_values (h : IsEmbedding actual expected m) : m.values.Nodup := by
  refine List.Nodup.map_on ?_ (List.Nodup.of_map Prod.fst m.nodup_keys)
  rintro ⟨i, s⟩ hi ⟨j, t⟩ hj rfl
  rw [h.injective i j s (OrderedMap.find?_eq_some_iff.2 hi) (OrderedMap.find?_eq_some_iff.2 hj)]

lemma values_subset (h : IsEmbedding actual expected m) : m.values ⊆ actual.nodeIds := by
  intro t ht
  obtain ⟨i, hi⟩ := OrderedMap.mem_values_iff.1 ht
  obtain ⟨n, hn, rfl⟩ := List.mem_map.1 (h.mem_nodeIds_of_find? hi)
  obtain ⟨c, hc, hnc, -⟩ := h.nodes n hn
  rw [hi, Option.some_inj] at hnc
  exact hnc ▸ List.mem_map_of_mem hc

/-- Where there are no more actual nodes than expected ones, every actual node is an image. -/
theorem perm_values (h : IsEmbedding actual expected m)
    (hlen : actual.nodes.length ≤ expected.nodes.length) : m.values.Perm actual.nodeIds := by
  refine (List.subperm_of_subset h.nodup_values h.values_subset).perm_of_length_le ?_
  have hkeys : m.values.length = expected.nodeIds.length := by
    rw [← h.keys.length_eq, OrderedMap.keys, OrderedMap.values, List.length_map, List.length_map]
  rw [hkeys, Snapshot.nodeIds, Snapshot.nodeIds, List.length_map, List.length_map]
  exact hlen

/-- A name that occurs in a graph occurs in every graph in which it embeds. -/
lemma mem_labels (h : IsEmbedding actual expected m) {l : String} (hl : l ∈ expected.labels) :
    l ∈ actual.labels := by
  obtain ⟨n, hn, hl⟩ := List.mem_flatMap.1 (NameSet.mem_ofList.1 hl)
  obtain ⟨c, hc, -, heq⟩ := h.nodes n hn
  rw [Node.labels_eq_of_equivalent heq] at hl
  exact NameSet.mem_ofList.2 (List.mem_flatMap.2 ⟨c, hc, hl⟩)

lemma mem_propertyKeys (h : IsEmbedding actual expected m) {k : String}
    (hk : k ∈ expected.propertyKeys) : k ∈ actual.propertyKeys := by
  refine NameSet.mem_ofList.2 (List.mem_append.2 ?_)
  rcases List.mem_append.1 (NameSet.mem_ofList.1 hk) with hnode | hrel
  · obtain ⟨n, hn, hk⟩ := List.mem_flatMap.1 hnode
    obtain ⟨c, hc, -, heq⟩ := h.nodes n hn
    exact .inl (List.mem_flatMap.2 ⟨c, hc, (Node.mem_keys_of_equivalent heq).1 hk⟩)
  · obtain ⟨r, hr, hk⟩ := List.mem_flatMap.1 hrel
    obtain ⟨c, hc, -, -, heq⟩ := h.relationships r hr
    exact .inr (List.mem_flatMap.2 ⟨c, hc, (Relationship.mem_keys_of_equivalent heq).2 hk⟩)

lemma mem_relationshipTypes (h : IsEmbedding actual expected m) {t : String}
    (ht : t ∈ expected.relationshipTypes) : t ∈ actual.relationshipTypes := by
  obtain ⟨r, hr, rfl⟩ := List.mem_map.1 (NameSet.mem_ofList.1 ht)
  obtain ⟨c, hc, -, -, heq⟩ := h.relationships r hr
  rw [← Relationship.type_eq_of_equivalent heq]
  exact NameSet.mem_ofList.2 (List.mem_map_of_mem hc)

/-- What a mapping finds for an identifier depends on the entries only, not on their order. -/
lemma congr {m' : Mapping} (h : IsEmbedding actual expected m)
    (hkeys : m'.keys.Perm expected.nodeIds)
    (hfind : ∀ id ∈ expected.nodeIds, m'.find? id = m.find? id) :
    IsEmbedding actual expected m' where
  keys := hkeys
  injective i j t hi hj := by
    have hmem {k : Ident} (hk : m'.find? k = some t) : k ∈ expected.nodeIds :=
      hkeys.mem_iff.1 (OrderedMap.mem_keys_iff.2 ⟨t, hk⟩)
    rw [hfind i (hmem hi)] at hi
    rw [hfind j (hmem hj)] at hj
    exact h.injective i j t hi hj
  nodes n hn := by
    rw [hfind n.id (List.mem_map_of_mem hn)]
    exact h.nodes n hn
  relationships r hr := by
    obtain ⟨hs, ht⟩ := expected.consistent.endpoints r hr
    obtain ⟨c, hc, hcs, hct, heq⟩ := h.relationships r hr
    exact ⟨c, hc, (hfind _ hs).trans hcs, (hfind _ ht).trans hct, heq⟩

/-- One embedding after another is an embedding: what a relationship is carried over to is carried
over in turn. -/
protected theorem trans {middle : Snapshot} {m' : Mapping} (h : IsEmbedding middle expected m)
    (h' : IsEmbedding actual middle m') : IsEmbedding actual expected (m.andThen m') where
  keys := by
    rw [OrderedMap.keys_andThen fun t ht => h'.covers t (h.values_subset ht)]
    exact h.keys
  injective i j t hi hj := by
    rw [OrderedMap.find?_andThen, Option.bind_eq_some_iff] at hi hj
    obtain ⟨s, his, hst⟩ := hi
    obtain ⟨s', hjs, hst'⟩ := hj
    obtain rfl := h'.injective s s' t hst hst'
    exact h.injective i j s his hjs
  nodes n hn := by
    obtain ⟨b, hb, hnb, heq⟩ := h.nodes n hn
    obtain ⟨c, hc, hbc, heq'⟩ := h'.nodes b hb
    refine ⟨c, hc, ?_, Node.equivalent_trans heq heq'⟩
    rw [OrderedMap.find?_andThen, hnb]
    exact hbc
  relationships r hr := by
    obtain ⟨q, hq, hsource, htarget, heq⟩ := h.relationships r hr
    obtain ⟨c, hc, hsource', htarget', heq'⟩ := h'.relationships q hq
    refine ⟨c, hc, ?_, ?_, Relationship.equivalent_trans heq' heq⟩
    · rw [OrderedMap.find?_andThen, hsource]
      exact hsource'
    · rw [OrderedMap.find?_andThen, htarget]
      exact htarget'

end IsEmbedding

end PropertyGraph
