/-
# When an embedding is an isomorphism

An embedding does not use up the actual relationships: equivalent expected relationships that run
in parallel may all be carried over to the same one.  In graphs with equally many elements it is an
isomorphism exactly when this does not happen, that is, when between the images of two nodes there
are at least as many relationships of each sort as between the nodes (`Mapping.KeepsParallels`).

Expected and actual relationships are matched by a key: the ends, the expected ones under the
mapping, and the content.  Each key has at least as many actual relationships as expected ones, so
no two expected ones need the same counterpart (`exists_embedding_of_fibers_le`); and where overall
there are not more actual relationships, they match one to one.
-/
import PropertyGraph.Proofs.Isomorphism
import PropertyGraph.Proofs.Keys

namespace PropertyGraph

/-! ### Parallel relationships -/

namespace Snapshot

/-- How many relationships from one node to another are equivalent to a given one. -/
def parallels (g : Snapshot) (source target : Ident) (r : Relationship) : Nat :=
  g.relationships.countP fun c => c.source == source && c.target == target && c.equivalent r

lemma parallels_eq_card (g : Snapshot) (s t : Ident) (r : Relationship) :
    g.parallels s t r = Nat.card
      {c : g.RelationshipIn // c.1.source = s ∧ c.1.target = t ∧ c.1.equivalent r = true} := by
  rw [parallels, countP_eq_card g.nodup_relationships]
  simp only [Bool.and_eq_true, beq_iff_eq, and_assoc]

end Snapshot

/-- A mapping keeps parallel relationships apart: between the images of the ends of an expected
relationship there are at least as many relationships equivalent to it as between the ends. -/
def Mapping.KeepsParallels (m : Mapping) (actual expected : Snapshot) : Prop :=
  ∀ r ∈ expected.relationships, ∀ s t, m.find? r.source = some s → m.find? r.target = some t →
    expected.parallels r.source r.target r ≤ actual.parallels s t r

/-- No two relationships of a graph are equivalent and have the same ends. -/
def Snapshot.ParallelFree (g : Snapshot) : Prop :=
  ∀ r ∈ g.relationships, ∀ q ∈ g.relationships,
    q.source = r.source → q.target = r.target → q.equivalent r = true → q = r

variable {actual expected : Snapshot} {m : Mapping}

lemma Snapshot.ParallelFree.parallels_le_one {g : Snapshot} (h : g.ParallelFree) {r : Relationship}
    (hr : r ∈ g.relationships) : g.parallels r.source r.target r ≤ 1 := by
  rw [parallels_eq_card, Finite.card_le_one_iff_subsingleton]
  refine ⟨fun q q' => Subtype.ext (Subtype.ext ?_)⟩
  obtain ⟨hs, ht, heq⟩ := q.2
  obtain ⟨hs', ht', heq'⟩ := q'.2
  exact (h r hr _ q.1.2 hs ht heq).trans (h r hr _ q'.1.2 hs' ht' heq').symm

/-- Where no expected relationships are parallel, every embedding keeps them apart. -/
theorem Snapshot.ParallelFree.keepsParallels (hfree : expected.ParallelFree)
    (h : IsEmbedding actual expected m) : m.KeepsParallels actual expected := by
  intro r hr s t hs ht
  obtain ⟨c, hc, hcs, hct, heq⟩ := h.relationships r hr
  rw [hs, Option.some_inj] at hcs
  rw [ht, Option.some_inj] at hct
  refine (hfree.parallels_le_one hr).trans (List.countP_pos_iff.2 ⟨c, hc, ?_⟩)
  simp [hcs, hct, heq]

/-- The correspondence of an isomorphism keeps parallel relationships apart. -/
theorem Isomorphism.keepsParallels (iso : Isomorphism actual expected)
    (hm : ∀ n : expected.NodeIn, m.find? n.1.id = some (iso.node n).1.id) :
    m.KeepsParallels actual expected := by
  intro r hr s t hs ht
  rw [Snapshot.parallels_eq_card, Snapshot.parallels_eq_card]
  have himage (q : expected.RelationshipIn) (hq : q.1.source = r.source ∧ q.1.target = r.target ∧
      q.1.equivalent r = true) :
      (iso.relationship q).1.source = s ∧ (iso.relationship q).1.target = t ∧
        (iso.relationship q).1.equivalent r = true := by
    obtain ⟨hqs, hqt, heq⟩ := hq
    obtain ⟨a, ha⟩ := Snapshot.exists_source q
    obtain ⟨b, hb⟩ := Snapshot.exists_target q
    rw [← hqs, ← ha, hm, Option.some_inj] at hs
    rw [← hqt, ← hb, hm, Option.some_inj] at ht
    exact ⟨(iso.source q a ha).symm.trans hs, (iso.target q b hb).symm.trans ht,
      Relationship.equivalent_trans (iso.relationship_equivalent q) heq⟩
  refine Nat.card_le_card_of_injective (Subtype.map iso.relationship himage) ?_
  exact Subtype.map_injective _ iso.relationship.injective

namespace IsEmbedding

lemma find?_inj (h : IsEmbedding actual expected m) {i j : Ident} (hi : i ∈ expected.nodeIds) :
    m.find? i = m.find? j ↔ i = j := by
  obtain ⟨t, ht⟩ := h.covers.exists_find? hi
  exact ⟨fun hij => h.injective i j t ht (hij ▸ ht), congrArg _⟩

/-- Where there are no more actual nodes than expected ones, an embedding is a correspondence of
the nodes. -/
lemma exists_nodeEquiv (h : IsEmbedding actual expected m)
    (hlen : actual.nodes.length ≤ expected.nodes.length) :
    ∃ e : expected.NodeIn ≃ actual.NodeIn,
      ∀ n, m.find? n.1.id = some (e n).1.id ∧ n.1.equivalent (e n).1 = true := by
  obtain ⟨p, hp⟩ := h.isPlacement.exists_placement
  have hcard : Nat.card actual.NodeIn ≤ Nat.card expected.NodeIn := by
    rw [actual.card_nodeIn, expected.card_nodeIn]
    exact hlen
  exact ⟨.ofBijective p.1 (p.1.injective.bijective_of_nat_card_le hcard),
    fun n => ⟨hp n, p.2 n⟩⟩

/-- Where there are no more actual nodes than expected ones, an embedding leaves as many that pass a
test, if equivalent nodes pass it together. -/
lemma countP_nodes_eq (h : IsEmbedding actual expected m)
    (hlen : actual.nodes.length ≤ expected.nodes.length) {p : Node → Bool}
    (hp : ∀ a b : Node, a.equivalent b = true → p a = p b) :
    actual.nodes.countP p = expected.nodes.countP p := by
  obtain ⟨e, he⟩ := h.exists_nodeEquiv hlen
  rw [Snapshot.countP_eq_card actual.nodup_nodes, Snapshot.countP_eq_card expected.nodup_nodes]
  refine (Nat.card_congr (e.subtypeEquiv fun n => ?_)).symm
  rw [hp _ _ (he n).2]

/-- An embedding that keeps parallel relationships apart finds a counterpart of its own for every
expected relationship. -/
lemma exists_relationshipEmbedding (h : IsEmbedding actual expected m)
    (hkeeps : m.KeepsParallels actual expected) :
    ∃ e : expected.RelationshipIn ↪ actual.RelationshipIn, ∀ r,
      m.find? r.1.source = some (e r).1.source ∧ m.find? r.1.target = some (e r).1.target ∧
        (e r).1.equivalent r.1 = true := by
  let f (r : expected.RelationshipIn) := (m.find? r.1.source, m.find? r.1.target, r.1.content)
  let g (c : actual.RelationshipIn) := (some c.1.source, some c.1.target, c.1.content)
  have hfib (r : expected.RelationshipIn) :
      Nat.card {q // f q = f r} ≤ Nat.card {c // g c = f r} := by
    -- under the key of `r` there are the relationships parallel and equivalent to it
    obtain ⟨hsource, htarget⟩ := expected.consistent.endpoints r.1 r.2
    obtain ⟨s, hs⟩ := h.covers.exists_find? hsource
    obtain ⟨t, ht⟩ := h.covers.exists_find? htarget
    have hexpected (q : expected.RelationshipIn) : q.1.source = r.1.source ∧
        q.1.target = r.1.target ∧ q.1.equivalent r.1 = true ↔ f q = f r := by
      obtain ⟨hqs, hqt⟩ := expected.consistent.endpoints q.1 q.2
      simp [f, h.find?_inj hqs, h.find?_inj hqt, Relationship.equivalent_iff]
    have hactual (c : actual.RelationshipIn) : c.1.source = s ∧ c.1.target = t ∧
        c.1.equivalent r.1 = true ↔ g c = f r := by
      simp [f, g, hs, ht, Relationship.equivalent_iff]
    have hle := hkeeps r.1 r.2 s t hs ht
    rw [Snapshot.parallels_eq_card, Snapshot.parallels_eq_card] at hle
    simpa only [hexpected, hactual] using hle
  obtain ⟨e, he⟩ := exists_embedding_of_fibers_le hfib
  refine ⟨e, fun r => ?_⟩
  obtain ⟨hs, ht⟩ := Prod.mk.inj (he r)
  obtain ⟨ht, hcontent⟩ := Prod.mk.inj ht
  exact ⟨hs.symm, ht.symm, Relationship.equivalent_iff.2 hcontent⟩

/-- Where there are no more actual relationships than expected ones, an embedding that keeps
parallel relationships apart gives a correspondence of the relationships. -/
lemma exists_relationshipEquiv (h : IsEmbedding actual expected m)
    (hlen : actual.relationships.length ≤ expected.relationships.length)
    (hkeeps : m.KeepsParallels actual expected) :
    ∃ e : expected.RelationshipIn ≃ actual.RelationshipIn, ∀ r,
      m.find? r.1.source = some (e r).1.source ∧ m.find? r.1.target = some (e r).1.target ∧
        (e r).1.equivalent r.1 = true := by
  obtain ⟨e, he⟩ := h.exists_relationshipEmbedding hkeeps
  have hcard : Nat.card actual.RelationshipIn ≤ Nat.card expected.RelationshipIn := by
    rw [actual.card_relationshipIn, expected.card_relationshipIn]
    exact hlen
  exact ⟨.ofBijective e (e.injective.bijective_of_nat_card_le hcard), he⟩

/-- Where there are no more actual nodes and relationships than expected ones, an embedding that
keeps parallel relationships apart is an isomorphism. -/
theorem exists_isomorphism_of_length_le (h : IsEmbedding actual expected m)
    (hnodes : actual.nodes.length ≤ expected.nodes.length)
    (hrels : actual.relationships.length ≤ expected.relationships.length)
    (hkeeps : m.KeepsParallels actual expected) :
    ∃ iso : Isomorphism actual expected,
      ∀ n : expected.NodeIn, m.find? n.1.id = some (iso.node n).1.id := by
  obtain ⟨node, hnode⟩ := h.exists_nodeEquiv hnodes
  obtain ⟨relationship, hrel⟩ := h.exists_relationshipEquiv hrels hkeeps
  refine ⟨⟨node, relationship, fun n => (hnode n).2, fun r => (hrel r).2.2, ?_, ?_⟩,
    fun n => (hnode n).1⟩
  · intro r n hn
    have hs := (hrel r).1
    rw [← hn, (hnode n).1] at hs
    exact Option.some_inj.1 hs
  · intro r n hn
    have ht := (hrel r).2.1
    rw [← hn, (hnode n).1] at ht
    exact Option.some_inj.1 ht

/-- Between graphs with equally many nodes and relationships, an embedding that keeps parallel
relationships apart is an isomorphism. -/
theorem exists_isomorphism (h : IsEmbedding actual expected m)
    (hcounts : actual.counts = expected.counts) (hkeeps : m.KeepsParallels actual expected) :
    ∃ iso : Isomorphism actual expected,
      ∀ n : expected.NodeIn, m.find? n.1.id = some (iso.node n).1.id := by
  have hnodes : actual.nodes.length = expected.nodes.length := congrArg Counts.nodes hcounts
  have hrels : actual.relationships.length = expected.relationships.length :=
    congrArg Counts.relationships hcounts
  exact h.exists_isomorphism_of_length_le (Nat.le_of_eq hnodes) (Nat.le_of_eq hrels) hkeeps

/-- An embedding needs as many actual nodes as there are expected ones. -/
lemma length_nodes_le (h : IsEmbedding actual expected m) :
    expected.nodes.length ≤ actual.nodes.length := by
  obtain ⟨p, -⟩ := h.isPlacement.exists_placement
  rw [← expected.card_nodeIn, ← actual.card_nodeIn]
  exact Nat.card_le_card_of_injective p.1 p.1.injective

/-- An embedding that keeps parallel relationships apart needs as many actual relationships as
there are expected ones. -/
lemma length_relationships_le (h : IsEmbedding actual expected m)
    (hkeeps : m.KeepsParallels actual expected) :
    expected.relationships.length ≤ actual.relationships.length := by
  obtain ⟨e, -⟩ := h.exists_relationshipEmbedding hkeeps
  rw [← expected.card_relationshipIn, ← actual.card_relationshipIn]
  exact Nat.card_le_card_of_injective e e.injective

/-- Such an embedding can be read backwards. -/
theorem inverse (h : IsEmbedding actual expected m) (hcounts : actual.counts = expected.counts)
    (hkeeps : m.KeepsParallels actual expected) : IsEmbedding expected actual m.inverse := by
  obtain ⟨iso, hiso⟩ := h.exists_isomorphism hcounts hkeeps
  have hnodes : actual.nodes.length = expected.nodes.length := congrArg Counts.nodes hcounts
  refine iso.symm.isEmbedding ?_ fun c => ?_
  · rw [OrderedMap.keys_inverse h.nodup_values]
    exact h.perm_values (Nat.le_of_eq hnodes)
  · obtain ⟨n, rfl⟩ := iso.node.surjective c
    rw [OrderedMap.find?_inverse h.nodup_values, hiso]
    simp [Isomorphism.symm]

end IsEmbedding

end PropertyGraph
