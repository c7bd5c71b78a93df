/-
# Isomorphic graphs

Two graphs are isomorphic when their nodes and their relationships correspond one to one, every
element to an equivalent one and the ends of a relationship to the ends of its counterpart.
Identifiers, the order of the elements and the spelling of numbers play no part.

Isomorphic graphs have equally many elements of every sort (`Isomorphism.counts_eq`), and each of
them embeds in the other (`Isomorphism.exists_isEmbedding`).  So what embeds in a graph embeds in
the isomorphic ones (`Isomorphism.exists_isEmbedding_iff`), and there are equally many placements in
them (`Isomorphism.placementEquiv`).
-/
import Mathlib.Data.List.Find
import Mathlib.Data.List.Sort
import Mathlib.Logic.Equiv.Embedding
import PropertyGraph.Proofs.Placement

namespace PropertyGraph

/-- Sets of names with the same members are the same. -/
lemma NameSet.ext_mem {s t : NameSet} (h : ∀ x, x ∈ s ↔ x ∈ t) : s = t := by
  obtain ⟨xs, hxs⟩ := s
  obtain ⟨ys, hys⟩ := t
  obtain rfl : xs = ys := hxs.eq_of_mem_iff hys h
  rfl

/-! ### Isomorphisms -/

/-- A correspondence of the elements of two graphs that keeps what they are and how they are
connected. -/
structure Isomorphism (actual expected : Snapshot) where
  /-- The nodes correspond one to one. -/
  node : expected.NodeIn ≃ actual.NodeIn
  /-- The relationships correspond one to one. -/
  relationship : expected.RelationshipIn ≃ actual.RelationshipIn
  /-- Corresponding nodes are equivalent. -/
  node_equivalent : ∀ n : expected.NodeIn, n.1.equivalent (node n).1 = true
  /-- Corresponding relationships are equivalent. -/
  relationship_equivalent : ∀ r, (relationship r).1.equivalent r.1 = true
  /-- Corresponding relationships start at corresponding nodes. -/
  source : ∀ (r : expected.RelationshipIn) (n : expected.NodeIn), n.1.id = r.1.source →
    (node n).1.id = (relationship r).1.source
  /-- Corresponding relationships end at corresponding nodes. -/
  target : ∀ (r : expected.RelationshipIn) (n : expected.NodeIn), n.1.id = r.1.target →
    (node n).1.id = (relationship r).1.target

namespace Isomorphism

variable {actual expected middle : Snapshot}

/-- Every graph is isomorphic to itself. -/
protected def refl (g : Snapshot) : Isomorphism g g where
  node := .refl _
  relationship := .refl _
  node_equivalent n := n.1.equivalent_refl
  relationship_equivalent r := r.1.equivalent_refl
  source _ _ h := h
  target _ _ h := h

lemma node_symm_eq (iso : Isomorphism actual expected) {a : actual.NodeIn} {n : expected.NodeIn}
    (h : a.1.id = (iso.node n).1.id) : iso.node.symm a = n := by
  rw [Snapshot.nodeIn_ext h, Equiv.symm_apply_apply]

/-- The correspondence read backwards. -/
protected def symm (iso : Isomorphism actual expected) : Isomorphism expected actual where
  node := iso.node.symm
  relationship := iso.relationship.symm
  node_equivalent c := by
    obtain ⟨n, rfl⟩ := iso.node.surjective c
    rw [Equiv.symm_apply_apply]
    exact Node.equivalent_symm (iso.node_equivalent n)
  relationship_equivalent c := by
    obtain ⟨r, rfl⟩ := iso.relationship.surjective c
    rw [Equiv.symm_apply_apply]
    exact Relationship.equivalent_symm (iso.relationship_equivalent r)
  source c a h := by
    obtain ⟨r, rfl⟩ := iso.relationship.surjective c
    obtain ⟨n, hn⟩ := Snapshot.exists_source r
    have ha := iso.node_symm_eq (h.trans (iso.source r n hn).symm)
    rw [ha, Equiv.symm_apply_apply, hn]
  target c a h := by
    obtain ⟨r, rfl⟩ := iso.relationship.surjective c
    obtain ⟨n, hn⟩ := Snapshot.exists_target r
    have ha := iso.node_symm_eq (h.trans (iso.target r n hn).symm)
    rw [ha, Equiv.symm_apply_apply, hn]

/-- One correspondence after another. -/
protected def trans (iso : Isomorphism actual middle) (iso' : Isomorphism middle expected) :
    Isomorphism actual expected where
  node := iso'.node.trans iso.node
  relationship := iso'.relationship.trans iso.relationship
  node_equivalent n := Node.equivalent_trans (iso'.node_equivalent n) (iso.node_equivalent _)
  relationship_equivalent r :=
    Relationship.equivalent_trans (iso.relationship_equivalent _) (iso'.relationship_equivalent r)
  source r n h := iso.source _ _ (iso'.source r n h)
  target r n h := iso.target _ _ (iso'.target r n h)

/-! ### What isomorphic graphs have in common -/

section Common

variable (iso : Isomorphism actual expected)

include iso

/-- The correspondence of the nodes as a placement. -/
def placement : Placement actual expected := ⟨iso.node.toEmbedding, iso.node_equivalent⟩

/-- A mapping that agrees with the correspondence of the nodes is an embedding. -/
theorem isEmbedding {m : Mapping} (hkeys : m.keys.Perm expected.nodeIds)
    (hm : ∀ n : expected.NodeIn, m.find? n.1.id = some (iso.node n).1.id) :
    IsEmbedding actual expected m := by
  have hplacement : m.Realizes iso.placement := hm
  refine (hplacement.isPlacement hkeys).isEmbedding fun r hr => ?_
  obtain ⟨a, ha⟩ := Snapshot.exists_source ⟨r, hr⟩
  obtain ⟨b, hb⟩ := Snapshot.exists_target ⟨r, hr⟩
  refine ⟨_, (iso.relationship ⟨r, hr⟩).2, ?_, ?_, iso.relationship_equivalent ⟨r, hr⟩⟩
  · rw [← iso.source ⟨r, hr⟩ a ha, ← hm a, ha]
  · rw [← iso.target ⟨r, hr⟩ b hb, ← hm b, hb]

/-- The correspondence of the nodes is an embedding. -/
theorem exists_isEmbedding :
    ∃ m, IsEmbedding actual expected m ∧
      ∀ n : expected.NodeIn, m.find? n.1.id = some (iso.node n).1.id := by
  obtain ⟨m, hkeys, hm⟩ := Snapshot.exists_mapping fun n => (iso.node n).1.id
  exact ⟨m, iso.isEmbedding (.of_eq hkeys) hm, hm⟩

/-- Isomorphic graphs have equally many elements of every sort: each name that occurs in one of them
occurs in the other. -/
theorem counts_eq : actual.counts = expected.counts := by
  obtain ⟨m, hm, -⟩ := iso.exists_isEmbedding
  obtain ⟨m', hm', -⟩ := iso.symm.exists_isEmbedding
  have hnodes : actual.nodes.length = expected.nodes.length := by
    rw [← actual.card_nodeIn, ← expected.card_nodeIn, Nat.card_congr iso.node]
  have hrels : actual.relationships.length = expected.relationships.length := by
    rw [← actual.card_relationshipIn, ← expected.card_relationshipIn,
      Nat.card_congr iso.relationship]
  have hlabels : actual.labels = expected.labels :=
    NameSet.ext_mem fun _ => ⟨hm'.mem_labels, hm.mem_labels⟩
  have hkeys : actual.propertyKeys = expected.propertyKeys :=
    NameSet.ext_mem fun _ => ⟨hm'.mem_propertyKeys, hm.mem_propertyKeys⟩
  have htypes : actual.relationshipTypes = expected.relationshipTypes :=
    NameSet.ext_mem fun _ => ⟨hm'.mem_relationshipTypes, hm.mem_relationshipTypes⟩
  rw [Snapshot.counts, Snapshot.counts, hnodes, hrels, hlabels, hkeys, htypes]

end Common

/-! ### What embeds in isomorphic graphs -/

variable {actual' expected' : Snapshot} (isoA : Isomorphism actual' actual)
  (isoE : Isomorphism expected' expected)

include isoA isoE

/-- A graph embeds in another one if an isomorphic graph embeds in an isomorphic one. -/
lemma exists_isEmbedding_of_isEmbedding {m : Mapping} (h : IsEmbedding actual expected m) :
    ∃ m', IsEmbedding actual' expected' m' := by
  obtain ⟨toExpected, hexpected, -⟩ := isoE.symm.exists_isEmbedding
  obtain ⟨toActual, hactual, -⟩ := isoA.exists_isEmbedding
  exact ⟨_, (hexpected.trans h).trans hactual⟩

theorem exists_isEmbedding_iff :
    (∃ m, IsEmbedding actual expected m) ↔ ∃ m, IsEmbedding actual' expected' m := by
  constructor
  · rintro ⟨m, hm⟩
    exact exists_isEmbedding_of_isEmbedding isoA isoE hm
  · rintro ⟨m, hm⟩
    exact exists_isEmbedding_of_isEmbedding isoA.symm isoE.symm hm

/-- Corresponding nodes have corresponding counterparts. -/
lemma equivalent_node_iff (n : expected.NodeIn) (c : actual.NodeIn) :
    (isoE.node n).1.equivalent (isoA.node c).1 = true ↔ n.1.equivalent c.1 = true := by
  have hn := Node.equivalent_iff.1 (isoE.node_equivalent n)
  have hc := Node.equivalent_iff.1 (isoA.node_equivalent c)
  rw [Node.equivalent_iff, Node.equivalent_iff, hn, hc]

lemma lacks_node_iff (n : expected.NodeIn) :
    actual'.lacks (isoE.node n).1 = false ↔ actual.lacks n.1 = false := by
  rw [Snapshot.lacks_eq_false_iff, Snapshot.lacks_eq_false_iff]
  constructor
  · rintro ⟨c', hc', heq⟩
    obtain ⟨c, hc⟩ := isoA.node.surjective ⟨c', hc'⟩
    refine ⟨c.1, c.2, (equivalent_node_iff isoA isoE n c).1 ?_⟩
    rw [hc]
    exact heq
  · rintro ⟨c, hc, heq⟩
    exact ⟨_, (isoA.node ⟨c, hc⟩).2, (equivalent_node_iff isoA isoE n ⟨c, hc⟩).2 heq⟩

/-- All nodes have counterparts if they have in isomorphic graphs. -/
theorem find?_lacks_eq_none_iff :
    expected'.nodes.find? actual'.lacks = none ↔ expected.nodes.find? actual.lacks = none := by
  have hfind (a e : Snapshot) :
      e.nodes.find? a.lacks = none ↔ ∀ n : e.NodeIn, a.lacks n.1 = false := by
    simp [List.find?_eq_none]
  rw [hfind, hfind]
  exact (isoE.node.forall_congr fun n => (lacks_node_iff isoA isoE n).symm).symm

omit isoE in
/-- The same nodes have no counterpart in isomorphic graphs. -/
lemma find?_lacks_eq : expected.nodes.find? actual'.lacks = expected.nodes.find? actual.lacks := by
  refine List.find?_congr fun n hn => ?_
  have hiff := lacks_node_iff isoA (.refl expected) ⟨n, hn⟩
  rw [Bool.eq_iff_iff, ← not_iff_not, Bool.not_eq_true, Bool.not_eq_true]
  exact hiff

/-- The placements in a graph correspond to those of an isomorphic graph in an isomorphic one. -/
def placementEquiv : Placement actual expected ≃ Placement actual' expected' :=
  (Equiv.embeddingCongr isoE.node isoA.node).subtypeEquiv fun f => by
    refine isoE.node.forall_congr fun n => ?_
    simp [Equiv.embeddingCongr, Function.Embedding.congr, equivalent_node_iff isoA isoE]

end Isomorphism

/-! ### Small graphs -/

/-- Two nodes, connected twice in the same direction. -/
def doubled : Snapshot where
  nodes := [⟨.int 1, .ofList ["A"], .empty⟩, ⟨.int 2, .ofList ["B"], .empty⟩]
  relationships := [⟨.int 0, "R", .int 1, .int 2, .empty, by decide⟩,
    ⟨.int 1, "R", .int 1, .int 2, .empty, by decide⟩]
  consistent := ⟨by decide, by decide, by decide⟩

/-- The same two nodes, connected once in each direction. -/
def crossed : Snapshot where
  nodes := doubled.nodes
  relationships := [⟨.int 0, "R", .int 1, .int 2, .empty, by decide⟩,
    ⟨.int 1, "R", .int 2, .int 1, .empty, by decide⟩]
  consistent := ⟨by decide, by decide, by decide⟩

/-- A relationship with an identifier of its own that connects nodes of other identifiers. -/
def Relationship.rename (r : Relationship) (id source target : Ident) : Relationship :=
  { r with id, source, target }

/-- The graph `crossed` with other identifiers, its elements in another order. -/
def crossedRenamed : Snapshot where
  nodes := [⟨.text "b", .ofList ["B"], .empty⟩, ⟨.text "a", .ofList ["A"], .empty⟩]
  relationships := [crossed.relationships[1].rename (.text "back") (.text "b") (.text "a"),
    crossed.relationships[0].rename (.text "forth") (.text "a") (.text "b")]
  consistent := ⟨by decide, by decide, by decide⟩

/-- The graph and its renaming correspond. -/
def crossedRenaming : Isomorphism crossed crossedRenamed where
  node := {
    toFun := fun n =>
      if n.1.id = .text "a" then ⟨crossed.nodes[0], by decide⟩
      else ⟨crossed.nodes[1], by decide⟩
    invFun := fun c =>
      if c.1.id = .int 1 then ⟨crossedRenamed.nodes[1], by decide⟩
      else ⟨crossedRenamed.nodes[0], by decide⟩
    left_inv := by decide
    right_inv := by decide }
  relationship := {
    toFun := fun r =>
      if r.1.id = .text "forth" then ⟨crossed.relationships[0], by decide⟩
      else ⟨crossed.relationships[1], by decide⟩
    invFun := fun c =>
      if c.1.id = .int 0 then ⟨crossedRenamed.relationships[1], by decide⟩
      else ⟨crossedRenamed.relationships[0], by decide⟩
    left_inv := by decide
    right_inv := by decide }
  node_equivalent := by decide
  relationship_equivalent := by decide
  source := by decide
  target := by decide

end PropertyGraph
