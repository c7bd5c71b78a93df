/-
# Rendering a graph and reading it back

A node and a relationship of a rendered graph are read back as they are, but for the identifier of
the relationship, which becomes its position (`readVertex_vertexOf`, `readEdge_edgeOf`).  As the
edges of the network are met in the order of `Snapshot.grouped`, reading gives the same nodes and
the grouped relationships, numbered in this order (`toSnapshot?_rendered`), hence an isomorphic
graph (`toSnapshot?_of_ofSnapshot?`).
-/
import PropertyGraph.Proofs.Comparison.SameGraph
import PropertyGraph.Proofs.Network.Traversal
import PropertyGraph.Proofs.Snapshot.Parts

namespace PropertyGraph

open Network

/-! ### Reading the elements -/

lemma NameSet.ofList_toList (s : NameSet) : NameSet.ofList s.toList = s :=
  NameSet.ext_mem fun _ => NameSet.mem_ofList

/-- A relationship under another identifier. -/
def Relationship.withId (r : Relationship) (id : Ident) : Relationship := { r with id }

/-- Relationships identified by their positions. -/
def Relationship.numbered (rs : List Relationship) : List Relationship :=
  rs.zipIdx.map fun (r, i) => r.withId (.int i)

namespace Network

/-- A node survives being rendered. -/
theorem readVertex_vertexOf {ids : List Ident} {n : Node} (h : n.clash? = none) :
    readVertex (vertexOf ids n) = .ok n := by
  have hproperties : readProperties (.map
      (n.properties.entries.map fun e => (.text e.1, e.2.toValue))) = .ok n.properties :=
    readProperties_toValue n.properties
  have hparts : Node.ofParts? n.id n.labels.toList
      (n.properties.entries.map fun e => (.text e.1, e.2.toValue)) = .ok n := by
    rw [Node.ofParts?, hproperties, NameSet.ofList_toList]
    rfl
  -- the labels come as a list, so that no label is split at colons
  unfold readVertex vertexOf Node.attributeList
  rw [find?_attributesOf (Node.labelsKey_notMem h), erase_attributesOf (Node.labelsKey_notMem h),
    Option.getD_some, parseLabels_list]
  simp only [Ident.ofForeign?_toValue]
  exact hparts

/-- A relationship survives being rendered, but for its identifier. -/
theorem readEdge_edgeOf {r : Relationship} (h : r.clash? = none) (position : Nat) :
    readEdge (edgeOf r) position = .ok (r.withId (.int position)) := by
  have hproperties : readProperties (.map
      (r.properties.entries.map fun e => (.text e.1, e.2.toValue))) = .ok r.properties :=
    readProperties_toValue r.properties
  have htruth : (Value.text r.type).truth? = some true := by
    simp [Value.truth?, Value.isTruthyPlain, r.type_ne_empty]
  have hparts : Relationship.ofParts? (.int position) r.type r.source r.target
      (r.properties.entries.map fun e => (.text e.1, e.2.toValue)) =
        .ok (r.withId (.int position)) := by
    rw [Relationship.ofParts?, hproperties, readType_text r.type_ne_empty]
    rfl
  unfold readEdge edgeOf Relationship.attributeList
  simp only [find?_attributesOf (Relationship.typeKey_notMem h),
    erase_attributesOf (Relationship.typeKey_notMem h), Option.getD_some, htruth,
    Value.foreignText?_text, Ident.ofForeign?_toValue]
  exact hparts

end Network

/-! ### Reading the graph -/

lemma Relationship.ids_numbered (rs : List Relationship) :
    (numbered rs).map Relationship.id = (List.range rs.length).map fun (i : Nat) => .int i := by
  rw [numbered, List.map_map, List.range_eq_range', ← List.zipIdx_map_snd 0 rs, List.map_map]
  rfl

lemma Relationship.length_numbered (rs : List Relationship) :
    (numbered rs).length = rs.length := by
  rw [numbered, List.length_map, List.length_zipIdx]

namespace Snapshot

variable {s : Snapshot}

/-- The graph with its relationships grouped and numbered. -/
def regrouped (s : Snapshot) : Snapshot where
  nodes := s.nodes
  relationships := Relationship.numbered s.grouped
  consistent := by
    refine ⟨s.consistent.nodeIds, ?_, fun q hq => ?_⟩
    · rw [Relationship.ids_numbered]
      exact List.nodup_range.map fun i j hij => by simpa using hij
    · obtain ⟨⟨r, i⟩, hri, rfl⟩ := List.mem_map.1 hq
      exact s.consistent.endpoints r (s.perm_grouped.mem_iff.1 (List.fst_mem_of_mem_zipIdx hri))

lemma length_regrouped (s : Snapshot) :
    s.regrouped.relationships.length = s.relationships.length :=
  (Relationship.length_numbered s.grouped).trans s.perm_grouped.length_eq

/-- Reading a rendered graph groups and numbers its relationships and changes nothing else. -/
theorem toSnapshot?_rendered (h : s.clash? = none) :
    (rendered s.nodes s.relationships).toSnapshot? = .ok s.regrouped := by
  obtain ⟨hnodes, hrels⟩ := clash?_eq_none_iff.1 h
  have hreadNodes : (rendered s.nodes s.relationships).vertices.mapM readVertex =
      .ok s.nodes := by
    rw [vertices_rendered s.consistent.nodeIds]
    exact (mapM_map_eq_ok fun n hn => readVertex_vertexOf (hnodes n hn)).trans
      (congrArg Except.ok (List.map_id s.nodes))
  have hreadRels : ((rendered s.nodes s.relationships).edges.zipIdx.mapM
      fun p => readEdge p.1 p.2) = .ok s.regrouped.relationships := by
    rw [s.edges_rendered, List.zipIdx_map]
    refine mapM_map_eq_ok fun p hp => readEdge_edgeOf (hrels p.1 ?_) p.2
    exact s.perm_grouped.mem_iff.1 (List.fst_mem_of_mem_zipIdx hp)
  have hparts : Snapshot.ofParts? s.nodes s.regrouped.relationships = .ok s.regrouped :=
    ofParts?_eq_ok_iff.2 ⟨rfl, rfl⟩
  exact bind_eq_ok_iff.2 ⟨_, hreadNodes, bind_eq_ok_iff.2 ⟨_, hreadRels, hparts⟩⟩

/-! ### The graph that is read -/

/-- Every relationship has its counterpart at the position to which grouping brings it. -/
lemma exists_equiv_regrouped (s : Snapshot) :
    ∃ e : s.RelationshipIn ≃ s.regrouped.RelationshipIn,
      ∀ r, (e r).1 = r.1.withId (.int (s.grouped.idxOf r.1)) := by
  have hmem (r : s.RelationshipIn) : r.1 ∈ s.grouped := s.perm_grouped.mem_iff.2 r.2
  let f (r : s.RelationshipIn) : s.regrouped.RelationshipIn :=
    ⟨r.1.withId (.int (s.grouped.idxOf r.1)), List.mem_map.2
      ⟨(r.1, s.grouped.idxOf r.1), List.mem_zipIdx_iff_getElem?.2 (List.getElem?_idxOf (hmem r)),
        rfl⟩⟩
  -- positions tell the relationships apart
  have hinj : Function.Injective f := by
    intro r q hrq
    have hid : Ident.int (s.grouped.idxOf r.1) = .int (s.grouped.idxOf q.1) :=
      congrArg (fun p : s.regrouped.RelationshipIn => p.1.id) hrq
    have hidx : s.grouped.idxOf r.1 = s.grouped.idxOf q.1 := by simpa using hid
    exact Subtype.ext ((List.idxOf_inj (hmem r)).1 hidx)
  have hcard : Nat.card s.regrouped.RelationshipIn ≤ Nat.card s.RelationshipIn := by
    rw [card_relationshipIn, card_relationshipIn, length_regrouped]
  exact ⟨.ofBijective f (hinj.bijective_of_nat_card_le hcard), fun _ => rfl⟩

lemma nonempty_isomorphism_regrouped (s : Snapshot) : Nonempty (Isomorphism s.regrouped s) := by
  obtain ⟨e, he⟩ := s.exists_equiv_regrouped
  refine ⟨⟨.refl _, e, fun n => n.1.equivalent_refl, fun r => ?_, fun r n h => ?_, fun r n h => ?_⟩⟩
  · rw [he]
    exact r.1.equivalent_refl
  · rw [he]
    exact h
  · rw [he]
    exact h

end Snapshot

/-- The events of a reading do not change its result. -/
lemma Network.result_readSnapshot (g : Network) : g.readSnapshot.run.result = g.toSnapshot? := by
  rw [readSnapshot, Attempt.result_bind]
  cases g.toSnapshot? <;> rfl

/-- A graph that can be rendered is read back with the same nodes and with the same relationships,
grouped by what they connect and numbered; so it passes for the graph that it was. -/
theorem readSnapshot_of_ofSnapshot? {s : Snapshot} {g : Network} (h : ofSnapshot? s = .ok g) :
    ∃ t, g.readSnapshot.run.result = .ok t ∧
      t.nodes = s.nodes ∧
      t.relationships.length = s.relationships.length ∧
      t.relationships.map Relationship.id =
        (List.range s.relationships.length).map (fun (i : Nat) => .int i) ∧
      t.relationships = s.grouped.zipIdx.map (fun (r, i) => r.withId (.int i)) ∧
      (∃ e : s.RelationshipIn ≃ t.RelationshipIn, ∀ r,
        (e r).1.type = r.1.type ∧ (e r).1.source = r.1.source ∧ (e r).1.target = r.1.target ∧
          (e r).1.properties = r.1.properties) ∧
      ∀ arrangement settings,
        (∃ m, (assertSameGraphArranged arrangement s t settings).run.result = .ok m) ∧
        ∃ m, (assertSameGraphArranged arrangement t s settings).run.result = .ok m := by
  obtain ⟨hclash, rfl⟩ := ofSnapshot?_eq_ok_iff.1 h
  have hids : s.regrouped.relationships.map Relationship.id =
      (List.range s.relationships.length).map (fun (i : Nat) => .int i) := by
    rw [← s.perm_grouped.length_eq]
    exact Relationship.ids_numbered s.grouped
  refine ⟨s.regrouped, ?_, rfl, s.length_regrouped, hids, rfl, ?_, fun arrangement settings => ?_⟩
  · rw [result_readSnapshot]
    exact Snapshot.toSnapshot?_rendered hclash
  · obtain ⟨e, he⟩ := s.exists_equiv_regrouped
    refine ⟨e, fun r => ?_⟩
    rw [he]
    exact ⟨rfl, rfl, rfl, rfl⟩
  · obtain ⟨iso⟩ := s.nonempty_isomorphism_regrouped
    obtain ⟨m, hm, -⟩ := iso.symm.exists_assertSameGraph_eq_ok arrangement settings
    obtain ⟨m', hm', -⟩ := iso.exists_assertSameGraph_eq_ok arrangement settings
    exact ⟨⟨m, hm⟩, m', hm'⟩

/-- Two nodes whose identifiers look alike, with parallel relationships and a loop. -/
def tangled : Snapshot where
  nodes := [⟨.text "1", .ofList ["A:B", ""], .ofList [("id", .scalar (.text "1"))]⟩,
    ⟨.int 1, .empty, .empty⟩]
  relationships := [⟨.int 7, "KNOWS", .int 1, .text "1", .empty, by decide⟩,
    ⟨.text "7", "KNOWS", .int 1, .int 1, .empty, by decide⟩,
    ⟨.int 8, "KNOWS", .int 1, .text "1", .ofList [("since", .scalar (.number (.int 2001)))],
      by decide⟩,
    ⟨.int 9, "OWNS", .text "1", .int 1, .empty, by decide⟩]
  consistent := ⟨by decide, by decide, by decide⟩

theorem readSnapshot_of_ofSnapshot?_tangled :
    ofSnapshot? tangled = .ok (rendered tangled.nodes tangled.relationships) ∧
    ∃ t, (rendered tangled.nodes tangled.relationships).readSnapshot.run.result = .ok t ∧
      t.nodes = tangled.nodes ∧
      t.relationships.map (fun r => (r.id, r.source, r.target)) =
        [(.int 0, .text "1", .int 1), (.int 1, .int 1, .text "1"), (.int 2, .int 1, .text "1"),
          (.int 3, .int 1, .int 1)] := by
  have h : ofSnapshot? tangled = .ok (rendered tangled.nodes tangled.relationships) :=
    ofSnapshot?_eq_ok_iff.2 ⟨rfl, rfl⟩
  obtain ⟨t, ht, hnodes, -, -, hrels, -⟩ := readSnapshot_of_ofSnapshot? h
  refine ⟨h, t, ht, hnodes, ?_⟩
  rw [hrels]
  decide

end PropertyGraph
