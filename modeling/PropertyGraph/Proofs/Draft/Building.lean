/-
# A draft as a network

The changes of a draft can be made one after another, and the network that they build is read as a
graph that is alike: its vertices are the nodes in order, and its edges the relationships in the
order in which they are met (`Draft.exists_network`).
-/
import PropertyGraph.Proofs.Draft.Alike
import PropertyGraph.Proofs.Draft.Elements
import PropertyGraph.Proofs.Network.Building

namespace PropertyGraph

open Network

lemma Relationship.map_description_numbered (rs : List Relationship) :
    (numbered rs).map description = rs.map description := by
  rw [numbered, List.map_map]
  exact map_zipIdx_eq_map fun _ _ _ => rfl

namespace Draft

variable (d : Draft)

/-- The nodes as vertices. -/
def vertexEntries : List VertexEntry := d.nodes.map fun n => (n.id, n.attributes)

/-- The relationships as edges. -/
def edgeEntries : List EdgeEntry :=
  d.relationships.map fun r => (r.source, r.target, r.attributes)

lemma changes_eq :
    d.changes = d.vertexEntries.map VertexEntry.change ++ d.edgeEntries.map EdgeEntry.change := by
  rw [changes, vertexEntries, edgeEntries, List.map_map, List.map_map]
  rfl

lemma names_vertexEntries : d.vertexEntries.map Prod.fst = d.graph.nodeIds := by
  rw [vertexEntries, List.map_map, Snapshot.nodeIds, graph, List.map_map]
  rfl

variable {d} {g : Network}

lemma readVertices_eq (h : g.Carries d.vertexEntries d.edgeEntries) :
    g.vertices.mapM readVertex = .ok d.graph.nodes := by
  have hvertices := h.vertices
  rw [vertexEntries, List.map_map, map_eq_map_iff_forall₂] at hvertices
  rw [mapM_eq_ok_iff_forall₂, graph, List.forall₂_map_right_iff]
  refine hvertices.imp fun v n hvn => ?_
  obtain ⟨slot, name, attributes⟩ := v
  obtain ⟨rfl, rfl⟩ := Prod.mk.inj hvn
  exact n.readVertex_eq

lemma exists_readEdges (h : g.Carries d.vertexEntries d.edgeEntries) :
    ∃ rs : List RelationshipDraft, rs.Perm d.relationships ∧
      (g.edges.zipIdx.mapM fun p => readEdge p.1 p.2) =
        .ok (Relationship.numbered (rs.map RelationshipDraft.relationship)) := by
  have hperm := h.perm_edges
  rw [edgeEntries, List.map_map] at hperm
  obtain ⟨rs, hrs, hmap⟩ := exists_perm_of_perm_map hperm
  refine ⟨rs, hrs, ?_⟩
  have hedges : List.Forall₂ (fun e r => ∀ i : Nat,
      readEdge e i = .ok (r.relationship.withId (.int i))) g.edges rs := by
    refine (map_eq_map_iff_forall₂.1 hmap.symm).imp fun e r her i => ?_
    obtain ⟨source, target, key, attributes⟩ := e
    simp only [Function.comp_apply, Edge.content, Prod.mk.injEq] at her
    obtain ⟨rfl, rfl, rfl⟩ := her
    exact r.readEdge_eq key i
  rw [mapM_zipIdx_eq_ok 0 hedges, Relationship.numbered, List.zipIdx_map, List.map_map]
  rfl

/-- A draft can be built as a network, which is read as a graph that is alike. -/
theorem exists_network (d : Draft) :
    ∃ g s, (empty true true).applyAll d.changes = .ok g ∧ g.toSnapshot? = .ok s ∧
      s.Alike d.graph := by
  have hnames := d.names_vertexEntries
  have hends : ∀ e ∈ d.edgeEntries,
      e.1 ∈ d.vertexEntries.map Prod.fst ∧ e.2.1 ∈ d.vertexEntries.map Prod.fst := by
    rw [hnames, edgeEntries, List.forall_mem_map]
    intro r hr
    exact d.graph.consistent.endpoints _ (List.mem_map_of_mem hr)
  obtain ⟨g, hg, hcarries⟩ := exists_carries (hnames ▸ d.graph.consistent.nodeIds) hends
  rw [← d.changes_eq] at hg
  obtain ⟨rs, hrs, hreadEdges⟩ := exists_readEdges hcarries
  have hrels : ((Relationship.numbered (rs.map RelationshipDraft.relationship)).map
      Relationship.description).Perm (d.graph.relationships.map Relationship.description) := by
    rw [Relationship.map_description_numbered, graph]
    exact (hrs.map _).map _
  have hids : ((Relationship.numbered (rs.map RelationshipDraft.relationship)).map
      Relationship.id).Nodup := by
    rw [Relationship.ids_numbered]
    exact List.nodup_range.map fun i j hij => by simpa using hij
  obtain ⟨s, hs, halike⟩ := Snapshot.exists_alike rfl hrels hids
  refine ⟨g, s, hg, ?_, halike⟩
  have hparts : Snapshot.ofParts? d.graph.nodes
      (Relationship.numbered (rs.map RelationshipDraft.relationship)) = .ok s := by
    rw [Snapshot.ofParts?, hs]
    rfl
  exact bind_eq_ok_iff.2 ⟨_, readVertices_eq hcarries, bind_eq_ok_iff.2 ⟨_, hreadEdges, hparts⟩⟩

end Draft

end PropertyGraph
