/-
# Going through the edges

Going through the edges of a network is going through its arcs: an arc is a link as it is met from
one of its ends, and its edges are met one after another (`Network.edges_eq_flatMap_arcs`).  Each
vertex is visited once, with the vertices visited before being passed (`Network.visits`).

The arcs of a rendered graph are its connections, by their starts in the order of the nodes, then in
the order in which the connections first appear among the relationships.  So the edges are the
relationships grouped accordingly (`Snapshot.grouped`, `Snapshot.edges_rendered`).
-/
import PropertyGraph.Proofs.Network.Rendering

namespace PropertyGraph

/-- A link as it is met from one of its ends. -/
structure Arc where
  /-- The vertex from which the link is met. -/
  source : Vertex
  /-- The other end. -/
  target : Endpoint
  /-- The edges of the link. -/
  edges : OrderedMap Value Attributes

namespace Network

/-- The edges that are met together with an arc. -/
def edgesOf (a : Arc) : List Edge :=
  a.edges.entries.map fun e => ⟨a.source.name, a.target.name, e.1, e.2⟩

/-- Vertices in order, each with the ones that have been passed when it is visited. -/
def visits (passed : List Nat) : List Vertex → List (List Nat × Vertex)
  | [] => []
  | v :: vs => (passed, v) :: visits (v.slot :: passed) vs

/-- The arcs met at a vertex. -/
def arcsAt (g : Network) (visit : List Nat × Vertex) : List Arc :=
  g.links.filterMap fun l =>
    (neighbour? g.directed visit.1 visit.2.slot l).map fun other => ⟨visit.2, other, l.edges⟩

/-- The arcs met when going through a network. -/
def arcs (g : Network) : List Arc := (visits [] g.vertices).flatMap g.arcsAt

@[simp] lemma map_snd_visits (passed : List Nat) (vs : List Vertex) :
    (visits passed vs).map Prod.snd = vs := by
  induction vs generalizing passed with
  | nil => rfl
  | cons v vs ih => rw [visits, List.map_cons, ih]

lemma mem_vertices_of_mem_visits {g : Network} {visit : List Nat × Vertex}
    (h : visit ∈ visits [] g.vertices) : visit.2 ∈ g.vertices := by
  rw [← map_snd_visits [] g.vertices]
  exact List.mem_map_of_mem h

lemma edgesAt_eq (g : Network) (passed : List Nat) (v : Vertex) :
    g.edgesAt passed v = (g.arcsAt (passed, v)).flatMap edgesOf := by
  unfold edgesAt arcsAt
  induction g.links with
  | nil => rfl
  | cons l ls ih =>
    rw [List.flatMap_cons, ih, List.filterMap_cons]
    cases neighbour? g.directed passed v.slot l <;> rfl

/-- The edges of a network are those of its arcs. -/
theorem edges_eq_flatMap_arcs (g : Network) : g.edges = g.arcs.flatMap edgesOf := by
  have hfrom (passed : List Nat) (vs : List Vertex) :
      g.edgesFrom passed vs = ((visits passed vs).flatMap g.arcsAt).flatMap edgesOf := by
    induction vs generalizing passed with
    | nil => rfl
    | cons v vs ih =>
      rw [edgesFrom, ih, edgesAt_eq, visits, List.flatMap_cons, List.flatMap_append]
  exact hfrom [] g.vertices

/-- What is met of a link does not depend on the vertices passed if edges have a direction. -/
lemma arcsAt_of_directed {g : Network} (h : g.directed = true) (visit : List Nat × Vertex) :
    g.arcsAt visit = (g.links.filter fun l => l.source.slot == visit.2.slot).map fun l =>
      ⟨visit.2, l.target, l.edges⟩ := by
  rw [← List.filterMap_eq_map, List.filterMap_filter, arcsAt]
  refine List.filterMap_congr fun l _ => ?_
  rw [neighbour?, h, if_pos rfl]
  split <;> rfl

/-- So the arcs are met vertex by vertex. -/
lemma arcs_of_directed {g : Network} (h : g.directed = true) :
    g.arcs = g.vertices.flatMap fun v => g.arcsAt ([], v) := by
  rw [← map_snd_visits [] g.vertices, List.flatMap_map, arcs]
  refine List.flatMap_congr fun p _ => ?_
  rw [arcsAt_of_directed h, arcsAt_of_directed h]

/-! ### The arcs of a rendered graph -/

section Rendered

variable {nodes : List Node} {rs : List Relationship}

/-- The vertex of a node. -/
def vertexOf (ids : List Ident) (n : Node) : Vertex :=
  ⟨ids.idxOf n.id, n.id.toValue, .ofList n.attributeList⟩

lemma vertices_rendered (h : (nodes.map Node.id).Nodup) :
    (rendered nodes rs).vertices = nodes.map (vertexOf (nodes.map Node.id)) := by
  refine List.ext_getElem (by simp [rendered]) fun i _ hi => ?_
  rw [List.length_map] at hi
  have hidx := h.idxOf_getElem i (by simpa using hi)
  rw [List.getElem_map] at hidx
  simp [rendered, vertexOf, hidx]

/-- The edge of a relationship. -/
def edgeOf (r : Relationship) : Edge :=
  ⟨r.source.toValue, r.target.toValue, r.id.toValue, .ofList r.attributeList⟩

/-- The arc that stands for a connection. -/
def arcBetween (ids : List Ident) (rs : List Relationship) (n : Node) (e : Ident × Ident) : Arc :=
  ⟨vertexOf ids n, (linkBetween ids rs e).target, (linkBetween ids rs e).edges⟩

lemma arcsAt_rendered {n : Node} (hn : n ∈ nodes) (passed : List Nat) :
    (rendered nodes rs).arcsAt (passed, vertexOf (nodes.map Node.id) n) =
      ((rs.map Relationship.ends).eraseDups.filter fun e => e.1 == n.id).map
        (arcBetween (nodes.map Node.id) rs n) := by
  have hn : n.id ∈ nodes.map Node.id := List.mem_map_of_mem hn
  have hsource (e : Ident × Ident) : ((linkBetween (nodes.map Node.id) rs e).source.slot ==
      (vertexOf (nodes.map Node.id) n).slot) = (e.1 == n.id) := by
    rw [Bool.eq_iff_iff, beq_iff_eq, beq_iff_eq, eq_comm, linkBetween, vertexOf,
      List.idxOf_inj hn, eq_comm]
  rw [arcsAt_of_directed rfl, links_rendered, List.filter_map, List.map_map]
  congr 1
  exact List.filter_congr fun e _ => hsource e

lemma edgesOf_arcBetween {ids : List Ident} {n : Node} {e : Ident × Ident} (he : e.1 = n.id)
    (h : (rs.map Relationship.id).Nodup) :
    edgesOf (arcBetween ids rs n e) = (rs.filter fun r => r.ends == e).map edgeOf := by
  have hsub : ((rs.filter fun r => r.ends == e).map Relationship.id).Nodup :=
    h.sublist (List.filter_sublist.map _)
  rw [edgesOf, arcBetween, linkBetween, entries_edgeMap hsub, List.map_map]
  refine List.map_congr_left fun r hr => ?_
  obtain rfl : r.ends = e := by simpa using (List.mem_filter.1 hr).2
  simp only [Function.comp_apply, edgeOf, vertexOf, Relationship.ends] at he ⊢
  rw [he]

end Rendered

end Network

namespace Snapshot

open Network

variable (s : Snapshot)

/-- What is connected in a graph: by start in the order of the nodes, then by end in the order of
first appearance. -/
def connections : List (Ident × Ident) :=
  gatherBy Prod.fst s.nodeIds (s.relationships.map Relationship.ends).eraseDups

/-- The relationships grouped by what they connect, in order inside a group. -/
def grouped : List Relationship := gatherBy Relationship.ends s.connections s.relationships

lemma nodup_connections : s.connections.Nodup := by
  have hmem : ∀ e ∈ (s.relationships.map Relationship.ends).eraseDups, e.1 ∈ s.nodeIds := by
    intro e he
    obtain ⟨r, hr, rfl⟩ := List.mem_map.1 (List.mem_eraseDups.1 he)
    exact (s.consistent.endpoints r hr).1
  exact (perm_gatherBy s.consistent.nodeIds hmem).nodup_iff.2 (nodup_eraseDups _)

lemma mem_connections {r : Relationship} (hr : r ∈ s.relationships) :
    r.ends ∈ s.connections :=
  mem_gatherBy.2 ⟨List.mem_eraseDups.2 (List.mem_map_of_mem hr),
    (s.consistent.endpoints r hr).1⟩

/-- Grouping loses no relationship. -/
theorem perm_grouped : s.grouped.Perm s.relationships :=
  perm_gatherBy s.nodup_connections fun _ hr => s.mem_connections hr

/-- Each connection is met as an arc at the node where it starts. -/
lemma arcs_rendered : (rendered s.nodes s.relationships).arcs = s.nodes.flatMap fun n =>
    ((s.relationships.map Relationship.ends).eraseDups.filter fun e => e.1 == n.id).map
      (arcBetween s.nodeIds s.relationships n) := by
  rw [arcs_of_directed rfl, vertices_rendered s.consistent.nodeIds, List.flatMap_map]
  exact List.flatMap_congr fun n hn => arcsAt_rendered hn []

/-- Going through the edges of a rendered graph gives the relationships, grouped. -/
theorem edges_rendered :
    (rendered s.nodes s.relationships).edges = s.grouped.map edgeOf := by
  rw [edges_eq_flatMap_arcs, arcs_rendered, grouped, connections, gatherBy, gatherBy,
    List.flatMap_assoc, List.flatMap_assoc, List.map_flatMap, nodeIds, List.flatMap_map]
  -- node by node, and at each node connection by connection
  refine List.flatMap_congr fun n _ => ?_
  rw [List.flatMap_map, List.map_flatMap]
  refine List.flatMap_congr fun e he => ?_
  exact edgesOf_arcBetween (by simpa using (List.mem_filter.1 he).2) s.consistent.relationshipIds

end Snapshot

end PropertyGraph
