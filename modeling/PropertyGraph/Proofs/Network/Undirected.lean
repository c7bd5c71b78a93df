/-
# Edges without a direction

An edge without a direction is met once, from the vertex of its two ends that was added first, and
told from there to the other end.  For vertices are numbered in the order in which they are added
(`Network.Undirected`), so the vertices passed before some vertex are the ones with a lower number
(`Network.Undirected.mem_passed_iff`), and of every link exactly one arc is met
(`Network.Undirected.arcsAt_eq`).  Hence going through the edges of a network finds each edge that
it holds once, told from its first to its second end (`Network.Undirected.perm_edges`).
-/
import PropertyGraph.Proofs.Network.Building
import PropertyGraph.Proofs.Network.Ends

namespace PropertyGraph

namespace Link

/-- The end of a link at the vertex that was added first. -/
def first (l : Link) : Endpoint := if l.source.slot ≤ l.target.slot then l.source else l.target

/-- The other end of a link. -/
def second (l : Link) : Endpoint := if l.source.slot ≤ l.target.slot then l.target else l.source

lemma first_second_cases (l : Link) :
    l.first = l.source ∧ l.second = l.target ∨ l.first = l.target ∧ l.second = l.source := by
  unfold first second
  split
  · exact .inl ⟨rfl, rfl⟩
  · exact .inr ⟨rfl, rfl⟩

lemma slot_first_le (l : Link) : l.first.slot ≤ l.second.slot := by
  unfold first second
  split <;> omega

end Link

namespace Network

/-- Edges have no direction, and vertices stand in the order in which they were numbered. -/
structure Undirected (g : Network) : Prop where
  directed : g.directed = false
  ascending : (g.vertices.map Vertex.slot).Pairwise (· < ·)

variable {g g' : Network} {name : Value}

/-! ### Changes keep the order of the vertices -/

namespace Undirected

lemma empty (parallel : Bool) : (Network.empty false parallel).Undirected := ⟨rfl, .nil⟩

lemma withVertex (h : g.Undirected) (hwf : g.WellFormed) (name : Value) :
    (g.withVertex name).Undirected where
  directed := h.directed
  ascending := by
    rw [Network.withVertex, List.map_append, List.map_singleton]
    refine List.pairwise_append.2 ⟨h.ascending, List.pairwise_singleton _ _, ?_⟩
    intro a ha b hb
    obtain ⟨v, hv, rfl⟩ := List.mem_map.1 ha
    rw [List.mem_singleton.1 hb]
    exact hwf.slots_lt v hv

lemma ensure (h : g.Undirected) (hwf : g.WellFormed) {slot : Nat}
    (hg : g.ensure name = .ok (g', slot)) : g'.Undirected := by
  obtain ⟨-, rfl⟩ | ⟨-, -, rfl⟩ := ensure_eq_ok hg
  · exact h
  · exact h.withVertex hwf name

lemma writeVertex (h : g.Undirected) (slot : Nat) (attributes : List (Value × Value)) :
    (g.writeVertex slot attributes).Undirected where
  directed := h.directed
  ascending := by
    rw [map_slot_writeVertex]
    exact h.ascending

lemma connect (h : g.Undirected) (source target : Endpoint) (attributes : List (Value × Value))
    (key : Option Value) : (g.connect source target attributes key).Undirected := by
  unfold Network.connect
  cases g.link? source.slot target.slot with
  | none => exact ⟨h.directed, h.ascending⟩
  | some _ => exact ⟨h.directed, h.ascending⟩

lemma without (h : g.Undirected) (slot : Nat) : (g.without slot).Undirected where
  directed := h.directed
  ascending := h.ascending.sublist (List.filter_sublist.map _)

lemma apply (h : g.Undirected) (hwf : g.WellFormed) {change : Change}
    (hg : g.apply change = .ok g') : g'.Undirected := by
  cases change with
  | addVertex name attributes =>
    obtain ⟨g₁, slot, hensure, rfl⟩ := addVertex_eq_ok_iff.1 hg
    exact (h.ensure hwf hensure).writeVertex slot attributes
  | addEdge source target attributes key =>
    obtain ⟨g₁, u, hsource, g₂, v, htarget, -, rfl⟩ := addEdge_eq_ok_iff.1 hg
    have h₁ := h.ensure hwf hsource
    have h₂ := h₁.ensure (hwf.ensure hsource).1 htarget
    exact h₂.connect _ _ attributes key
  | removeVertex name =>
    obtain ⟨slot, rfl⟩ := removeVertex_eq_ok hg
    exact h.without slot
  | removeEdge source target key =>
    obtain ⟨u, v, edges, rfl⟩ := removeEdge_eq_ok hg
    exact ⟨h.directed, h.ascending⟩

/-- Changes one after another keep the order of the vertices. -/
theorem applyAll (h : g.Undirected) (hwf : g.WellFormed) {changes : List Change}
    (hg : g.applyAll changes = .ok g') : g'.Undirected := by
  induction changes generalizing g with
  | nil =>
    obtain rfl := Except.ok.inj hg
    exact h
  | cons change changes ih =>
    rw [Network.applyAll, List.foldlM_cons] at hg
    obtain ⟨g₁, hchange, hchanges⟩ := bind_eq_ok_iff.1 hg
    exact ih (h.apply hwf hchange) (hwf.apply hchange) hchanges

end Undirected

/-! ### The arcs that are met -/

lemma exists_split_of_mem_visits {passed : List Nat} {vs : List Vertex} {visit : List Nat × Vertex}
    (h : visit ∈ visits passed vs) :
    ∃ before after, vs = before ++ visit.2 :: after ∧
      visit.1 = (before.map Vertex.slot).reverse ++ passed := by
  induction vs generalizing passed with
  | nil => cases h
  | cons v vs ih =>
    rcases List.mem_cons.1 h with rfl | h
    · exact ⟨[], vs, rfl, rfl⟩
    · obtain ⟨before, after, rfl, hpassed⟩ := ih h
      refine ⟨v :: before, after, rfl, ?_⟩
      rw [hpassed, List.map_cons, List.reverse_cons, List.append_assoc]
      rfl

namespace Undirected

variable (h : g.Undirected) (hwf : g.WellFormed) {visit : List Nat × Vertex}
  (hvisit : visit ∈ visits [] g.vertices)

include h hvisit

/-- When a vertex is visited, the ones with a lower number have been passed. -/
lemma mem_passed_iff {slot : Nat} (hslot : slot ∈ g.vertices.map Vertex.slot) :
    slot ∈ visit.1 ↔ slot < visit.2.slot := by
  obtain ⟨before, after, hvertices, hpassed⟩ := exists_split_of_mem_visits hvisit
  have hascending := h.ascending
  rw [hvertices, List.map_append, List.map_cons] at hascending hslot
  obtain ⟨-, hafter, hbefore⟩ := List.pairwise_append.1 hascending
  rw [hpassed, List.append_nil, List.mem_reverse]
  constructor
  · intro hmem
    exact hbefore slot hmem _ List.mem_cons_self
  · intro hlt
    rcases List.mem_append.1 hslot with hmem | hmem
    · exact hmem
    · rcases List.mem_cons.1 hmem with rfl | hmem
      · omega
      · have hgt := (List.pairwise_cons.1 hafter).1 slot hmem
        omega

include hwf

/-- A vertex sees its neighbour along a link if it is the first end. -/
lemma neighbour?_eq {l : Link} (hl : l ∈ g.links) :
    neighbour? g.directed visit.1 visit.2.slot l =
      if l.first.slot == visit.2.slot then some l.second else none := by
  have hmem {e : Endpoint} (he : g.Names e) : e.slot ∈ g.vertices.map Vertex.slot := by
    obtain ⟨v, hv, hslot, -⟩ := he
    exact List.mem_map.2 ⟨v, hv, hslot⟩
  have hsource := h.mem_passed_iff hvisit (hmem (hwf.ends l hl).1)
  have htarget := h.mem_passed_iff hvisit (hmem (hwf.ends l hl).2)
  rw [h.directed, neighbour?, Link.first, Link.second]
  grind

/-- The arcs met at a vertex are the links that have it as their first end. -/
lemma arcsAt_eq : g.arcsAt visit =
    (g.links.filter fun l => l.first.slot == visit.2.slot).map fun l =>
      ⟨visit.2, l.second, l.edges⟩ := by
  rw [← List.filterMap_eq_map, List.filterMap_filter, arcsAt]
  refine List.filterMap_congr fun l hl => ?_
  rw [h.neighbour?_eq hwf hvisit hl]
  split <;> rfl

end Undirected

/-! ### The edges that are met -/

/-- The edges that a network holds, each with its link. -/
def stored (g : Network) : List (Link × Value × Attributes) :=
  g.links.flatMap fun l => l.edges.entries.map fun e => (l, e)

/-- An edge told from the first to the second end of its link. -/
def towardsSecond (p : Link × Value × Attributes) : Edge :=
  ⟨p.1.first.name, p.1.second.name, p.2.1, p.2.2⟩

/-- If all names are identifiers, the ends of links have the names of their vertices. -/
lemma WellFormed.bears (h : g.WellFormed) (hids : ∀ v ∈ g.names, ∃ i : Ident, v = i.toValue)
    {l : Link} (hl : l ∈ g.links) : Bears g.vertices l.source ∧ Bears g.vertices l.target := by
  have hbears {e : Endpoint} (he : g.Names e) (hid : ∃ i : Ident, e.name = i.toValue) :
      Bears g.vertices e := by
    obtain ⟨v, hv, hslot, hname⟩ := he
    refine ⟨v, hv, hslot, ?_⟩
    obtain ⟨i, hi⟩ := (forall_mem_names.1 hids).1 v hv
    obtain ⟨j, hj⟩ := hid
    rw [hi, hj, Ident.toValue_beq, decide_eq_true_iff] at hname
    rw [hi, hj]
    rcases hname with hname | hname
    · exact hname
    · rw [hname]
  obtain ⟨hsource, htarget⟩ := (forall_mem_names.1 hids).2 l hl
  exact ⟨hbears (h.ends l hl).1 hsource, hbears (h.ends l hl).2 htarget⟩

/-- Going through the edges finds every edge once, told from its first to its second end. -/
theorem Undirected.perm_edges (h : g.Undirected) (hwf : g.WellFormed)
    (hids : ∀ v ∈ g.names, ∃ i : Ident, v = i.toValue) :
    g.edges.Perm (g.stored.map towardsSecond) := by
  have hfirst {l : Link} (hl : l ∈ g.links) : Bears g.vertices l.first := by
    rcases l.first_second_cases with ⟨heq, -⟩ | ⟨heq, -⟩
    · exact heq ▸ (hwf.bears hids hl).1
    · exact heq ▸ (hwf.bears hids hl).2
  -- vertex by vertex, the links whose first end is there
  have hedges : g.edges = (gatherBy (fun l : Link => l.first.slot) (g.vertices.map Vertex.slot)
      g.links).flatMap fun l => l.edges.entries.map fun e => towardsSecond (l, e) := by
    conv_rhs => rw [← map_snd_visits [] g.vertices]
    rw [edges_eq_flatMap_arcs, arcs, gatherBy, List.map_map, List.flatMap_map, List.flatMap_assoc,
      List.flatMap_assoc]
    refine List.flatMap_congr fun visit hvisit => ?_
    rw [h.arcsAt_eq hwf hvisit, List.flatMap_map]
    refine List.flatMap_congr fun l hl => ?_
    obtain ⟨hl, hslot⟩ := List.mem_filter.1 hl
    obtain ⟨v, hv, hvslot, hvname⟩ := hfirst hl
    have hvisited : v = visit.2 := List.inj_on_of_nodup_map hwf.slots hv
      (mem_vertices_of_mem_visits hvisit) (hvslot.trans (beq_iff_eq.1 hslot))
    refine List.map_congr_left fun e _ => ?_
    rw [towardsSecond, ← hvname, hvisited]
  have hslots : ∀ l ∈ g.links, l.first.slot ∈ g.vertices.map Vertex.slot := by
    intro l hl
    obtain ⟨v, hv, hslot, -⟩ := hfirst hl
    exact List.mem_map.2 ⟨v, hv, hslot⟩
  have hstored : g.stored.map towardsSecond =
      g.links.flatMap fun l => l.edges.entries.map fun e => towardsSecond (l, e) := by
    rw [stored, List.map_flatMap]
    exact List.flatMap_congr fun l _ => List.map_map
  rw [hedges, hstored]
  exact (perm_gatherBy hwf.slots hslots).flatMap_right _

end Network

end PropertyGraph
