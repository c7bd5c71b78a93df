/-
# Networks stay in order

A network that is built from nothing is in order (`Network.WellFormed`): vertices have numbers of
their own, the ends of a link name vertices that are there, two links never run between the same
vertices, and every link has an edge.  Each step of a change preserves this, hence so does a change
(`Network.WellFormed.apply`) and so do changes one after another (`Network.WellFormed.applyAll`).

The ends of a link keep the values by which its vertices were named when it was created.  Such a
value names the vertex without being its name: all that is known is that the two are the same key
(`Network.Names`).
-/
import Mathlib.Data.List.Nodup
import PropertyGraph.Proofs.Network.Steps

namespace PropertyGraph

/-! ### Links between the same vertices -/

namespace Link

variable {directed : Bool} {u v : Nat} {l l' : Link}

lemma joins_iff : l.joins directed u v = true ↔
    (l.source.slot = u ∧ l.target.slot = v) ∨
      (directed = false ∧ l.source.slot = v ∧ l.target.slot = u) := by
  simp [joins, and_assoc]

lemma joins_comm : l.joins directed l'.source.slot l'.target.slot =
    l'.joins directed l.source.slot l.target.slot := by
  rw [Bool.eq_iff_iff, joins_iff, joins_iff]
  grind

/-- Two links that run between some vertices run between the same. -/
lemma joins_of_joins (h : l.joins directed u v = true) (h' : l'.joins directed u v = true) :
    l'.joins directed l.source.slot l.target.slot = true := by
  rw [joins_iff] at h h' ⊢
  grind

end Link

namespace Network

/-- A vertex is named by an end of a link: it has the number of the end, and its name is the value
kept there or the same key. -/
def Names (g : Network) (e : Endpoint) : Prop :=
  ∃ v ∈ g.vertices, v.slot = e.slot ∧ (v.name = e.name ∨ (v.name == e.name) = true)

/-- What holds of every network that is built from nothing. -/
structure WellFormed (g : Network) : Prop where
  /-- Vertices have numbers of their own. -/
  slots : (g.vertices.map Vertex.slot).Nodup
  /-- The number of the next vertex is a new one. -/
  slots_lt : ∀ v ∈ g.vertices, v.slot < g.nextSlot
  /-- The ends of a link are there. -/
  ends : ∀ l ∈ g.links, g.Names l.source ∧ g.Names l.target
  /-- Two links do not run between the same vertices. -/
  apart : g.links.Pairwise fun l l' =>
    l'.joins g.directed l.source.slot l.target.slot = false
  /-- A link has an edge. -/
  nonempty : ∀ l ∈ g.links, l.edges.entries ≠ []

lemma wellFormed_empty (directed parallel : Bool) : (empty directed parallel).WellFormed where
  slots := .nil
  slots_lt _ hv := absurd hv List.not_mem_nil
  ends _ hl := absurd hl List.not_mem_nil
  apart := .nil
  nonempty _ hl := absurd hl List.not_mem_nil

variable {g g' : Network} {name : Value} {attributes : List (Value × Value)}

/-! ### Steps that leave the links alone -/

lemma Names.withVertex {e : Endpoint} (h : g.Names e) (name : Value) :
    (g.withVertex name).Names e := by
  obtain ⟨v, hv, hslot, hname⟩ := h
  exact ⟨v, List.mem_append_left _ hv, hslot, hname⟩

lemma names_withVertex : (g.withVertex name).Names ⟨g.nextSlot, name⟩ :=
  ⟨_, List.mem_append_right _ List.mem_cons_self, rfl, .inl rfl⟩

lemma names_of_slot? {slot : Nat} (h : g.slot? name = some slot) : g.Names ⟨slot, name⟩ := by
  obtain ⟨v, hv, rfl⟩ := Option.map_eq_some_iff.1 h
  have hname : (v.name == name) = true := by simpa using List.find?_some hv
  exact ⟨v, List.mem_of_find?_eq_some hv, rfl, .inr hname⟩

lemma WellFormed.withVertex (h : g.WellFormed) (name : Value) : (g.withVertex name).WellFormed where
  slots := by
    -- all numbers so far are below the new one
    rw [Network.withVertex, List.map_append, List.map_cons, List.map_nil]
    refine List.nodup_append.2 ⟨h.slots, List.nodup_singleton _, ?_⟩
    rintro a ha b hb rfl
    obtain ⟨v, hv, rfl⟩ := List.mem_map.1 ha
    exact Nat.ne_of_lt (h.slots_lt v hv) (List.mem_singleton.1 hb)
  slots_lt v hv := by
    rcases List.mem_append.1 hv with hv | hv
    · exact Nat.lt_succ_of_lt (h.slots_lt v hv)
    · rw [List.mem_singleton.1 hv]
      exact Nat.lt_succ_self _
  ends l hl := ⟨(h.ends l hl).1.withVertex name, (h.ends l hl).2.withVertex name⟩
  apart := h.apart
  nonempty := h.nonempty

lemma map_slot_writeVertex (g : Network) (slot : Nat) (attributes : List (Value × Value)) :
    (g.writeVertex slot attributes).vertices.map Vertex.slot = g.vertices.map Vertex.slot := by
  rw [writeVertex, List.map_map]
  exact List.map_congr_left fun v _ => Vertex.slot_write

lemma Names.writeVertex {e : Endpoint} (h : g.Names e) (slot : Nat)
    (attributes : List (Value × Value)) : (g.writeVertex slot attributes).Names e := by
  obtain ⟨v, hv, hslot, hname⟩ := h
  exact ⟨v.write slot attributes, List.mem_map_of_mem hv, by simpa using hslot,
    by simpa using hname⟩

lemma WellFormed.writeVertex (h : g.WellFormed) (slot : Nat)
    (attributes : List (Value × Value)) : (g.writeVertex slot attributes).WellFormed where
  slots := by
    rw [map_slot_writeVertex]
    exact h.slots
  slots_lt v hv := by
    have hslot := List.mem_map_of_mem (f := Vertex.slot) hv
    rw [map_slot_writeVertex] at hslot
    obtain ⟨w, hw, hwv⟩ := List.mem_map.1 hslot
    rw [← hwv]
    exact h.slots_lt w hw
  ends l hl := ⟨(h.ends l hl).1.writeVertex slot attributes,
    (h.ends l hl).2.writeVertex slot attributes⟩
  apart := h.apart
  nonempty := h.nonempty

/-! ### Steps at the links -/

lemma entries_writeEdge_ne_nil (edges : OrderedMap Value Attributes) (key : Value)
    (attributes : List (Value × Value)) : (writeEdge edges key attributes).entries ≠ [] := by
  intro h
  have hkeys : (writeEdge edges key attributes).keys = [] := by
    rw [OrderedMap.keys, h, List.map_nil]
  rw [writeEdge, OrderedMap.keys_insert] at hkeys
  split at hkeys
  · next hcontains =>
    obtain ⟨e, he, -⟩ := List.any_eq_true.1 hcontains
    exact List.ne_nil_of_mem (List.mem_map_of_mem he) hkeys
  · simp at hkeys

/-- Links may go, and they may get other edges, as long as they keep their ends. -/
lemma WellFormed.relink (h : g.WellFormed) {f : Link → Option Link}
    (hends : ∀ l l', f l = some l' → l'.source = l.source ∧ l'.target = l.target)
    (hedges : ∀ l ∈ g.links, ∀ l', f l = some l' → l'.edges.entries ≠ []) :
    ({ g with links := g.links.filterMap f } : Network).WellFormed where
  slots := h.slots
  slots_lt := h.slots_lt
  ends l' hl' := by
    obtain ⟨l, hl, hf⟩ := List.mem_filterMap.1 hl'
    rw [(hends l l' hf).1, (hends l l' hf).2]
    exact h.ends l hl
  apart := by
    refine List.pairwise_filterMap.2 (h.apart.imp fun {l k} hlk l' hl' k' hk' => ?_)
    rw [Link.joins, (hends l l' hl').1, (hends l l' hl').2, (hends k k' hk').1, (hends k k' hk').2]
    exact hlk
  nonempty l' hl' := by
    obtain ⟨l, hl, hf⟩ := List.mem_filterMap.1 hl'
    exact hedges l hl l' hf

lemma WellFormed.connect (h : g.WellFormed) {source target : Endpoint} (hs : g.Names source)
    (ht : g.Names target) (attributes : List (Value × Value)) (key : Option Value) :
    (g.connect source target attributes key).WellFormed := by
  unfold Network.connect
  cases hlink : g.link? source.slot target.slot with
  | none =>
    -- a new link: none of the old ones runs between its ends
    have hnone : ∀ l ∈ g.links, l.joins g.directed source.slot target.slot = false := fun l hl =>
      Bool.eq_false_iff.2 (List.find?_eq_none.1 hlink l hl)
    refine ⟨h.slots, h.slots_lt, ?_, ?_, ?_⟩
    · exact List.forall_mem_append.2 ⟨h.ends, List.forall_mem_singleton.2 ⟨hs, ht⟩⟩
    · refine List.pairwise_append.2 ⟨h.apart, List.pairwise_singleton _ _, fun l hl l' hl' => ?_⟩
      rw [List.mem_singleton.1 hl', Link.joins_comm]
      exact hnone l hl
    · exact List.forall_mem_append.2
        ⟨h.nonempty, List.forall_mem_singleton.2 (entries_writeEdge_ne_nil _ _ _)⟩
  | some link =>
    -- the link is there: nothing but its edges changes
    simp only
    rw [← List.filterMap_eq_map]
    refine h.relink (fun l l' hl' => ?_) fun l hl l' hl' => ?_
    · rw [Function.comp_apply, Option.some.injEq] at hl'
      subst hl'
      split <;> exact ⟨rfl, rfl⟩
    · rw [Function.comp_apply, Option.some.injEq] at hl'
      subst hl'
      split
      · exact entries_writeEdge_ne_nil _ _ _
      · exact h.nonempty l hl

lemma WellFormed.replaceEdges (h : g.WellFormed) (u v : Nat)
    (edges : OrderedMap Value Attributes) : (g.replaceEdges u v edges).WellFormed := by
  refine h.relink (fun l l' hl' => ?_) fun l hl l' hl' => ?_
  · split at hl'
    · obtain rfl := Option.some.inj hl'
      exact ⟨rfl, rfl⟩
    · split at hl'
      · simp at hl'
      · obtain rfl := Option.some.inj hl'
        exact ⟨rfl, rfl⟩
  · split at hl'
    · obtain rfl := Option.some.inj hl'
      exact h.nonempty l hl
    · split at hl'
      · simp at hl'
      · next hsize =>
        obtain rfl := Option.some.inj hl'
        exact fun hnil => hsize (List.length_eq_zero_iff.2 hnil)

lemma WellFormed.without (h : g.WellFormed) (slot : Nat) : (g.without slot).WellFormed where
  slots := h.slots.sublist (List.filter_sublist.map _)
  slots_lt v hv := h.slots_lt v (List.mem_filter.1 hv).1
  ends l hl := by
    obtain ⟨hl, htouches⟩ := List.mem_filter.1 hl
    have hstays {e : Endpoint} (he : g.Names e) (hne : e.slot ≠ slot) :
        (g.without slot).Names e := by
      obtain ⟨v, hv, hslot, hname⟩ := he
      exact ⟨v, List.mem_filter.2 ⟨hv, by simpa [hslot] using hne⟩, hslot, hname⟩
    have hne : l.source.slot ≠ slot ∧ l.target.slot ≠ slot := by
      simpa [Link.touches] using htouches
    exact ⟨hstays (h.ends l hl).1 hne.1, hstays (h.ends l hl).2 hne.2⟩
  apart := h.apart.filter _
  nonempty l hl := h.nonempty l (List.mem_filter.1 hl).1

/-! ### Changes -/

/-- A value that has been looked up, or added, names its vertex, and no other vertex is lost. -/
lemma WellFormed.ensure (h : g.WellFormed) {slot : Nat} (hg : g.ensure name = .ok (g', slot)) :
    g'.WellFormed ∧ g'.Names ⟨slot, name⟩ ∧ ∀ e, g.Names e → g'.Names e := by
  obtain ⟨hslot, rfl⟩ | ⟨-, rfl, rfl⟩ := ensure_eq_ok hg
  · exact ⟨h, names_of_slot? hslot, fun _ he => he⟩
  · exact ⟨h.withVertex name, names_withVertex, fun _ he => he.withVertex name⟩

/-- A change leaves a network in order. -/
theorem WellFormed.apply (h : g.WellFormed) {change : Change} (hg : g.apply change = .ok g') :
    g'.WellFormed := by
  cases change with
  | addVertex name attributes =>
    obtain ⟨g₁, slot, hensure, rfl⟩ := addVertex_eq_ok_iff.1 hg
    exact (h.ensure hensure).1.writeVertex slot attributes
  | addEdge source target attributes key =>
    obtain ⟨g₁, u, hsource, g₂, v, htarget, -, rfl⟩ := addEdge_eq_ok_iff.1 hg
    obtain ⟨h₁, hu, -⟩ := h.ensure hsource
    obtain ⟨h₂, hv, hstay⟩ := h₁.ensure htarget
    exact h₂.connect (hstay _ hu) hv attributes key
  | removeVertex name =>
    obtain ⟨slot, rfl⟩ := removeVertex_eq_ok hg
    exact h.without slot
  | removeEdge source target key =>
    obtain ⟨u, v, edges, rfl⟩ := removeEdge_eq_ok hg
    exact h.replaceEdges u v edges

/-- Changes one after another leave a network in order. -/
theorem WellFormed.applyAll (h : g.WellFormed) {changes : List Change}
    (hg : g.applyAll changes = .ok g') : g'.WellFormed := by
  induction changes generalizing g with
  | nil =>
    obtain rfl := Except.ok.inj hg
    exact h
  | cons change changes ih =>
    rw [Network.applyAll, List.foldlM_cons] at hg
    obtain ⟨g₁, hchange, hchanges⟩ := bind_eq_ok_iff.1 hg
    exact ih (h.apply hchange) hchanges

end Network

end PropertyGraph
