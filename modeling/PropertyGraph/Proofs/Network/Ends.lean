/-
# What the ends of an edge become

A vertex keeps the value by which it was first named, and each end of a link keeps the value by
which the link was created.  The two name the same vertex, since they are the same key, but they
need not become the same identifier: 1 and the double 1.0 are the same key, and the double becomes
the text "1.0".  Where an edge is met, its first end is told by the vertex and its second end by the
link.  So a relationship starts at the node of its vertex, and it ends there exactly if the value
kept by the link becomes the identifier of the vertex (`Network.attaches_iff`).

All values in use have been given in some change (`Network.forall_mem_names_applyAll`), so nothing
goes wrong if values that are the same key are given by names that become the same identifier.
-/
import PropertyGraph.Proofs.Network.FixedPoint

namespace PropertyGraph

/-! ### Names that have been given -/

/-- The values by which a change names vertices that are to be there after it. -/
def Change.names : Change → List Value
  | .addVertex name _ => [name]
  | .addEdge source target _ _ => [source, target]
  | .removeVertex _ | .removeEdge _ _ _ => []

namespace Network

variable {g g' : Network} {name : Value} {P : Value → Prop}

lemma forall_mem_names : (∀ v ∈ g.names, P v) ↔
    (∀ x ∈ g.vertices, P x.name) ∧ ∀ l ∈ g.links, P l.source.name ∧ P l.target.name := by
  simp only [names, List.forall_mem_append, List.forall_mem_map, List.forall_mem_flatMap,
    List.forall_mem_cons, List.not_mem_nil, false_imp_iff, implies_true, and_true]

/-- A value that is looked up or added is the only one that can be new among the names. -/
lemma forall_mem_names_ensure {slot : Nat} (h : ∀ v ∈ g.names, P v) (hname : P name)
    (hg : g.ensure name = .ok (g', slot)) : ∀ v ∈ g'.names, P v := by
  obtain ⟨-, rfl⟩ | ⟨-, -, rfl⟩ := ensure_eq_ok hg
  · exact h
  · rw [forall_mem_names] at h ⊢
    refine ⟨fun x hx => ?_, h.2⟩
    rcases List.mem_append.1 hx with hx | hx
    · exact h.1 x hx
    · rw [List.mem_singleton.1 hx]
      exact hname

lemma forall_mem_names_writeVertex (h : ∀ v ∈ g.names, P v) (slot : Nat)
    (attributes : List (Value × Value)) : ∀ v ∈ (g.writeVertex slot attributes).names, P v := by
  rw [forall_mem_names] at h ⊢
  refine ⟨fun x hx => ?_, h.2⟩
  obtain ⟨y, hy, rfl⟩ := List.mem_map.1 hx
  rw [Vertex.name_write]
  exact h.1 y hy

/-- Links that keep their ends keep their names. -/
lemma forall_mem_names_relink (h : ∀ v ∈ g.names, P v) {f : Link → Option Link}
    (hends : ∀ l l', f l = some l' → l'.source = l.source ∧ l'.target = l.target) :
    ∀ v ∈ ({ g with links := g.links.filterMap f } : Network).names, P v := by
  rw [forall_mem_names] at h ⊢
  refine ⟨h.1, fun l' hl' => ?_⟩
  obtain ⟨l, hl, hf⟩ := List.mem_filterMap.1 hl'
  rw [(hends l l' hf).1, (hends l l' hf).2]
  exact h.2 l hl

lemma forall_mem_names_connect (h : ∀ v ∈ g.names, P v) {source target : Endpoint}
    (hs : P source.name) (ht : P target.name) (attributes : List (Value × Value))
    (key : Option Value) : ∀ v ∈ (g.connect source target attributes key).names, P v := by
  unfold connect
  cases g.link? source.slot target.slot with
  | none =>
    rw [forall_mem_names] at h ⊢
    refine ⟨h.1, fun l hl => ?_⟩
    rcases List.mem_append.1 hl with hl | hl
    · exact h.2 l hl
    · rw [List.mem_singleton.1 hl]
      exact ⟨hs, ht⟩
  | some link =>
    simp only
    rw [← List.filterMap_eq_map]
    refine forall_mem_names_relink h fun l l' hl' => ?_
    rw [Function.comp_apply, Option.some.injEq] at hl'
    subst hl'
    split <;> exact ⟨rfl, rfl⟩

lemma forall_mem_names_replaceEdges (h : ∀ v ∈ g.names, P v) (u v : Nat)
    (edges : OrderedMap Value Attributes) : ∀ w ∈ (g.replaceEdges u v edges).names, P w := by
  refine forall_mem_names_relink h fun l l' hl' => ?_
  split at hl'
  · obtain rfl := Option.some.inj hl'
    exact ⟨rfl, rfl⟩
  · split at hl'
    · cases hl'
    · obtain rfl := Option.some.inj hl'
      exact ⟨rfl, rfl⟩

lemma forall_mem_names_without (h : ∀ v ∈ g.names, P v) (slot : Nat) :
    ∀ v ∈ (g.without slot).names, P v := by
  rw [forall_mem_names] at h ⊢
  exact ⟨fun x hx => h.1 x (List.mem_filter.1 hx).1, fun l hl => h.2 l (List.mem_filter.1 hl).1⟩

/-- A change brings in the names that it gives, and no others. -/
lemma forall_mem_names_apply {change : Change} (h : ∀ v ∈ g.names, P v)
    (hchange : ∀ v ∈ change.names, P v) (hg : g.apply change = .ok g') : ∀ v ∈ g'.names, P v := by
  cases change with
  | addVertex name attributes =>
    obtain ⟨g₁, slot, hensure, rfl⟩ := addVertex_eq_ok_iff.1 hg
    have hname : P name := hchange name List.mem_cons_self
    exact forall_mem_names_writeVertex (forall_mem_names_ensure h hname hensure) slot attributes
  | addEdge source target attributes key =>
    obtain ⟨g₁, u, hsource, g₂, v, htarget, -, rfl⟩ := addEdge_eq_ok_iff.1 hg
    have hs : P source := hchange source List.mem_cons_self
    have ht : P target := hchange target (List.mem_cons_of_mem _ List.mem_cons_self)
    have h₂ := forall_mem_names_ensure (forall_mem_names_ensure h hs hsource) ht htarget
    exact forall_mem_names_connect h₂ hs ht attributes key
  | removeVertex name =>
    obtain ⟨slot, rfl⟩ := removeVertex_eq_ok hg
    exact forall_mem_names_without h slot
  | removeEdge source target key =>
    obtain ⟨u, v, edges, rfl⟩ := removeEdge_eq_ok hg
    exact forall_mem_names_replaceEdges h u v edges

/-- Whatever holds of all names that are given holds of all names in use. -/
theorem forall_mem_names_applyAll {changes : List Change} (h : ∀ v ∈ g.names, P v)
    (hchanges : ∀ change ∈ changes, ∀ v ∈ change.names, P v)
    (hg : g.applyAll changes = .ok g') : ∀ v ∈ g'.names, P v := by
  induction changes generalizing g with
  | nil =>
    obtain rfl := Except.ok.inj hg
    exact h
  | cons change changes ih =>
    rw [applyAll, List.foldlM_cons] at hg
    obtain ⟨g₁, hchange, hrest⟩ := bind_eq_ok_iff.1 hg
    obtain ⟨hnames, hnamesRest⟩ := List.forall_mem_cons.1 hchanges
    exact ih (forall_mem_names_apply h hnames hchange) hnamesRest hrest

/-! ### Ends -/

/-- The arc of every edge, in the order in which the edges are met. -/
def edgeArcs (g : Network) : List Arc := g.arcs.flatMap fun a => (edgesOf a).map fun _ => a

/-- A relationship runs from the node to the node that are read from the vertices at the ends of an
arc. -/
def Attaches (g : Network) (a : Arc) (r : Relationship) : Prop :=
  ∃ p ∈ g.vertices, ∃ q ∈ g.vertices, p.slot = a.source.slot ∧ q.slot = a.target.slot ∧
    r.ends = (.ofForeign p.name, .ofForeign q.name)

/-- Every relationship that is read runs between the nodes that are read from the vertices at the
ends of its edge. -/
def KeepsEnds (g : Network) (s : Snapshot) : Prop :=
  List.Forall₂ g.Attaches g.edgeArcs s.relationships

/-- The value that an arc keeps for its second end becomes the identifier of the vertex there. -/
def TellsTarget (g : Network) (a : Arc) : Prop :=
  ∀ q ∈ g.vertices, q.slot = a.target.slot → Ident.ofForeign q.name = Ident.ofForeign a.target.name

lemma exists_vertex_of_mem_arcs (h : g.WellFormed) {a : Arc} (ha : a ∈ g.arcs) :
    ∃ q ∈ g.vertices, q.slot = a.target.slot := by
  obtain ⟨-, l, hl, htarget, -⟩ := exists_link_of_mem_arcs ha
  rcases htarget with htarget | htarget
  · obtain ⟨q, hq, hslot, -⟩ := (h.ends l hl).1
    exact ⟨q, hq, by rw [hslot, htarget]⟩
  · obtain ⟨q, hq, hslot, -⟩ := (h.ends l hl).2
    exact ⟨q, hq, by rw [hslot, htarget]⟩

/-- What is read with the ends that an arc tells runs between the right nodes exactly if the arc
tells its second end right. -/
lemma attaches_iff (h : g.WellFormed) {a : Arc} (ha : a ∈ g.arcs) {r : Relationship}
    (hr : r.ends = arcEnds a) : g.Attaches a r ↔ g.TellsTarget a := by
  have hsource := (exists_link_of_mem_arcs ha).1
  constructor
  · rintro ⟨p, hp, q, hq, hps, hqs, hends⟩ q' hq' hq's
    have hqq' : q' = q := List.inj_on_of_nodup_map h.slots hq' hq (hq's.trans hqs.symm)
    rw [hqq']
    exact congrArg Prod.snd (hends.symm.trans hr)
  · intro htells
    obtain ⟨q, hq, hslot⟩ := exists_vertex_of_mem_arcs h ha
    refine ⟨a.source, hsource, q, hq, rfl, hslot, ?_⟩
    rw [hr, arcEnds, htells q hq hslot]

/-- The relationships that are read have the ends that the arcs of their edges tell. -/
lemma ends_eq_arcEnds {s : Snapshot} (hs : g.toSnapshot? = .ok s) :
    s.relationships.map Relationship.ends = g.edgeArcs.map arcEnds := by
  rw [ends_of_toSnapshot? hs, edges_eq_flatMap_arcs, edgeArcs, List.map_flatMap, List.map_flatMap]
  refine List.flatMap_congr fun a _ => ?_
  rw [List.map_map]
  exact List.map_congr_left fun e he => endsRead_of_mem_edgesOf he

lemma mem_edgeArcs (h : g.WellFormed) {a : Arc} : a ∈ g.edgeArcs ↔ a ∈ g.arcs := by
  simp only [edgeArcs, List.mem_flatMap, List.mem_map]
  constructor
  · rintro ⟨b, hb, e, -, rfl⟩
    exact hb
  · intro ha
    obtain ⟨e, he⟩ := List.exists_mem_of_ne_nil _ (h.edgesOf_ne_nil ha)
    exact ⟨a, ha, e, he, rfl⟩

lemma forall₂_iff_forall_mem {α β : Type} {R : α → β → Prop} {Q : α → Prop} {xs : List α}
    {ys : List β} (h : List.Forall₂ (fun x y => R x y ↔ Q x) xs ys) :
    List.Forall₂ R xs ys ↔ ∀ x ∈ xs, Q x := by
  induction h with
  | nil => simp
  | cons hxy _ ih => rw [List.forall₂_cons, List.forall_mem_cons, hxy, ih]

/-- Ends are kept exactly if every arc tells its second end right. -/
theorem WellFormed.keepsEnds_iff (h : g.WellFormed) {s : Snapshot} (hs : g.toSnapshot? = .ok s) :
    g.KeepsEnds s ↔ ∀ a ∈ g.arcs, g.TellsTarget a := by
  have hends : List.Forall₂ (fun a r => arcEnds a = Relationship.ends r) g.edgeArcs
      s.relationships := map_eq_map_iff_forall₂.1 (ends_eq_arcEnds hs).symm
  have harcs : ∀ a ∈ g.edgeArcs, a ∈ g.arcs := fun a ha => (mem_edgeArcs h).1 ha
  have hboth := (List.forall₂_and_left _ _).2 ⟨harcs, hends⟩
  have hattaches : List.Forall₂ (fun a r => g.Attaches a r ↔ g.TellsTarget a) g.edgeArcs
      s.relationships := hboth.imp fun a r hr => attaches_iff h hr.1 hr.2.symm
  rw [KeepsEnds, forall₂_iff_forall_mem hattaches]
  simp only [mem_edgeArcs h]

/-- Where names that are the same key become the same identifier, ends are told right. -/
lemma WellFormed.tellsTarget (h : g.WellFormed) (hnames : g.NamesAgree) {a : Arc}
    (ha : a ∈ g.arcs) : g.TellsTarget a := by
  obtain ⟨-, l, hl, htarget, -⟩ := exists_link_of_mem_arcs ha
  obtain ⟨v, hv, hslot, hname⟩ := exists_vertex_of_end h hnames hl htarget
  intro q hq hqslot
  have hqv : q = v := List.inj_on_of_nodup_map h.slots hq hv (hqslot.trans hslot.symm)
  rw [hqv]
  exact hname

end Network

open Network

/-- Distinct vertices of a network become distinct nodes, and a relationship has the ends that its
arc tells.  So it runs between the nodes of its vertices exactly if the arc tells its second end
right, which all arcs do if the names that were given are the same key only where they become the
same identifier. -/
theorem readSnapshot_ends {directed parallel : Bool} {changes : List Change} {g : Network}
    {s : Snapshot} (hg : (Network.empty directed parallel).applyAll changes = .ok g)
    (hs : g.readSnapshot.run.result = .ok s) :
    s.nodeIds = g.vertices.map (fun v => .ofForeign v.name) ∧ s.nodeIds.Nodup ∧
      s.relationships.map Relationship.ends = g.edgeArcs.map arcEnds ∧
      (g.KeepsEnds s ↔ ∀ a ∈ g.arcs, g.TellsTarget a) ∧
      ((∀ v ∈ changes.flatMap Change.names, ∀ w ∈ changes.flatMap Change.names,
        (v == w) = true → Ident.ofForeign v = Ident.ofForeign w) → g.KeepsEnds s) := by
  rw [result_readSnapshot] at hs
  have hwf : g.WellFormed := (wellFormed_empty directed parallel).applyAll hg
  have hkeeps := hwf.keepsEnds_iff hs
  refine ⟨(of_toSnapshot? hs).1, s.consistent.nodeIds, ends_eq_arcEnds hs, hkeeps, ?_⟩
  intro hagree
  have hgiven : ∀ v ∈ g.names, v ∈ changes.flatMap Change.names :=
    forall_mem_names_applyAll (fun v hv => absurd hv List.not_mem_nil)
      (fun change hchange v hv => List.mem_flatMap.2 ⟨change, hchange, hv⟩) hg
  have hnames : g.NamesAgree := fun v hv w hw => hagree v (hgiven v hv) w (hgiven w hw)
  exact hkeeps.2 fun a ha => hwf.tellsTarget hnames ha

/-- Vertices named by a fixed-width number, a number and a text, and edges that name the first one
by the plain number. -/
def respelling : List Change :=
  [.addVertex (.sized .int64 (.int 1)) [], .addVertex (.int 2) [],
    .addEdge (.int 2) (.int 1) [(.text "type", .text "R")] none,
    .addEdge (.text "1") (.int 1) [(.text "type", .text "S")] none]

/-- The network after these changes. -/
def respelled : Network where
  directed := true
  parallel := false
  vertices := [⟨0, .sized .int64 (.int 1), .empty⟩, ⟨1, .int 2, .empty⟩, ⟨2, .text "1", .empty⟩]
  links :=
    [⟨⟨1, .int 2⟩, ⟨0, .int 1⟩, .ofList [(.int 0, .ofList [(.text "type", .text "R")])]⟩,
      ⟨⟨2, .text "1"⟩, ⟨0, .int 1⟩, .ofList [(.int 0, .ofList [(.text "type", .text "S")])]⟩]
  nextSlot := 3

theorem readSnapshot_ends_respelled : ∃ s,
    (Network.empty true false).applyAll respelling = .ok respelled ∧
    respelled.readSnapshot.run.result = .ok s ∧
    s.relationships.map Relationship.ends = [(.int 2, .int 1), (.text "1", .int 1)] ∧
    respelled.KeepsEnds s := by
  have hg : (Network.empty true false).applyAll respelling = .ok respelled := rfl
  have hagree : ∀ v ∈ respelling.flatMap Change.names, ∀ w ∈ respelling.flatMap Change.names,
      (v == w) = true → Ident.ofForeign v = Ident.ofForeign w := by
    decide
  refine ⟨_, hg, rfl, rfl, ?_⟩
  exact (readSnapshot_ends hg rfl).2.2.2.2 hagree

/-- Vertices 1 and "1.0", and an edge from the second to the first, which it names by a double. -/
def detaching : List Change :=
  [.addVertex (.int 1) [(.text "labels", .list [.text "A"])],
    .addVertex (.text "1.0") [(.text "labels", .list [.text "B"])],
    .addEdge (.text "1.0") (.double (.ofInt 1)) [(.text "type", .text "FED_BY")] none]

/-- The network after these changes. -/
def detached : Network where
  directed := true
  parallel := false
  vertices := [⟨0, .int 1, .ofList [(.text "labels", .list [.text "A"])]⟩,
    ⟨1, .text "1.0", .ofList [(.text "labels", .list [.text "B"])]⟩]
  links :=
    [⟨⟨1, .text "1.0"⟩, ⟨0, .double (.ofInt 1)⟩,
      .ofList [(.int 0, .ofList [(.text "type", .text "FED_BY")])]⟩]
  nextSlot := 2

/-- The edge is read as a loop at the node "1.0". -/
theorem readSnapshot_ends_detached : ∃ s,
    (Network.empty true false).applyAll detaching = .ok detached ∧
    detached.readSnapshot.run.result = .ok s ∧
    s.relationships.map Relationship.ends = [(.text "1.0", .text "1.0")] ∧
    ¬detached.KeepsEnds s := by
  have hg : (Network.empty true false).applyAll detaching = .ok detached := rfl
  have hwf : detached.WellFormed := (wellFormed_empty true false).applyAll hg
  refine ⟨_, hg, rfl, rfl, fun hkeeps => ?_⟩
  -- the only arc ends at the vertex 1
  have htells := (hwf.keepsEnds_iff rfl).1 hkeeps _ List.mem_cons_self _ List.mem_cons_self rfl
  exact absurd htells (by decide)

end PropertyGraph
