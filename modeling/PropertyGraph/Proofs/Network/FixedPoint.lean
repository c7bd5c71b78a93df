/-
# Graphs that were read from networks

What is read from a network comes back exactly when it is rendered and read again
(`readSnapshot_fixedPoint`), if values that name the same vertex become the same identifier
(`Network.NamesAgree`).  For going through the edges of a network meets them arc by arc, vertex by
vertex, and in a network that is in order no two arcs have the same ends
(`Network.nodup_ends_arcs`).  So the relationships that are read are grouped and numbered already,
although the network may have had edges without direction, and although it may have been changed in
any way before.
-/
import PropertyGraph.Proofs.Network.RoundTrip
import PropertyGraph.Proofs.Network.WellFormed

namespace PropertyGraph

open Network

/-! ### What reading keeps -/

namespace Network

variable {g : Network} {s : Snapshot}

/-- What an edge connects once it is read. -/
def endsRead (e : Edge) : Ident × Ident := (.ofForeign e.source, .ofForeign e.target)

/-- A vertex is read if its name can be written and its labels and properties can be read. -/
lemma readVertex_eq_ok_iff {v : Vertex} {n : Node} : readVertex v = .ok n ↔
    v.name.canIdentify = true ∧ ∃ labels,
      parseLabels ((v.attributes.find? (.text labelsKey)).getD .null) = .ok labels ∧
      Node.ofParts? (.ofForeign v.name) labels (v.attributes.erase (.text labelsKey)).entries =
        .ok n := by
  rw [readVertex]
  simp only [bind_eq_ok_iff, Ident.ofForeign?_eq_ok_iff]
  constructor
  · rintro ⟨labels, hlabels, _, ⟨hname, rfl⟩, hparts⟩
    exact ⟨hname, labels, hlabels, hparts⟩
  · rintro ⟨hname, labels, hlabels, hparts⟩
    exact ⟨labels, hlabels, _, ⟨hname, rfl⟩, hparts⟩

lemma id_of_readVertex {v : Vertex} {n : Node} (h : readVertex v = .ok n) :
    n.id = .ofForeign v.name := by
  obtain ⟨-, labels, -, hparts⟩ := readVertex_eq_ok_iff.1 h
  obtain ⟨ps, -, rfl⟩ := Node.ofParts?_eq_ok_iff.1 hparts
  rfl

/-- An edge is read if its type is there, is true as a truth value and can be written, and so can
the names of its ends. -/
lemma readEdge_eq_ok_iff {e : Edge} {i : Nat} {r : Relationship} : readEdge e i = .ok r ↔
    ((e.attributes.find? (.text typeKey)).getD .null).truth? = some true ∧
      ((e.attributes.find? (.text typeKey)).getD .null).isWritable = true ∧
      e.source.canIdentify = true ∧ e.target.canIdentify = true ∧
      Relationship.ofParts? (.int i) ((e.attributes.find? (.text typeKey)).getD .null).shown
        (.ofForeign e.source) (.ofForeign e.target)
        (e.attributes.erase (.text typeKey)).entries = .ok r := by
  simp only [readEdge]
  cases ((e.attributes.find? (.text typeKey)).getD .null).truth? with
  | none => simp
  | some truth =>
    cases truth with
    | false => simp
    | true =>
      simp only [bind_eq_ok_iff, Value.foreignText?_eq_ok_iff, Ident.ofForeign?_eq_ok_iff]
      simp

lemma of_readEdge {e : Edge} {i : Nat} {r : Relationship} (h : readEdge e i = .ok r) :
    r.id = .int i ∧ r.ends = endsRead e := by
  obtain ⟨-, -, -, -, hparts⟩ := readEdge_eq_ok_iff.1 h
  obtain ⟨t, ps, -, -, rfl⟩ := Relationship.ofParts?_eq_ok_iff.1 hparts
  exact ⟨rfl, rfl⟩

/-- A network is read vertex by vertex and edge by edge. -/
lemma toSnapshot?_eq_ok_iff : g.toSnapshot? = .ok s ↔
    g.vertices.mapM readVertex = .ok s.nodes ∧
      (g.edges.zipIdx.mapM fun p => readEdge p.1 p.2) = .ok s.relationships := by
  constructor
  · intro hs
    obtain ⟨nodes, hnodes, hs⟩ := bind_eq_ok_iff.1 hs
    obtain ⟨rs, hrs, hs⟩ := bind_eq_ok_iff.1 hs
    obtain ⟨rfl, rfl⟩ := Snapshot.ofParts?_eq_ok_iff.1 hs
    exact ⟨hnodes, hrs⟩
  · rintro ⟨hnodes, hrels⟩
    exact bind_eq_ok_iff.2 ⟨_, hnodes, bind_eq_ok_iff.2 ⟨_, hrels,
      Snapshot.ofParts?_eq_ok_iff.2 ⟨rfl, rfl⟩⟩⟩

/-- The identifiers of what is read and the ends of the relationships are those of the network. -/
lemma of_toSnapshot? (h : g.toSnapshot? = .ok s) :
    s.nodeIds = g.vertices.map (fun v => .ofForeign v.name) ∧
      s.relationships.map (fun r => (r.id, r.ends)) =
        g.edges.zipIdx.map fun p => (.int p.2, endsRead p.1) := by
  obtain ⟨hnodes, hrels⟩ := toSnapshot?_eq_ok_iff.1 h
  refine ⟨map_eq_of_mapM_eq_ok (fun v n hn => id_of_readVertex hn) hnodes,
    map_eq_of_mapM_eq_ok (fun p r hr => ?_) hrels⟩
  exact Prod.ext (of_readEdge hr).1 (of_readEdge hr).2

lemma ends_of_toSnapshot? (h : g.toSnapshot? = .ok s) :
    s.relationships.map Relationship.ends = g.edges.map endsRead := by
  have hsnd := congrArg (List.map Prod.snd) (of_toSnapshot? h).2
  rw [List.map_map, List.map_map] at hsnd
  rw [← List.zipIdx_map_fst 0 g.edges, List.map_map]
  exact hsnd

/-- The relationships that are read from a network are numbered. -/
lemma ids_of_toSnapshot? (h : g.toSnapshot? = .ok s) : s.relationships.map Relationship.id =
    (List.range s.relationships.length).map fun (i : Nat) => .int i := by
  have hlength : s.relationships.length = g.edges.length := by
    simpa using congrArg List.length (ends_of_toSnapshot? h)
  have hfst := congrArg (List.map Prod.fst) (of_toSnapshot? h).2
  rw [List.map_map, List.map_map] at hfst
  rw [hlength, List.range_eq_range', ← List.zipIdx_map_snd 0 g.edges, List.map_map]
  exact hfst

/-! ### Names and ends -/

/-- The values that are in use as names: those of the vertices and those kept by links. -/
def names (g : Network) : List Value :=
  g.vertices.map Vertex.name ++ g.links.flatMap fun l => [l.source.name, l.target.name]

/-- Names that are the same key become the same identifier. -/
def NamesAgree (g : Network) : Prop :=
  ∀ a ∈ g.names, ∀ b ∈ g.names, (a == b) = true → Ident.ofForeign a = Ident.ofForeign b

/-- Names that are identifiers agree. -/
lemma namesAgree_of_names_eq (ids : List Ident) (h : g.names = ids.map Ident.toValue) :
    g.NamesAgree := by
  unfold NamesAgree
  rw [h, List.forall_mem_map]
  intro i _
  rw [List.forall_mem_map]
  intro j _ hij
  rw [Ident.toValue_beq, decide_eq_true_iff] at hij
  rw [hij]

/-- What an arc connects once it is read. -/
def arcEnds (a : Arc) : Ident × Ident := (.ofForeign a.source.name, .ofForeign a.target.name)

/-- An end at which a vertex sees its neighbour is the end of a link from the vertex to it. -/
lemma neighbour?_eq_some {directed : Bool} {passed : List Nat} {slot : Nat} {l : Link}
    {e : Endpoint} (h : neighbour? directed passed slot l = some e) :
    (e = l.source ∨ e = l.target) ∧ l.joins directed slot e.slot = true := by
  rw [Link.joins_iff]
  cases directed with
  | true =>
    by_cases hs : l.source.slot = slot
    · obtain rfl : l.target = e := by simpa [neighbour?, hs] using h
      exact ⟨.inr rfl, .inl ⟨hs, rfl⟩⟩
    · simp [neighbour?, hs] at h
  | false =>
    by_cases hs : l.source.slot = slot
    · have hfilter : l.target = e ∧ e.slot ∉ passed := by
        simpa [neighbour?, hs, Option.filter_eq_some_iff] using h
      obtain ⟨rfl, -⟩ := hfilter
      exact ⟨.inr rfl, .inl ⟨hs, rfl⟩⟩
    · by_cases ht : l.target.slot = slot
      · have hfilter : l.source = e ∧ e.slot ∉ passed := by
          simpa [neighbour?, hs, ht, Option.filter_eq_some_iff] using h
        obtain ⟨rfl, -⟩ := hfilter
        exact ⟨.inl rfl, .inr ⟨rfl, rfl, ht⟩⟩
      · simp [neighbour?, hs, ht] at h

lemma source_of_mem_arcsAt {visit : List Nat × Vertex} {a : Arc} (ha : a ∈ g.arcsAt visit) :
    a.source = visit.2 := by
  obtain ⟨l, -, hl⟩ := List.mem_filterMap.1 ha
  obtain ⟨e, -, rfl⟩ := Option.map_eq_some_iff.1 hl
  rfl

/-- An arc leaves a vertex, and it comes from a link at one end of which it arrives. -/
lemma exists_link_of_mem_arcs {a : Arc} (ha : a ∈ g.arcs) :
    a.source ∈ g.vertices ∧
      ∃ l ∈ g.links, (a.target = l.source ∨ a.target = l.target) ∧ a.edges = l.edges := by
  obtain ⟨visit, hvisit, ha⟩ := List.mem_flatMap.1 ha
  obtain ⟨l, hl, harc⟩ := List.mem_filterMap.1 ha
  obtain ⟨e, he, rfl⟩ := Option.map_eq_some_iff.1 harc
  exact ⟨mem_vertices_of_mem_visits hvisit, l, hl, (neighbour?_eq_some he).1, rfl⟩

section Arcs

variable (h : g.WellFormed) (hnames : g.NamesAgree)
  (hids : (g.vertices.map fun v => Ident.ofForeign v.name).Nodup)

include h hnames

/-- An end of a link and the vertex that it names become the same identifier. -/
lemma exists_vertex_of_end {l : Link} (hl : l ∈ g.links) {e : Endpoint}
    (he : e = l.source ∨ e = l.target) :
    ∃ v ∈ g.vertices, v.slot = e.slot ∧ Ident.ofForeign v.name = Ident.ofForeign e.name := by
  have hnamed : g.Names e := by
    rcases he with rfl | rfl
    · exact (h.ends l hl).1
    · exact (h.ends l hl).2
  obtain ⟨v, hv, hslot, hname⟩ := hnamed
  refine ⟨v, hv, hslot, ?_⟩
  -- the end keeps the name of the vertex, or another value that is the same key
  rcases hname with hname | hname
  · rw [hname]
  · refine hnames v.name (List.mem_append_left _ (List.mem_map_of_mem hv)) e.name ?_ hname
    refine List.mem_append_right _ (List.mem_flatMap.2 ⟨l, hl, ?_⟩)
    rcases he with rfl | rfl <;> simp

include hids

/-- Ends of links that become the same identifier are the same vertex. -/
lemma slot_eq_of_ofForeign_eq {l l' : Link} (hl : l ∈ g.links) (hl' : l' ∈ g.links)
    {e e' : Endpoint} (he : e = l.source ∨ e = l.target) (he' : e' = l'.source ∨ e' = l'.target)
    (heq : Ident.ofForeign e.name = Ident.ofForeign e'.name) : e.slot = e'.slot := by
  obtain ⟨v, hv, hslot, hname⟩ := exists_vertex_of_end h hnames hl he
  obtain ⟨v', hv', hslot', hname'⟩ := exists_vertex_of_end h hnames hl' he'
  have hvv' : v = v' :=
    List.inj_on_of_nodup_map hids hv hv' (hname.trans (heq.trans hname'.symm))
  rw [← hslot, ← hslot', hvv']

/-- No two arcs have the same ends. -/
theorem nodup_arcEnds : (g.arcs.map arcEnds).Nodup := by
  refine List.pairwise_map.2 (List.pairwise_flatMap.2 ⟨fun visit _ => ?_, ?_⟩)
  · -- two links at one vertex would run between the same vertices
    refine List.pairwise_filterMap.2
      (h.apart.imp_of_mem fun {l l'} hl hl' hapart a ha a' ha' heq => ?_)
    obtain ⟨e, he, rfl⟩ := Option.map_eq_some_iff.1 ha
    obtain ⟨e', he', rfl⟩ := Option.map_eq_some_iff.1 ha'
    obtain ⟨hend, hjoins⟩ := neighbour?_eq_some he
    obtain ⟨hend', hjoins'⟩ := neighbour?_eq_some he'
    have hslot : e.slot = e'.slot :=
      slot_eq_of_ofForeign_eq h hnames hids hl hl' hend hend' (congrArg Prod.snd heq)
    rw [← hslot] at hjoins'
    exact Bool.eq_false_iff.1 hapart (Link.joins_of_joins hjoins hjoins')
  · -- arcs at different vertices have different starts
    have hvisits : ((visits [] g.vertices).map fun p => Ident.ofForeign p.2.name).Nodup := by
      rw [← map_snd_visits [] g.vertices, List.map_map] at hids
      exact hids
    refine (List.pairwise_map.1 hvisits).imp fun {p q} hne a ha b hb heq => hne ?_
    rw [← source_of_mem_arcsAt ha, ← source_of_mem_arcsAt hb]
    exact congrArg Prod.fst heq

end Arcs

/-! ### The order in which edges are met -/

lemma endsRead_of_mem_edgesOf {a : Arc} {e : Edge} (he : e ∈ edgesOf a) :
    endsRead e = arcEnds a := by
  obtain ⟨entry, -, rfl⟩ := List.mem_map.1 he
  rfl

lemma WellFormed.edgesOf_ne_nil (h : g.WellFormed) {a : Arc} (ha : a ∈ g.arcs) :
    edgesOf a ≠ [] := by
  obtain ⟨-, l, hl, -, hedges⟩ := exists_link_of_mem_arcs ha
  rw [edgesOf, hedges]
  exact fun hnil => h.nonempty l hl (List.map_eq_nil_iff.1 hnil)

/-- The arcs come vertex by vertex. -/
lemma gatherBy_arcEnds (hids : (g.vertices.map fun v => Ident.ofForeign v.name).Nodup) :
    gatherBy Prod.fst (g.vertices.map fun v => Ident.ofForeign v.name) (g.arcs.map arcEnds) =
      g.arcs.map arcEnds := by
  have hvertices : (g.vertices.map fun v => Ident.ofForeign v.name) =
      (visits [] g.vertices).map fun p => Ident.ofForeign p.2.name := by
    conv_lhs => rw [← map_snd_visits [] g.vertices, List.map_map]
    rfl
  rw [hvertices] at hids ⊢
  rw [arcs, List.map_flatMap]
  refine gatherBy_flatMap (fun p _ ends hends => ?_) hids
  obtain ⟨a, ha, rfl⟩ := List.mem_map.1 hends
  rw [arcEnds, source_of_mem_arcsAt ha]

/-- The relationships that are read from a network in order are grouped already. -/
theorem WellFormed.grouped_eq (h : g.WellFormed) (hnames : g.NamesAgree)
    (hs : g.toSnapshot? = .ok s) : s.grouped = s.relationships := by
  have hnodes := (of_toSnapshot? hs).1
  have hids : (g.vertices.map fun v => Ident.ofForeign v.name).Nodup := by
    rw [← hnodes]
    exact s.consistent.nodeIds
  have hends : s.relationships.map Relationship.ends =
      g.arcs.flatMap fun a => (edgesOf a).map endsRead := by
    rw [ends_of_toSnapshot? hs, edges_eq_flatMap_arcs, List.map_flatMap]
  have hkey : ∀ a ∈ g.arcs, ∀ x ∈ (edgesOf a).map endsRead, id x = arcEnds a := by
    intro a _ x hx
    obtain ⟨e, he, rfl⟩ := List.mem_map.1 hx
    exact endsRead_of_mem_edgesOf he
  have hnodup := nodup_arcEnds h hnames hids
  -- as the arcs are distinct, what they connect appears for the first time in their order
  have hconnections : s.connections = g.arcs.map arcEnds := by
    have hfirst := eraseDups_flatMap hkey
      (fun a ha => fun hnil => h.edgesOf_ne_nil ha (List.map_eq_nil_iff.1 hnil)) hnodup
    rw [List.map_id] at hfirst
    rw [Snapshot.connections, hends, hfirst, hnodes, gatherBy_arcEnds hids]
  refine gatherBy_eq_self s.nodup_connections (fun r hr => s.mem_connections hr) ?_
  rw [hconnections, hends]
  exact gatherBy_flatMap hkey hnodup

end Network

/-! ### Reading again -/

lemma Relationship.numbered_eq_self {rs : List Relationship}
    (h : rs.map Relationship.id = (List.range rs.length).map fun (i : Nat) => .int i) :
    numbered rs = rs := by
  refine List.ext_getElem (length_numbered rs) fun i _ hi => ?_
  have hid : rs[i].id = .int i := by
    have hat := congrArg (fun ids => ids[i]?) h
    simpa [hi] using hat
  simp only [numbered, List.getElem_map, List.getElem_zipIdx, Nat.zero_add, withId, ← hid]

/-- What is read from a network comes back exactly when it is rendered and read again. -/
theorem readSnapshot_fixedPoint {directed parallel : Bool} {changes : List Change}
    {g rendering : Network} {s : Snapshot}
    (hg : (Network.empty directed parallel).applyAll changes = .ok g) (hnames : g.NamesAgree)
    (hs : g.readSnapshot.run.result = .ok s) (hrendering : ofSnapshot? s = .ok rendering) :
    rendering.readSnapshot.run.result = .ok s := by
  rw [result_readSnapshot] at hs ⊢
  obtain ⟨hclash, rfl⟩ := ofSnapshot?_eq_ok_iff.1 hrendering
  have hwf : g.WellFormed := (wellFormed_empty directed parallel).applyAll hg
  have hregrouped : s.regrouped = s := by
    refine Snapshot.ext_elements rfl ?_
    have hgrouped := hwf.grouped_eq hnames hs
    show Relationship.numbered s.grouped = s.relationships
    rw [hgrouped, Relationship.numbered_eq_self (ids_of_toSnapshot? hs)]
  rw [Snapshot.toSnapshot?_rendered hclash, hregrouped]

/-- Changes to a network without directions: a loop, parallel edges named from either end, a vertex
that goes again, and a link that goes and comes back. -/
def rewiring : List Change :=
  [.addVertex (.int 3) [],
    .addEdge (.int 1) (.int 2) [(.text "type", .text "R")] none,
    .addEdge (.int 2) (.int 3) [(.text "type", .text "S")] none,
    .addEdge (.int 2) (.int 1) [(.text "type", .text "T")] none,
    .addEdge (.text "1") (.int 1) [(.text "type", .text "R")] none,
    .removeVertex (.text "1"),
    .removeEdge (.int 2) (.int 3) none,
    .addEdge (.int 3) (.int 3) [(.text "type", .text "L")] none,
    .addEdge (.int 3) (.int 2) [(.text "type", .text "U")] none]

/-- The network after these changes. -/
def rewired : Network where
  directed := false
  parallel := true
  vertices := [⟨0, .int 3, .empty⟩, ⟨1, .int 1, .empty⟩, ⟨2, .int 2, .empty⟩]
  links :=
    [⟨⟨1, .int 1⟩, ⟨2, .int 2⟩, .ofList [(.int 0, .ofList [(.text "type", .text "R")]),
        (.int 1, .ofList [(.text "type", .text "T")])]⟩,
      ⟨⟨0, .int 3⟩, ⟨0, .int 3⟩, .ofList [(.int 0, .ofList [(.text "type", .text "L")])]⟩,
      ⟨⟨0, .int 3⟩, ⟨2, .int 2⟩, .ofList [(.int 0, .ofList [(.text "type", .text "U")])]⟩]
  nextSlot := 4

theorem readSnapshot_fixedPoint_rewired : ∃ s rendering,
    (Network.empty false true).applyAll rewiring = .ok rewired ∧ rewired.NamesAgree ∧
    rewired.readSnapshot.run.result = .ok s ∧ ofSnapshot? s = .ok rendering ∧
    s.relationships.map (fun r => (r.type, r.ends)) =
      [("L", .int 3, .int 3), ("U", .int 3, .int 2), ("R", .int 1, .int 2),
        ("T", .int 1, .int 2)] ∧
    rendering.readSnapshot.run.result = .ok s := by
  have hg : (Network.empty false true).applyAll rewiring = .ok rewired := rfl
  have hnames : rewired.NamesAgree :=
    namesAgree_of_names_eq ([3, 1, 2, 1, 2, 3, 3, 3, 2].map .int) rfl
  refine ⟨_, _, hg, hnames, rfl, rfl, rfl, ?_⟩
  exact readSnapshot_fixedPoint hg hnames rfl rfl

end PropertyGraph
