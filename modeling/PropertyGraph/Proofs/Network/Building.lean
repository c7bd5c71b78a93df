/-
# What a network is built of

Vertices and edges are put into a network one after another, each edge under a fresh key.  At any
time the network carries exactly what has been put into it (`Network.Carries`): the vertices in
order, and in its links the edges in some order, numbered link by link.  A vertex with a new name
and an edge between vertices that are there can always be added, and the network then carries this
one too (`Carries.addVertex`, `Carries.addEdge`), hence all of them in the end (`exists_carries`).

Going through the edges of such a network finds the edges that have been put in, in some order
(`Carries.perm_edges`).
-/
import PropertyGraph.Proofs.Network.Traversal
import PropertyGraph.Proofs.Network.WellFormed

namespace PropertyGraph
namespace Network

/-- A vertex to be put in: its name and its attributes. -/
abbrev VertexEntry := Ident × List (Value × Value)

/-- An edge to be put in: the names of its ends and its attributes. -/
abbrev EdgeEntry := Ident × Ident × List (Value × Value)

/-! ### Fresh keys -/

/-- The edges of a link are numbered. -/
def Numbered (edges : OrderedMap Value Attributes) : Prop :=
  edges.keys = (List.range edges.size).map fun (i : Nat) => Value.int i

lemma numbered_empty : Numbered .empty := rfl

section Numbered

variable {edges : OrderedMap Value Attributes} (h : Numbered edges)

include h

lemma Numbered.beq_eq_false {e : Value × Attributes} (he : e ∈ edges.entries) :
    (e.1 == Value.int edges.size) = false := by
  have hkey : e.1 ∈ edges.keys := List.mem_map_of_mem he
  rw [h] at hkey
  obtain ⟨i, hi, hie⟩ := List.mem_map.1 hkey
  have hlt : i < edges.size := List.mem_range.1 hi
  have hne : Ident.int i ≠ .int edges.size := by
    simp only [ne_eq, Ident.int.injEq, Int.natCast_inj]
    exact Nat.ne_of_lt hlt
  have hbeq := Ident.toValue_beq (.int i) (.int edges.size)
  rw [decide_eq_false hne] at hbeq
  rw [← hie]
  exact hbeq

/-- Where edges are numbered, the next number is fresh. -/
lemma Numbered.freshKey_eq : freshKey edges = .int edges.size := by
  have hcontains : edges.contains (.int edges.size) = false :=
    List.any_eq_false.2 fun e he => by simp [h.beq_eq_false he]
  rw [freshKey, List.range_succ_eq_map, List.map_cons, List.find?_cons_of_pos]
  · simp
  · simp [hcontains]

lemma Numbered.entries_writeEdge (attributes : List (Value × Value)) :
    (writeEdge edges (freshKey edges) attributes).entries =
      edges.entries ++ [(.int edges.size, .ofList attributes)] := by
  have hcontains : edges.contains (.int edges.size) = false :=
    List.any_eq_false.2 fun e he => by simp [h.beq_eq_false he]
  have hfind : edges.find? (.int edges.size) = none :=
    OrderedMap.find?_eq_none_of_forall fun e he => h.beq_eq_false he
  rw [h.freshKey_eq, writeEdge, hfind, OrderedMap.entries_insert_of_contains_eq_false hcontains]
  rfl

lemma Numbered.writeEdge (attributes : List (Value × Value)) :
    Numbered (writeEdge edges (freshKey edges) attributes) := by
  have hentries := h.entries_writeEdge attributes
  have hsize : (Network.writeEdge edges (freshKey edges) attributes).size = edges.size + 1 := by
    rw [OrderedMap.size, hentries, List.length_append]
    rfl
  have hkeys : edges.entries.map Prod.fst =
      (List.range edges.size).map fun (i : Nat) => Value.int i := h
  rw [Numbered, hsize, OrderedMap.keys, hentries, List.map_append, hkeys, List.range_succ,
    List.map_append]
  rfl

end Numbered

/-! ### What links carry -/

/-- What the edges of a link tell: the names of the ends and the attributes of each. -/
def linkContents (l : Link) : List (Value × Value × Attributes) :=
  l.edges.entries.map fun e => (l.source.name, l.target.name, e.2)

/-- An end of a link has the name of its vertex. -/
def Bears (vertices : List Vertex) (e : Endpoint) : Prop :=
  ∃ v ∈ vertices, v.slot = e.slot ∧ v.name = e.name

/-- Links between some vertices carry some edges, numbered link by link. -/
structure LinksCarry (vertices : List Vertex) (links : List Link)
    (contents : List (Value × Value × Attributes)) : Prop where
  ends : ∀ l ∈ links, Bears vertices l.source ∧ Bears vertices l.target
  numbered : ∀ l ∈ links, Numbered l.edges
  contents : (links.flatMap linkContents).Perm contents

/-- The link of a first edge between two vertices. -/
def firstLink (u v : Vertex) (attributes : List (Value × Value)) : Link :=
  ⟨⟨u.slot, u.name⟩, ⟨v.slot, v.name⟩, writeEdge .empty (freshKey .empty) attributes⟩

/-- A link with another edge. -/
def extendLink (l : Link) (attributes : List (Value × Value)) : Link :=
  { l with edges := writeEdge l.edges (freshKey l.edges) attributes }

namespace LinksCarry

variable {vertices : List Vertex} {links ls ls' : List Link} {link : Link}
  {contents : List (Value × Value × Attributes)}

/-- A first edge between two vertices gets a link of its own. -/
lemma concat (h : LinksCarry vertices links contents) {u v : Vertex} (hu : u ∈ vertices)
    (hv : v ∈ vertices) (attributes : List (Value × Value)) :
    LinksCarry vertices (links ++ [firstLink u v attributes])
      (contents ++ [(u.name, v.name, .ofList attributes)]) where
  ends := List.forall_mem_append.2
    ⟨h.ends, List.forall_mem_singleton.2 ⟨⟨u, hu, rfl, rfl⟩, v, hv, rfl, rfl⟩⟩
  numbered := List.forall_mem_append.2
    ⟨h.numbered, List.forall_mem_singleton.2 (numbered_empty.writeEdge attributes)⟩
  contents := by
    have hlink : linkContents (firstLink u v attributes) =
        [(u.name, v.name, .ofList attributes)] := by
      simp only [linkContents, firstLink, numbered_empty.entries_writeEdge attributes]
      rfl
    rw [List.flatMap_append, List.flatMap_singleton, hlink]
    exact h.contents.append_right _

/-- Another edge goes to the end of its link. -/
lemma extend (h : LinksCarry vertices (ls ++ link :: ls') contents)
    (attributes : List (Value × Value)) :
    LinksCarry vertices (ls ++ extendLink link attributes :: ls')
      (contents ++ [(link.source.name, link.target.name, .ofList attributes)]) := by
  have hends := h.ends
  have hnumbered := h.numbered
  rw [List.forall_mem_append, List.forall_mem_cons] at hends hnumbered
  obtain ⟨hends, hendsLink, hends'⟩ := hends
  obtain ⟨hnumbered, hnumberedLink, hnumbered'⟩ := hnumbered
  have hlink : linkContents (extendLink link attributes) =
      linkContents link ++ [(link.source.name, link.target.name, .ofList attributes)] := by
    simp only [linkContents, extendLink, hnumberedLink.entries_writeEdge attributes,
      List.map_append]
    rfl
  refine ⟨?_, ?_, ?_⟩
  · exact List.forall_mem_append.2 ⟨hends, List.forall_mem_cons.2 ⟨hendsLink, hends'⟩⟩
  · exact List.forall_mem_append.2
      ⟨hnumbered, List.forall_mem_cons.2 ⟨hnumberedLink.writeEdge attributes, hnumbered'⟩⟩
  · refine List.Perm.trans ?_ (h.contents.append_right _)
    simp only [List.flatMap_append, List.flatMap_cons, hlink, List.append_assoc]
    exact (List.perm_append_comm.append_left _).append_left _

end LinksCarry

/-! ### What a network carries -/

/-- A network carries some vertices and some edges, and nothing else. -/
structure Carries (g : Network) (vs : List VertexEntry) (es : List EdgeEntry) : Prop where
  wellFormed : g.WellFormed
  directed : g.directed = true
  parallel : g.parallel = true
  vertices : g.vertices.map (fun v => (v.name, v.attributes)) =
    vs.map fun v => (v.1.toValue, .ofList v.2)
  links : LinksCarry g.vertices g.links
    (es.map fun e => (e.1.toValue, e.2.1.toValue, .ofList e.2.2))

lemma carries_empty : (empty true true).Carries [] [] where
  wellFormed := wellFormed_empty true true
  directed := rfl
  parallel := rfl
  vertices := rfl
  links := ⟨fun _ hl => absurd hl List.not_mem_nil, fun _ hl => absurd hl List.not_mem_nil, .nil⟩

namespace Carries

variable {g : Network} {vs : List VertexEntry} {es : List EdgeEntry} {id : Ident}
  {attributes : List (Value × Value)}

lemma exists_entry (h : g.Carries vs es) {v : Vertex} (hv : v ∈ g.vertices) :
    ∃ p ∈ vs, p.1.toValue = v.name := by
  have hmem := List.mem_map_of_mem (f := fun v : Vertex => (v.name, v.attributes)) hv
  rw [h.vertices] at hmem
  obtain ⟨p, hp, hpv⟩ := List.mem_map.1 hmem
  exact ⟨p, hp, congrArg Prod.fst hpv⟩

lemma exists_vertex (h : g.Carries vs es) {p : VertexEntry} (hp : p ∈ vs) :
    ∃ v ∈ g.vertices, v.name = p.1.toValue := by
  have hmem := List.mem_map_of_mem (f := fun v : VertexEntry =>
    (v.1.toValue, OrderedMap.ofList v.2)) hp
  rw [← h.vertices] at hmem
  obtain ⟨v, hv, hvp⟩ := List.mem_map.1 hmem
  exact ⟨v, hv, congrArg Prod.fst hvp⟩

/-- A name is looked up by what it is, although among all values being the same key is less. -/
lemma beq_name_iff (h : g.Carries vs es) {v : Vertex} (hv : v ∈ g.vertices) :
    (v.name == id.toValue) = true ↔ v.name = id.toValue := by
  obtain ⟨p, -, hp⟩ := h.exists_entry hv
  rw [← hp, Ident.toValue_beq, decide_eq_true_iff]
  constructor
  · rintro rfl
    rfl
  · intro heq
    have hforeign := congrArg Ident.ofForeign heq
    rwa [Ident.ofForeign_toValue, Ident.ofForeign_toValue] at hforeign

lemma ensure_of_mem (h : g.Carries vs es) (hid : id ∈ vs.map Prod.fst) :
    ∃ v ∈ g.vertices, v.name = id.toValue ∧ g.ensure id.toValue = .ok (g, v.slot) := by
  obtain ⟨p, hp, rfl⟩ := List.mem_map.1 hid
  obtain ⟨w, hw, hwname⟩ := h.exists_vertex hp
  have hsome : (g.vertices.find? fun v => v.name == p.1.toValue).isSome :=
    List.find?_isSome.2 ⟨w, hw, (h.beq_name_iff hw).2 hwname⟩
  obtain ⟨v, hv⟩ := Option.isSome_iff_exists.1 hsome
  have hmem := List.mem_of_find?_eq_some hv
  have hbeq : (v.name == p.1.toValue) = true := by simpa using List.find?_some hv
  have hslot : g.slot? p.1.toValue = some v.slot := by rw [slot?, hv, Option.map_some]
  exact ⟨v, hmem, (h.beq_name_iff hmem).1 hbeq, ensure_of_slot? p.1.isKey_toValue hslot⟩

lemma ensure_of_notMem (h : g.Carries vs es) (hid : id ∉ vs.map Prod.fst) :
    g.ensure id.toValue = .ok (g.withVertex id.toValue, g.nextSlot) := by
  refine ensure_of_new id.isKey_toValue ?_ (by cases id <;> exact Value.noConfusion)
  rw [slot?, Option.map_eq_none_iff, List.find?_eq_none]
  intro v hv hbeq
  obtain ⟨p, hp, hpv⟩ := h.exists_entry hv
  have heq := congrArg Ident.ofForeign (hpv.trans ((h.beq_name_iff hv).1 hbeq))
  rw [Ident.ofForeign_toValue, Ident.ofForeign_toValue] at heq
  exact hid (heq ▸ List.mem_map_of_mem hp)

/-! ### Adding a vertex -/

lemma vertices_writeVertex_withVertex (h : g.Carries vs es) (id : Ident)
    (attributes : List (Value × Value)) :
    ((g.withVertex id.toValue).writeVertex g.nextSlot attributes).vertices =
      g.vertices ++ [⟨g.nextSlot, id.toValue, .ofList attributes⟩] := by
  -- only the new vertex is written to
  have hold : g.vertices.map (Vertex.write g.nextSlot attributes) = g.vertices := by
    refine (List.map_congr_left fun v hv => ?_).trans (List.map_id _)
    exact Vertex.write_of_ne (Nat.ne_of_lt (h.wellFormed.slots_lt v hv))
  have hnew : Vertex.write g.nextSlot attributes ⟨g.nextSlot, id.toValue, .empty⟩ =
      ⟨g.nextSlot, id.toValue, .ofList attributes⟩ := if_pos (beq_self_eq_true _)
  rw [writeVertex, withVertex, List.map_append, hold, List.map_singleton, hnew]

/-- A vertex with a new name can be added. -/
theorem addVertex (h : g.Carries vs es) (hid : id ∉ vs.map Prod.fst)
    (attributes : List (Value × Value)) :
    ∃ g', g.apply (.addVertex id.toValue attributes) = .ok g' ∧
      g'.Carries (vs ++ [(id, attributes)]) es := by
  have happly : g.apply (.addVertex id.toValue attributes) =
      .ok ((g.withVertex id.toValue).writeVertex g.nextSlot attributes) :=
    addVertex_eq_ok_iff.2 ⟨_, _, h.ensure_of_notMem hid, rfl⟩
  have hvertices := h.vertices_writeVertex_withVertex id attributes
  refine ⟨_, happly, h.wellFormed.apply happly, h.directed, h.parallel, ?_, ?_⟩
  · rw [hvertices, List.map_append, h.vertices, List.map_append]
    rfl
  · have hbears {e : Endpoint} (he : Bears g.vertices e) : Bears
        (g.vertices ++ [⟨g.nextSlot, id.toValue, .ofList attributes⟩]) e := by
      obtain ⟨v, hv, hve⟩ := he
      exact ⟨v, List.mem_append_left _ hv, hve⟩
    rw [hvertices]
    exact ⟨fun l hl => ⟨hbears (h.links.ends l hl).1, hbears (h.links.ends l hl).2⟩,
      h.links.numbered, h.links.contents⟩

/-! ### Adding an edge -/

/-- A link between some vertices is the only one. -/
lemma exists_split_of_link? (h : g.Carries vs es) {u v : Nat} {link : Link}
    (hlink : g.link? u v = some link) :
    ∃ ls ls', g.links = ls ++ link :: ls' ∧
      ∀ l ∈ ls ++ ls', l.joins g.directed u v = false := by
  have hjoins : link.joins g.directed u v = true := by simpa using List.find?_some hlink
  obtain ⟨ls, ls', hsplit⟩ := List.append_of_mem (List.mem_of_find?_eq_some hlink)
  have hapart := h.wellFormed.apart
  rw [hsplit, List.pairwise_append, List.pairwise_cons] at hapart
  obtain ⟨-, ⟨hafter, -⟩, hbefore⟩ := hapart
  refine ⟨ls, ls', hsplit, fun l hl => Bool.eq_false_iff.2 fun hl' => ?_⟩
  rcases List.mem_append.1 hl with hl | hl
  · have hfalse := hbefore l hl link List.mem_cons_self
    rw [Link.joins_of_joins hl' hjoins] at hfalse
    simp at hfalse
  · have hfalse := hafter l hl
    rw [Link.joins_of_joins hjoins hl'] at hfalse
    simp at hfalse

lemma name_eq_of_slot_eq (h : g.Carries vs es) {e : Endpoint} (he : Bears g.vertices e)
    {v : Vertex} (hv : v ∈ g.vertices) (hslot : e.slot = v.slot) : e.name = v.name := by
  obtain ⟨w, hw, hwslot, hwname⟩ := he
  have hwv : w = v := List.inj_on_of_nodup_map h.wellFormed.slots hw hv (hwslot.trans hslot)
  rw [← hwname, hwv]

/-- The edge goes to the link between its ends if there is one. -/
lemma exists_links_connect (h : g.Carries vs es) {u v : Vertex} (hu : u ∈ g.vertices)
    (hv : v ∈ g.vertices) (attributes : List (Value × Value)) :
    ∃ links, g.connect ⟨u.slot, u.name⟩ ⟨v.slot, v.name⟩ attributes none = { g with links } ∧
      LinksCarry g.vertices links
        ((es.map fun e => (e.1.toValue, e.2.1.toValue, .ofList e.2.2)) ++
          [(u.name, v.name, .ofList attributes)]) := by
  have hkey (edges : OrderedMap Value Attributes) : g.edgeKey edges none = freshKey edges := by
    rw [edgeKey, h.parallel]
    rfl
  cases hlink : g.link? u.slot v.slot with
  | none =>
    refine ⟨_, ?_, h.links.concat hu hv attributes⟩
    simp only [connect, hlink, hkey]
    rfl
  | some link =>
    obtain ⟨ls, ls', hsplit, hothers⟩ := h.exists_split_of_link? hlink
    have hjoins : link.joins g.directed u.slot v.slot = true := by
      simpa using List.find?_some hlink
    have hmem : link ∈ g.links := List.mem_of_find?_eq_some hlink
    have hnames : link.source.name = u.name ∧ link.target.name = v.name := by
      have hslots := hjoins
      rw [h.directed, Link.joins_iff] at hslots
      obtain ⟨hsource, htarget⟩ := hslots.resolve_right (by simp)
      exact ⟨h.name_eq_of_slot_eq (h.links.ends link hmem).1 hu hsource,
        h.name_eq_of_slot_eq (h.links.ends link hmem).2 hv htarget⟩
    have hcarry := h.links
    rw [hsplit] at hcarry
    have hextend := hcarry.extend attributes
    rw [hnames.1, hnames.2] at hextend
    refine ⟨_, ?_, hextend⟩
    -- the other links stay
    have hstay (ms : List Link) (hms : ∀ l ∈ ms, l ∈ ls ++ ls') : (ms.map fun l =>
        if l.joins g.directed u.slot v.slot then
          { l with edges := writeEdge l.edges (freshKey l.edges) attributes } else l) = ms := by
      refine (List.map_congr_left fun l hl => ?_).trans (List.map_id _)
      rw [hothers l (hms l hl)]
      rfl
    simp only [connect, hlink, hkey]
    rw [hsplit, List.map_append, List.map_cons, hstay ls fun _ => List.mem_append_left _,
      hstay ls' fun _ => List.mem_append_right _, if_pos hjoins]
    rfl

/-- An edge between vertices that are there can be added. -/
theorem addEdge (h : g.Carries vs es) {a b : Ident} (ha : a ∈ vs.map Prod.fst)
    (hb : b ∈ vs.map Prod.fst) (attributes : List (Value × Value)) :
    ∃ g', g.apply (.addEdge a.toValue b.toValue attributes none) = .ok g' ∧
      g'.Carries vs (es ++ [(a, b, attributes)]) := by
  obtain ⟨u, hu, huname, hsource⟩ := h.ensure_of_mem ha
  obtain ⟨v, hv, hvname, htarget⟩ := h.ensure_of_mem hb
  obtain ⟨links, hconnect, hlinks⟩ := h.exists_links_connect hu hv attributes
  have happly : g.apply (.addEdge a.toValue b.toValue attributes none) =
      .ok { g with links } := by
    have hkey : ∀ k, (none : Option Value) = some k → g.parallel = true → k.isKey = true := nofun
    refine addEdge_eq_ok_iff.2 ⟨_, _, hsource, _, _, htarget, hkey, ?_⟩
    rw [← huname, ← hvname]
    exact hconnect
  refine ⟨_, happly, h.wellFormed.apply happly, h.directed, h.parallel, h.vertices, ?_⟩
  rw [huname, hvname] at hlinks
  rw [List.map_append]
  exact hlinks

end Carries

/-! ### Vertex by vertex and edge by edge -/

/-- The change that puts a vertex in. -/
def VertexEntry.change (v : VertexEntry) : Change := .addVertex v.1.toValue v.2

/-- The change that puts an edge in. -/
def EdgeEntry.change (e : EdgeEntry) : Change :=
  .addEdge e.1.toValue e.2.1.toValue e.2.2 none

lemma applyAll_append (g : Network) (changes changes' : List Change) :
    g.applyAll (changes ++ changes') = g.applyAll changes >>= fun g' => g'.applyAll changes' := by
  rw [applyAll, List.foldlM_append]
  rfl

namespace Carries

variable {g : Network} {vs before : List VertexEntry} {es earlier : List EdgeEntry}

-- by induction on the vertices that are still to come
lemma exists_addVertices (h : g.Carries before []) (hvs : ((before ++ vs).map Prod.fst).Nodup) :
    ∃ g', g.applyAll (vs.map VertexEntry.change) = .ok g' ∧ g'.Carries (before ++ vs) [] := by
  induction vs generalizing g before with
  | nil =>
    rw [List.append_nil]
    exact ⟨g, rfl, h⟩
  | cons v vs ih =>
    have hv : v.1 ∉ before.map Prod.fst := by
      rw [List.map_append, List.nodup_append] at hvs
      exact fun hmem => hvs.2.2 _ hmem _ List.mem_cons_self rfl
    obtain ⟨g₁, hg₁, h₁⟩ := h.addVertex hv v.2
    rw [List.append_cons] at hvs ⊢
    obtain ⟨g₂, hg₂, h₂⟩ := ih h₁ hvs
    refine ⟨g₂, ?_, h₂⟩
    rw [List.map_cons, applyAll, List.foldlM_cons]
    exact bind_eq_ok_iff.2 ⟨g₁, hg₁, hg₂⟩

lemma exists_addEdges (h : g.Carries vs earlier)
    (hes : ∀ e ∈ es, e.1 ∈ vs.map Prod.fst ∧ e.2.1 ∈ vs.map Prod.fst) :
    ∃ g', g.applyAll (es.map EdgeEntry.change) = .ok g' ∧ g'.Carries vs (earlier ++ es) := by
  induction es generalizing g earlier with
  | nil =>
    rw [List.append_nil]
    exact ⟨g, rfl, h⟩
  | cons e es ih =>
    obtain ⟨⟨hsource, htarget⟩, hes⟩ := List.forall_mem_cons.1 hes
    obtain ⟨g₁, hg₁, h₁⟩ := h.addEdge hsource htarget e.2.2
    obtain ⟨g₂, hg₂, h₂⟩ := ih h₁ hes
    rw [List.append_cons]
    refine ⟨g₂, ?_, h₂⟩
    rw [List.map_cons, applyAll, List.foldlM_cons]
    exact bind_eq_ok_iff.2 ⟨g₁, hg₁, hg₂⟩

end Carries

/-- Vertices with distinct names and edges between them can be put in one after another. -/
theorem exists_carries {vs : List VertexEntry} {es : List EdgeEntry}
    (hvs : (vs.map Prod.fst).Nodup)
    (hes : ∀ e ∈ es, e.1 ∈ vs.map Prod.fst ∧ e.2.1 ∈ vs.map Prod.fst) :
    ∃ g, (empty true true).applyAll (vs.map VertexEntry.change ++ es.map EdgeEntry.change) =
      .ok g ∧ g.Carries vs es := by
  have hnames : (([] ++ vs).map Prod.fst).Nodup := hvs
  obtain ⟨g₁, hg₁, h₁⟩ := carries_empty.exists_addVertices hnames
  obtain ⟨g₂, hg₂, h₂⟩ := h₁.exists_addEdges hes
  refine ⟨g₂, ?_, h₂⟩
  rw [applyAll_append]
  exact bind_eq_ok_iff.2 ⟨g₁, hg₁, hg₂⟩

/-! ### Going through the edges -/

/-- What an edge tells as it is met. -/
def Edge.content (e : Edge) : Value × Value × Attributes := (e.source, e.target, e.attributes)

/-- Going through the edges of a network finds the edges that have been put in. -/
theorem Carries.perm_edges {g : Network} {vs : List VertexEntry} {es : List EdgeEntry}
    (h : g.Carries vs es) : (g.edges.map Edge.content).Perm
      (es.map fun e => (e.1.toValue, e.2.1.toValue, .ofList e.2.2)) := by
  -- vertex by vertex, the links that start there
  have hedges : g.edges.map Edge.content =
      (gatherBy (fun l : Link => l.source.slot) (g.vertices.map Vertex.slot) g.links).flatMap
        linkContents := by
    rw [edges_eq_flatMap_arcs, arcs_of_directed h.directed, gatherBy, List.flatMap_map,
      List.flatMap_assoc, List.flatMap_assoc, List.map_flatMap]
    refine List.flatMap_congr fun v hv => ?_
    rw [arcsAt_of_directed h.directed, List.flatMap_map, List.map_flatMap]
    refine List.flatMap_congr fun l hl => ?_
    obtain ⟨hl, hslot⟩ := List.mem_filter.1 hl
    have hname : l.source.name = v.name :=
      h.name_eq_of_slot_eq (h.links.ends l hl).1 hv (beq_iff_eq.1 hslot)
    rw [edgesOf, List.map_map, linkContents, hname]
    rfl
  have hslots : ∀ l ∈ g.links, l.source.slot ∈ g.vertices.map Vertex.slot := by
    intro l hl
    obtain ⟨v, hv, hslot, -⟩ := (h.links.ends l hl).1
    exact List.mem_map.2 ⟨v, hv, hslot⟩
  rw [hedges]
  exact ((perm_gatherBy h.wellFormed.slots hslots).flatMap_right _).trans h.links.contents

end Network
end PropertyGraph
