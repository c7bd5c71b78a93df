/-
# What a rendered graph looks like

A network can be written down for a list of nodes and a list of relationships at once
(`Network.rendered`): a vertex for every node, and between two nodes that are connected a link with
an edge for every relationship, the links in the order in which the connections first appear.
Rendering a graph element by element comes to this network: a node or a relationship added to the
network of those before it gives the network with this one too (`addVertex_rendered`,
`addEdge_rendered`).

An element is refused because of the names of its properties and for no other reason
(`renderNode_eq`, `renderRelationship_eq`): the identifiers of a graph are keys, they are told
apart, and the ends of a relationship are there.  So the first element with such a name decides
(`ofSnapshot?_eq`).

Going through the edges of the network gives the relationships grouped by their ends
(`edges_rendered`).
-/
import PropertyGraph.Proofs.Gathering
import PropertyGraph.Proofs.Network.Attributes
import PropertyGraph.Proofs.Network.Steps

namespace PropertyGraph

open Network

/-! ### Names that clash -/

/-- Why properties cannot become attributes: one has the name of the own attribute of the element,
or else one has a name that attributes cannot have. -/
def Properties.clash? (ps : Properties) (own : String) (taken : RenderFault)
    (reserved : List String) : Option RenderFault :=
  if ps.contains own then some taken else (reserved.find? ps.contains).map .reservedName

/-- Why a node cannot be rendered. -/
def Node.clash? (n : Node) : Option RenderFault :=
  n.properties.clash? labelsKey .labelsTaken reservedForVertices

/-- Why a relationship cannot be rendered. -/
def Relationship.clash? (r : Relationship) : Option RenderFault :=
  r.properties.clash? typeKey .typeTaken reservedForEdges

/-- Why a graph cannot be rendered: the first node that cannot, or else the first relationship. -/
def Snapshot.clash? (s : Snapshot) : Option RenderFault :=
  (s.nodes.findSome? Node.clash?).or (s.relationships.findSome? Relationship.clash?)

lemma Properties.clash?_eq_none_iff {ps : Properties} {own : String} {taken : RenderFault}
    {reserved : List String} : ps.clash? own taken reserved = none ↔
      own ∉ ps.keys ∧ ∀ name ∈ reserved, name ∉ ps.keys := by
  rw [clash?, ← OrderedMap.contains_iff]
  by_cases hown : ps.contains own = true
  · simp [hown]
  · simp [hown, ← OrderedMap.contains_iff]

lemma Snapshot.clash?_eq_none_iff {s : Snapshot} : s.clash? = none ↔
    (∀ n ∈ s.nodes, n.clash? = none) ∧ ∀ r ∈ s.relationships, r.clash? = none := by
  rw [clash?, Option.or_eq_none_iff, List.findSome?_eq_none_iff, List.findSome?_eq_none_iff]

lemma Node.labelsKey_notMem {n : Node} (h : n.clash? = none) : labelsKey ∉ n.properties.keys :=
  (Properties.clash?_eq_none_iff.1 h).1

lemma Relationship.typeKey_notMem {r : Relationship} (h : r.clash? = none) :
    typeKey ∉ r.properties.keys :=
  (Properties.clash?_eq_none_iff.1 h).1

namespace Network

lemma renderNode_eq (g : Network) (n : Node) : renderNode g n = match n.clash? with
    | some fault => .error fault
    | none => (g.addVertex n.id.toValue n.attributeList).mapError .network := by
  unfold renderNode Node.clash? Properties.clash?
  by_cases hown : n.properties.contains labelsKey = true
  · rw [if_pos hown, if_pos hown]
    rfl
  · rw [if_neg hown, if_neg hown]
    cases reservedForVertices.find? n.properties.contains <;> rfl

lemma renderRelationship_eq (g : Network) (r : Relationship) :
    renderRelationship g r = match r.clash? with
      | some fault => .error fault
      | none => (g.addEdge r.source.toValue r.target.toValue r.attributeList
          (some r.id.toValue)).mapError .network := by
  unfold renderRelationship Relationship.clash? Properties.clash?
  by_cases hown : r.properties.contains typeKey = true
  · rw [if_pos hown, if_pos hown]
    rfl
  · rw [if_neg hown, if_neg hown]
    cases reservedForEdges.find? r.properties.contains <;> rfl

end Network

/-! ### The network of some elements -/

/-- What a relationship connects. -/
def Relationship.ends (r : Relationship) : Ident × Ident := (r.source, r.target)

namespace Network

/-- The edges of a link that stands for some relationships. -/
def edgeMap (rs : List Relationship) : OrderedMap Value Attributes :=
  .ofList (rs.map fun r => (r.id.toValue, .ofList r.attributeList))

/-- The link between two nodes, with the edges of the relationships that connect them. -/
def linkBetween (ids : List Ident) (rs : List Relationship) (e : Ident × Ident) : Link where
  source := ⟨ids.idxOf e.1, e.1.toValue⟩
  target := ⟨ids.idxOf e.2, e.2.toValue⟩
  edges := edgeMap (rs.filter fun r => r.ends == e)

/-- The network with a vertex for every node and an edge for every relationship. -/
def rendered (nodes : List Node) (rs : List Relationship) : Network where
  directed := true
  parallel := true
  vertices := nodes.zipIdx.map fun (n, i) => ⟨i, n.id.toValue, .ofList n.attributeList⟩
  links := (rs.map Relationship.ends).eraseDups.map (linkBetween (nodes.map Node.id) rs)
  nextSlot := nodes.length

section Rendered

variable {nodes : List Node} {rs : List Relationship}

/-! ### Vertices -/

lemma find?_zipIdx_id (nodes : List Node) (k : Nat) (id : Ident) :
    ((nodes.zipIdx k).find? fun p => p.1.id.toValue == id.toValue).map Prod.snd =
      if id ∈ nodes.map Node.id then some (k + (nodes.map Node.id).idxOf id) else none := by
  induction nodes generalizing k with
  | nil => rfl
  | cons n nodes ih =>
    rw [List.zipIdx_cons, List.map_cons, List.idxOf_cons]
    by_cases h : n.id = id
    · simp [h, Ident.toValue_beq]
    · rw [List.find?_cons_of_neg (by simp [h, Ident.toValue_beq]), ih]
      have hne : (n.id == id) = false := beq_eq_false_iff_ne.2 h
      have hidx (j : Nat) : k + 1 + j = k + (j + 1) := by omega
      simp [hne, Ne.symm h, hidx]

lemma slot?_rendered (nodes : List Node) (rs : List Relationship) (id : Ident) :
    (rendered nodes rs).slot? id.toValue =
      if id ∈ nodes.map Node.id then some ((nodes.map Node.id).idxOf id) else none := by
  have h := find?_zipIdx_id nodes 0 id
  rw [Nat.zero_add] at h
  rw [← h, slot?, rendered, List.find?_map, Option.map_map]
  rfl

/-- A node that is there is found. -/
lemma ensure_rendered {id : Ident} (h : id ∈ nodes.map Node.id) :
    (rendered nodes rs).ensure id.toValue =
      .ok (rendered nodes rs, (nodes.map Node.id).idxOf id) := by
  refine ensure_of_slot? id.isKey_toValue ?_
  rw [slot?_rendered, if_pos h]

/-- A node that is not there yet becomes the last vertex. -/
lemma ensure_rendered_of_notMem {id : Ident} (h : id ∉ nodes.map Node.id) :
    (rendered nodes rs).ensure id.toValue =
      .ok ((rendered nodes rs).withVertex id.toValue, nodes.length) := by
  refine ensure_of_new id.isKey_toValue ?_ ?_
  · rw [slot?_rendered, if_neg h]
  · cases id <;> exact Value.noConfusion

lemma slot_lt_of_mem_rendered {v : Vertex} (hv : v ∈ (rendered nodes rs).vertices) :
    v.slot < nodes.length := by
  obtain ⟨⟨n, i⟩, hni, rfl⟩ := List.mem_map.1 hv
  simpa using (List.mem_zipIdx hni).2.1

/-- The vertices of some nodes and of another one. -/
lemma vertices_rendered_concat (nodes : List Node) (n : Node) (rs : List Relationship) :
    (rendered (nodes ++ [n]) rs).vertices =
      (rendered nodes rs).vertices ++ [⟨nodes.length, n.id.toValue, .ofList n.attributeList⟩] := by
  simp [rendered, List.zipIdx_append]

lemma addVertex_rendered {n : Node} (h : n.id ∉ nodes.map Node.id) :
    (rendered nodes []).addVertex n.id.toValue n.attributeList =
      .ok (rendered (nodes ++ [n]) []) := by
  refine addVertex_eq_ok_iff.2 ⟨_, _, ensure_rendered_of_notMem h, ?_⟩
  -- only the new vertex is written to
  have hold : (rendered nodes []).vertices.map (Vertex.write nodes.length n.attributeList) =
      (rendered nodes []).vertices := by
    refine (List.map_congr_left fun v hv => ?_).trans (List.map_id _)
    exact Vertex.write_of_ne (Nat.ne_of_lt (slot_lt_of_mem_rendered hv))
  have hnew : Vertex.write nodes.length n.attributeList ⟨nodes.length, n.id.toValue, .empty⟩ =
      ⟨nodes.length, n.id.toValue, .ofList n.attributeList⟩ := if_pos (beq_self_eq_true _)
  have hrendered : rendered (nodes ++ [n]) [] =
      ⟨true, true, (rendered (nodes ++ [n]) []).vertices, [], nodes.length + 1⟩ := by
    simp [rendered]
  rw [hrendered, vertices_rendered_concat, ← hold, ← hnew, writeVertex, withVertex, List.map_append]
  rfl

/-! ### Links -/

lemma joins_linkBetween {ids : List Ident} {a b : Ident} (ha : a ∈ ids) (hb : b ∈ ids)
    (rs : List Relationship) (e : Ident × Ident) :
    (linkBetween ids rs e).joins true (ids.idxOf a) (ids.idxOf b) = decide (e = (a, b)) := by
  obtain ⟨c, d⟩ := e
  have hsource : (ids.idxOf c == ids.idxOf a) = decide (c = a) := by
    rw [Bool.eq_iff_iff, beq_iff_eq, eq_comm, List.idxOf_inj ha, decide_eq_true_iff, eq_comm]
  have htarget : (ids.idxOf d == ids.idxOf b) = decide (d = b) := by
    rw [Bool.eq_iff_iff, beq_iff_eq, eq_comm, List.idxOf_inj hb, decide_eq_true_iff, eq_comm]
  simp [Link.joins, linkBetween, hsource, htarget]

lemma entries_edgeMap (h : (rs.map Relationship.id).Nodup) :
    (edgeMap rs).entries = rs.map fun r => (r.id.toValue, .ofList r.attributeList) := by
  refine OrderedMap.entries_ofList_of_pairwise (List.pairwise_map.2 ?_)
  refine (List.pairwise_map.1 h).imp fun hne => ?_
  rw [Ident.toValue_beq]
  exact decide_eq_false hne

/-- The edge of a relationship whose identifier is new goes to the end. -/
lemma writeEdge_edgeMap {r : Relationship} (h : ((rs ++ [r]).map Relationship.id).Nodup) :
    writeEdge (edgeMap rs) r.id.toValue r.attributeList = edgeMap (rs ++ [r]) := by
  rw [List.map_append, List.nodup_append] at h
  have hnone : (edgeMap rs).find? r.id.toValue = none := by
    refine OrderedMap.find?_eq_none_of_forall fun e he => ?_
    rw [entries_edgeMap h.1] at he
    obtain ⟨q, hq, rfl⟩ := List.mem_map.1 he
    have hne : q.id ≠ r.id := h.2.2 q.id (List.mem_map_of_mem hq) r.id (by simp)
    rw [Ident.toValue_beq]
    exact decide_eq_false hne
  rw [writeEdge, hnone, edgeMap, edgeMap, List.map_append, List.map_cons, List.map_nil,
    OrderedMap.ofList_concat]
  rfl

lemma find?_decide_eq {α : Type} [DecidableEq α] {xs : List α} {x : α} :
    xs.find? (fun y => decide (y = x)) = if x ∈ xs then some x else none := by
  cases hfind : xs.find? fun y => decide (y = x) with
  | none =>
    have hmem : x ∉ xs := fun hx => by simpa using List.find?_eq_none.1 hfind x hx
    rw [if_neg hmem]
  | some y =>
    obtain rfl : y = x := by simpa using List.find?_some hfind
    rw [if_pos (List.mem_of_find?_eq_some hfind)]

lemma link?_rendered {a b : Ident} (ha : a ∈ nodes.map Node.id) (hb : b ∈ nodes.map Node.id) :
    (rendered nodes rs).link? ((nodes.map Node.id).idxOf a) ((nodes.map Node.id).idxOf b) =
      if (a, b) ∈ rs.map Relationship.ends then
        some (linkBetween (nodes.map Node.id) rs (a, b)) else none := by
  have hjoins : Link.joins true ((nodes.map Node.id).idxOf a) ((nodes.map Node.id).idxOf b) ∘
      linkBetween (nodes.map Node.id) rs = fun e => decide (e = (a, b)) :=
    funext (joins_linkBetween ha hb rs)
  rw [link?, rendered, List.find?_map, hjoins, find?_decide_eq]
  by_cases h : (a, b) ∈ rs.map Relationship.ends
  · rw [if_pos (List.mem_eraseDups.2 h), if_pos h]
    rfl
  · rw [if_neg (fun h' => h (List.mem_eraseDups.1 h')), if_neg h]
    rfl

/-- One more relationship matters to the link between its ends only. -/
lemma linkBetween_concat (ids : List Ident) {r : Relationship} {e : Ident × Ident}
    (hid : ((rs ++ [r]).map Relationship.id).Nodup) :
    linkBetween ids (rs ++ [r]) e =
      if e = r.ends then { linkBetween ids rs e with
        edges := writeEdge (linkBetween ids rs e).edges r.id.toValue r.attributeList }
      else linkBetween ids rs e := by
  by_cases h : e = r.ends
  · subst h
    have hsub : (((rs.filter fun q => q.ends == r.ends) ++ [r]).map Relationship.id).Nodup :=
      hid.sublist ((List.filter_sublist.append_right [r]).map _)
    rw [if_pos rfl]
    simp only [linkBetween, writeEdge_edgeMap hsub, List.filter_append, List.filter_singleton,
      beq_self_eq_true, cond_true]
  · have hne : (r.ends == e) = false := beq_eq_false_iff_ne.2 (Ne.symm h)
    rw [if_neg h]
    simp only [linkBetween, List.filter_append, List.filter_singleton, hne, cond_false,
      List.append_nil]

lemma links_rendered (nodes : List Node) (rs : List Relationship) :
    (rendered nodes rs).links =
      (rs.map Relationship.ends).eraseDups.map (linkBetween (nodes.map Node.id) rs) := rfl

/-- Only the relationships decide on the links. -/
lemma rendered_eq {rs' : List Relationship} {links : List Link}
    (h : links = (rendered nodes rs').links) :
    { rendered nodes rs with links } = rendered nodes rs' := by
  subst h
  rfl

lemma connect_rendered {r : Relationship} (hs : r.source ∈ nodes.map Node.id)
    (ht : r.target ∈ nodes.map Node.id) (hid : ((rs ++ [r]).map Relationship.id).Nodup) :
    (rendered nodes rs).connect ⟨(nodes.map Node.id).idxOf r.source, r.source.toValue⟩
      ⟨(nodes.map Node.id).idxOf r.target, r.target.toValue⟩ r.attributeList
      (some r.id.toValue) = rendered nodes (rs ++ [r]) := by
  have hjoins (e : Ident × Ident) : (linkBetween (nodes.map Node.id) rs e).joins true
      ((nodes.map Node.id).idxOf r.source) ((nodes.map Node.id).idxOf r.target) =
        decide (e = r.ends) := joins_linkBetween hs ht rs e
  have hlink : (rendered nodes rs).link? ((nodes.map Node.id).idxOf r.source)
      ((nodes.map Node.id).idxOf r.target) = if r.ends ∈ rs.map Relationship.ends then
        some (linkBetween (nodes.map Node.id) rs r.ends) else none := link?_rendered hs ht
  unfold connect
  rw [hlink]
  by_cases h : r.ends ∈ rs.map Relationship.ends
  · -- the nodes are connected already: their link gets the edge
    rw [if_pos h]
    refine rendered_eq ?_
    rw [links_rendered, links_rendered, List.map_map, List.map_append, List.map_cons, List.map_nil,
      eraseDups_concat, if_pos h]
    refine List.map_congr_left fun e _ => ?_
    rw [linkBetween_concat _ hid]
    by_cases he : e = r.ends
    · rw [if_pos he]
      exact if_pos ((hjoins e).trans (decide_eq_true he))
    · rw [if_neg he]
      exact if_neg (Bool.eq_false_iff.1 ((hjoins e).trans (decide_eq_false he)))
  · -- the connection appears for the first time: its link comes last
    rw [if_neg h]
    refine rendered_eq ?_
    rw [links_rendered, links_rendered, List.map_append, List.map_cons, List.map_nil,
      eraseDups_concat, if_neg h, List.map_append, List.map_cons, List.map_nil]
    have hold : (rs.map Relationship.ends).eraseDups.map (linkBetween (nodes.map Node.id) rs) =
        (rs.map Relationship.ends).eraseDups.map
          (linkBetween (nodes.map Node.id) (rs ++ [r])) := by
      refine List.map_congr_left fun e he => ?_
      have hne : e ≠ r.ends := fun heq => h (heq ▸ List.mem_eraseDups.1 he)
      rw [linkBetween_concat _ hid, if_neg hne]
    have hnone : (rs.filter fun q => q.ends == r.ends) = [] := by
      refine List.filter_eq_nil_iff.2 fun q hq => ?_
      have hne : q.ends ≠ r.ends := fun heq => h (heq ▸ List.mem_map_of_mem hq)
      simp [hne]
    rw [hold, linkBetween_concat _ hid, if_pos rfl]
    simp only [linkBetween, hnone]
    rfl

lemma addEdge_rendered {r : Relationship} (hs : r.source ∈ nodes.map Node.id)
    (ht : r.target ∈ nodes.map Node.id) (hid : ((rs ++ [r]).map Relationship.id).Nodup) :
    (rendered nodes rs).addEdge r.source.toValue r.target.toValue r.attributeList
      (some r.id.toValue) = .ok (rendered nodes (rs ++ [r])) := by
  refine addEdge_eq_ok_iff.2 ⟨_, _, ensure_rendered hs, _, _, ensure_rendered ht, ?_,
    connect_rendered hs ht hid⟩
  rintro k hk -
  rw [← Option.some.inj hk]
  exact r.id.isKey_toValue

/-! ### Element by element -/

-- by induction on the nodes that are still to come; the network of those before grows
lemma foldlM_renderNode (before : List Node) (h : ((before ++ nodes).map Node.id).Nodup) :
    nodes.foldlM renderNode (rendered before []) = match nodes.findSome? Node.clash? with
      | some fault => .error fault
      | none => .ok (rendered (before ++ nodes) []) := by
  induction nodes generalizing before with
  | nil =>
    rw [List.append_nil]
    rfl
  | cons n nodes ih =>
    rw [List.foldlM_cons, renderNode_eq, List.findSome?_cons]
    cases n.clash? with
    | some fault => rfl
    | none =>
      rw [List.map_append, List.nodup_append] at h
      have hn : n.id ∉ before.map Node.id := fun hn => h.2.2 _ hn n.id (by simp) rfl
      have hnodes := ih (before ++ [n])
        (by simpa [List.append_assoc, List.nodup_append] using h)
      rw [List.append_assoc, List.cons_append, List.nil_append] at hnodes
      rw [← hnodes, addVertex_rendered hn]
      rfl

lemma foldlM_renderRelationship (before : List Relationship)
    (hends : ∀ r ∈ rs, r.source ∈ nodes.map Node.id ∧ r.target ∈ nodes.map Node.id)
    (h : ((before ++ rs).map Relationship.id).Nodup) :
    rs.foldlM renderRelationship (rendered nodes before) =
      match rs.findSome? Relationship.clash? with
      | some fault => .error fault
      | none => .ok (rendered nodes (before ++ rs)) := by
  induction rs generalizing before with
  | nil =>
    rw [List.append_nil]
    rfl
  | cons r rs ih =>
    obtain ⟨⟨hs, ht⟩, hends⟩ := List.forall_mem_cons.1 hends
    rw [List.foldlM_cons, renderRelationship_eq, List.findSome?_cons]
    cases r.clash? with
    | some fault => rfl
    | none =>
      rw [List.append_cons] at h
      have hr : ((before ++ [r]).map Relationship.id).Nodup :=
        h.sublist ((List.sublist_append_left _ _).map _)
      rw [List.append_cons, ← ih _ hends h, addEdge_rendered hs ht hr]
      rfl

end Rendered

/-- A graph is rendered unless one of its elements clashes, and then as a whole. -/
theorem ofSnapshot?_eq (s : Snapshot) : ofSnapshot? s = match s.clash? with
    | some fault => .error fault
    | none => .ok (rendered s.nodes s.relationships) := by
  have hnodes : s.nodes.foldlM renderNode (rendered [] []) = _ :=
    foldlM_renderNode [] s.consistent.nodeIds
  have hrels : s.relationships.foldlM renderRelationship (rendered s.nodes []) = _ :=
    foldlM_renderRelationship [] s.consistent.endpoints s.consistent.relationshipIds
  rw [ofSnapshot?, show empty true true = rendered [] [] from rfl, hnodes, Snapshot.clash?]
  cases s.nodes.findSome? Node.clash? with
  | some fault => rfl
  | none => exact hrels

lemma ofSnapshot?_eq_ok_iff {s : Snapshot} {g : Network} :
    ofSnapshot? s = .ok g ↔ s.clash? = none ∧ rendered s.nodes s.relationships = g := by
  rw [ofSnapshot?_eq]
  cases s.clash? <;> simp

end Network

end PropertyGraph
