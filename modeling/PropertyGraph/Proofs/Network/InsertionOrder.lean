/-
# Networks that were built in another order

Two networks without directions may hold the same vertices and edges although they were built in
different orders (`Network.SameContent`).  An edge is read as a relationship from the end that was
added first, and relationships have a direction.  So the graphs that are read tell the same if the
two ends of every edge were added in the same order (`Network.SameOrder`,
`Network.PlainUndirected.exists_reading`), and verdicts cannot tell them apart; otherwise they need
not even pass for the same.
-/
import Mathlib.Data.List.Permutation
import Mathlib.Data.Sym.Sym2
import PropertyGraph.Proofs.Comparison.MutualSubgraphs
import PropertyGraph.Proofs.Draft.Alike
import PropertyGraph.Proofs.Network.AttributeOrder
import PropertyGraph.Proofs.Network.Undirected

namespace PropertyGraph

/-! ### Reading in another order -/

/-- Where things that tell the same are read alike, so are lists of them, in whatever order. -/
lemma exists_mapM_of_perm {α β γ δ ε : Type} {f : α → Except ε β} {c : α → γ} {d : β → δ}
    (hf : ∀ x y b, c x = c y → f x = .ok b → ∃ b', f y = .ok b' ∧ d b' = d b) {xs ys : List α}
    (hperm : (xs.map c).Perm (ys.map c)) {bs : List β} (hbs : xs.mapM f = .ok bs) :
    ∃ bs', ys.mapM f = .ok bs' ∧ (bs'.map d).Perm (bs.map d) := by
  -- whatever tells the same as `x` is read as something that tells the same as `b`
  have hread : List.Forall₂ (fun k b => ∀ y, c y = k → ∃ b', f y = .ok b' ∧ d b' = d b)
      (xs.map c) bs :=
    List.forall₂_map_left_iff.2
      ((mapM_eq_ok_iff_forall₂.1 hbs).imp fun x b hx y hy => hf x y b hy.symm hx)
  obtain ⟨cs, hcs, hcsperm⟩ := List.perm_comp_forall₂ hperm.symm hread
  rw [List.forall₂_map_left_iff] at hcs
  obtain ⟨bs', hbs', hd⟩ : ∃ bs', List.Forall₂ (fun y b => f y = .ok b) ys bs' ∧
      bs'.map d = cs.map d := by
    clear hperm hcsperm
    induction hcs with
    | nil => exact ⟨[], .nil, rfl⟩
    | @cons y b ys cs hy _ ih =>
      obtain ⟨b', hb', hdb⟩ := hy y rfl
      obtain ⟨bs', hbs', hd⟩ := ih
      exact ⟨b' :: bs', .cons hb' hbs', by rw [List.map_cons, List.map_cons, hdb, hd]⟩
  refine ⟨bs', mapM_eq_ok_iff_forall₂.2 hbs', ?_⟩
  rw [hd]
  exact hcsperm.map d

/-- If members that agree on one thing agree on another, lists that agree on the first up to their
order agree on the second. -/
lemma perm_map_of_perm_map {α γ δ : Type} {f : α → γ} {h : α → δ} {xs ys : List α}
    (hperm : (xs.map f).Perm (ys.map f)) (heq : ∀ x ∈ xs, ∀ y ∈ ys, f x = f y → h x = h y) :
    (xs.map h).Perm (ys.map h) := by
  obtain ⟨zs, hzs, hmap⟩ := exists_perm_of_perm_map hperm
  have hlength : zs.length = xs.length := by simpa using congrArg List.length hmap
  have hmaps : xs.map h = zs.map h := by
    refine List.ext_getElem (by simp [hlength]) fun i hi hi' => ?_
    rw [List.length_map] at hi hi'
    have hat : f xs[i] = f zs[i] := by
      have hget := congrArg (fun ks => ks[i]?) hmap
      simpa [hi, hi'] using hget.symm
    rw [List.getElem_map, List.getElem_map]
    exact heq _ (List.getElem_mem hi) _ (hzs.mem_iff.1 (List.getElem_mem hi')) hat
  rw [hmaps]
  exact hzs.map h

namespace Network

/-! ### What networks hold -/

/-- Attributes are the same whatever their order. -/
def attributesSetoid : Setoid Attributes where
  r a b := SameEntries a.entries b.entries
  iseqv := ⟨fun a => .refl a.entries, fun h => h.symm, fun h h' => h.trans h'⟩

/-- Attributes without their order. -/
def unordered (a : Attributes) : Quotient attributesSetoid := Quotient.mk attributesSetoid a

lemma unordered_eq_iff {a b : Attributes} :
    unordered a = unordered b ↔ SameEntries a.entries b.entries :=
  ⟨fun h => Quotient.exact h, fun h => Quotient.sound h⟩

/-- What a vertex tells. -/
def vertexContent (v : Vertex) : Value × Quotient attributesSetoid :=
  (v.name, unordered v.attributes)

/-- What an edge tells that has no direction and no key. -/
def storedContent (p : Link × Value × Attributes) : Sym2 Value × Quotient attributesSetoid :=
  (s(p.1.source.name, p.1.target.name), unordered p.2.2)

/-- What an edge tells as it is met, whatever its key. -/
def edgeContent (e : Edge) : Value × Value × Quotient attributesSetoid :=
  (e.source, e.target, unordered e.attributes)

/-- Two networks hold the same vertices and the same edges. -/
structure SameContent (g g' : Network) : Prop where
  vertices : (g.vertices.map vertexContent).Perm (g'.vertices.map vertexContent)
  edges : (g.stored.map storedContent).Perm (g'.stored.map storedContent)

/-- The vertex of one name was added before the vertex of another. -/
def NamedBefore (g : Network) (a b : Value) : Prop :=
  [a, b].Sublist (g.vertices.map Vertex.name)

/-- The two ends of every edge were added in the same order. -/
def SameOrder (g g' : Network) : Prop :=
  ∀ l ∈ g.links, ∀ a b, s(a, b) = s(l.source.name, l.target.name) →
    (g.NamedBefore a b ↔ g'.NamedBefore a b)

variable {g g' : Network}

lemma SameContent.symm (h : g.SameContent g') : g'.SameContent g := ⟨h.vertices.symm, h.edges.symm⟩

/-- In a list that is ascending by some measure, a lower member stands before a higher one. -/
lemma pair_sublist {α : Type} {f : α → Nat} {xs : List α}
    (hascending : (xs.map f).Pairwise (· < ·)) {x y : α} (hx : x ∈ xs) (hy : y ∈ xs)
    (hlt : f x < f y) : [x, y].Sublist xs := by
  induction xs with
  | nil => cases hx
  | cons z zs ih =>
    obtain ⟨hz, hzs⟩ := List.pairwise_cons.1 hascending
    rcases List.mem_cons.1 hy with rfl | hyzs
    · rcases List.mem_cons.1 hx with rfl | hxzs
      · omega
      · have hyx := hz (f x) (List.mem_map_of_mem hxzs)
        omega
    · rcases List.mem_cons.1 hx with rfl | hxzs
      · exact .cons_cons _ (List.singleton_sublist.2 hyzs)
      · exact .cons _ (ih hzs hxzs hyzs)

lemma Undirected.namedBefore_iff (h : g.Undirected) {a b : Value} : g.NamedBefore a b ↔
    ∃ u ∈ g.vertices, ∃ v ∈ g.vertices, u.name = a ∧ v.name = b ∧ u.slot < v.slot := by
  constructor
  · intro hab
    obtain ⟨us, hus, hmap⟩ := List.sublist_map_iff.1 hab
    obtain ⟨u, us', rfl, rfl, hrest⟩ := List.map_eq_cons_iff.1 hmap.symm
    obtain ⟨v, us'', rfl, rfl, -⟩ := List.map_eq_cons_iff.1 hrest
    have hlt := h.ascending.sublist (hus.map Vertex.slot)
    rw [List.map_cons, List.map_cons, List.pairwise_cons] at hlt
    exact ⟨u, hus.subset List.mem_cons_self, v,
      hus.subset (List.mem_cons_of_mem _ List.mem_cons_self), rfl, rfl,
      hlt.1 _ List.mem_cons_self⟩
  · rintro ⟨u, hu, v, hv, rfl, rfl, hlt⟩
    exact (pair_sublist h.ascending hu hv hlt).map Vertex.name

lemma Undirected.namedBefore_asymm (h : g.Undirected)
    (hnames : (g.vertices.map Vertex.name).Nodup) {a b : Value} (hab : g.NamedBefore a b) :
    ¬g.NamedBefore b a := by
  rw [h.namedBefore_iff] at hab ⊢
  obtain ⟨u, hu, v, hv, rfl, rfl, hlt⟩ := hab
  rintro ⟨w, hw, x, hx, hwv, hxu, hlt'⟩
  obtain rfl : w = v := List.inj_on_of_nodup_map hnames hw hv hwv
  obtain rfl : x = u := List.inj_on_of_nodup_map hnames hx hu hxu
  omega

/-- A network without directions that is in order, and whose vertices are named by identifiers. -/
structure PlainUndirected (g : Network) : Prop where
  wellFormed : g.WellFormed
  undirected : g.Undirected
  idents : ∀ v ∈ g.names, ∃ i : Ident, v = i.toValue

lemma plainUndirected_of_applyAll {parallel : Bool} {changes : List Change}
    (hg : (Network.empty false parallel).applyAll changes = .ok g)
    (hids : ∀ v ∈ changes.flatMap Change.names, ∃ i : Ident, v = i.toValue) :
    g.PlainUndirected where
  wellFormed := (wellFormed_empty false parallel).applyAll hg
  undirected := (Undirected.empty parallel).applyAll (wellFormed_empty false parallel) hg
  idents := forall_mem_names_applyAll (fun _ hv => absurd hv List.not_mem_nil)
    (fun change hchange v hv => hids v (List.mem_flatMap.2 ⟨change, hchange, hv⟩)) hg

namespace PlainUndirected

variable (h : g.PlainUndirected) (h' : g'.PlainUndirected)

include h

/-- The first end of a link was added before the second one, unless the link is a loop. -/
lemma namedBefore_first {l : Link} (hl : l ∈ g.links) :
    l.first.name = l.second.name ∨ g.NamedBefore l.first.name l.second.name := by
  have hbears := h.wellFormed.bears h.idents hl
  obtain ⟨⟨u, hu, huslot, huname⟩, v, hv, hvslot, hvname⟩ :
      Bears g.vertices l.first ∧ Bears g.vertices l.second := by
    rcases l.first_second_cases with ⟨hfirst, hsecond⟩ | ⟨hfirst, hsecond⟩
    · rw [hfirst, hsecond]
      exact hbears
    · rw [hfirst, hsecond]
      exact hbears.symm
  rcases Nat.lt_or_eq_of_le l.slot_first_le with hlt | heq
  · rw [← huslot, ← hvslot] at hlt
    exact .inr (h.undirected.namedBefore_iff.2 ⟨u, hu, v, hv, huname, hvname, hlt⟩)
  · have huv : u = v := List.inj_on_of_nodup_map h.wellFormed.slots hu hv
      (huslot.trans (heq.trans hvslot.symm))
    rw [← huname, ← hvname, huv]
    exact .inl rfl

include h'

/-- Links that join the same vertices are told from the same end if the ends were added in the same
order. -/
lemma first_second_eq (horder : g.SameOrder g') (hnames : (g'.vertices.map Vertex.name).Nodup)
    {l l' : Link} (hl : l ∈ g.links) (hl' : l' ∈ g'.links)
    (hends : s(l.source.name, l.target.name) = s(l'.source.name, l'.target.name)) :
    l.first.name = l'.first.name ∧ l.second.name = l'.second.name := by
  have hpair (k : Link) : s(k.first.name, k.second.name) = s(k.source.name, k.target.name) := by
    rcases k.first_second_cases with ⟨hfirst, hsecond⟩ | ⟨hfirst, hsecond⟩
    · rw [hfirst, hsecond]
    · rw [hfirst, hsecond, Sym2.eq_swap]
  have heq : s(l.first.name, l.second.name) = s(l'.first.name, l'.second.name) := by
    rw [hpair, hpair, hends]
  rcases Sym2.eq_iff.1 heq with hsame | ⟨hfirst, hsecond⟩
  · exact hsame
  · -- told from different ends, the link would be a loop
    rcases h'.namedBefore_first hl' with hloop | hbefore'
    · rw [hfirst, hsecond, hloop]
      exact ⟨rfl, rfl⟩
    · rcases h.namedBefore_first hl with hloop | hbefore
      · rw [← hfirst, ← hsecond, hloop]
        exact ⟨rfl, rfl⟩
      · rw [← hfirst, ← hsecond] at hbefore'
        have hbefore := (horder l hl _ _ (hpair l)).1 hbefore
        exact absurd hbefore' (h'.undirected.namedBefore_asymm hnames hbefore)

/-- Going through the edges of the two networks finds edges that tell the same. -/
lemma perm_edges (hsame : g.SameContent g') (horder : g.SameOrder g')
    (hnames : (g'.vertices.map Vertex.name).Nodup) :
    (g.edges.map edgeContent).Perm (g'.edges.map edgeContent) := by
  have hstored : ((g.stored.map towardsSecond).map edgeContent).Perm
      ((g'.stored.map towardsSecond).map edgeContent) := by
    rw [List.map_map, List.map_map]
    refine perm_map_of_perm_map hsame.edges fun p hp p' hp' hcontent => ?_
    obtain ⟨l, hl, hpl⟩ := List.mem_flatMap.1 hp
    obtain ⟨e, -, rfl⟩ := List.mem_map.1 hpl
    obtain ⟨l', hl', hpl'⟩ := List.mem_flatMap.1 hp'
    obtain ⟨e', -, rfl⟩ := List.mem_map.1 hpl'
    obtain ⟨hends, hattributes⟩ := Prod.mk.inj hcontent
    obtain ⟨hfirst, hsecond⟩ := h.first_second_eq h' horder hnames hl hl' hends
    simp only [Function.comp_apply, edgeContent, towardsSecond, Prod.mk.injEq]
    exact ⟨hfirst, hsecond, hattributes⟩
  have hedges := (h.undirected.perm_edges h.wellFormed h.idents).map edgeContent
  have hedges' := (h'.undirected.perm_edges h'.wellFormed h'.idents).map edgeContent
  exact hedges.trans (hstored.trans hedges'.symm)

/-- If one network can be read, so can the other, and the graphs tell the same. -/
theorem exists_reading (hsame : g.SameContent g') (horder : g.SameOrder g') {s : Snapshot}
    (hs : g.toSnapshot? = .ok s) : ∃ s', g'.toSnapshot? = .ok s' ∧ s'.Reordered s := by
  have hnames : (g'.vertices.map Vertex.name).Nodup := by
    have hids : (g.vertices.map fun v => Ident.ofForeign v.name).Nodup := by
      rw [← (of_toSnapshot? hs).1]
      exact s.consistent.nodeIds
    have hfirst : (g.vertices.map Vertex.name).Nodup := by
      refine List.Nodup.of_map Ident.ofForeign ?_
      rwa [List.map_map]
    have hperm := hsame.vertices.map Prod.fst
    rw [List.map_map, List.map_map] at hperm
    exact hperm.nodup_iff.1 hfirst
  obtain ⟨hnodes, hrels⟩ := toSnapshot?_eq_ok_iff.1 hs
  obtain ⟨nodes, hnodes', hnodesPerm⟩ := exists_mapM_of_perm (d := Node.description)
    (fun v w n hvw hn => readVertex_of_sameEntries (congrArg Prod.fst hvw)
      (unordered_eq_iff.1 (congrArg Prod.snd hvw)) hn) hsame.vertices hnodes
  have hedges := h.perm_edges h' hsame horder hnames
  rw [← List.zipIdx_map_fst 0 g.edges, ← List.zipIdx_map_fst 0 g'.edges, List.map_map,
    List.map_map] at hedges
  obtain ⟨rs, hrels', hrelsPerm⟩ := exists_mapM_of_perm (d := Relationship.description)
    (fun p q r hpq hr => readEdge_of_sameEntries (congrArg (fun c => c.1) hpq)
      (congrArg (fun c => c.2.1) hpq) (unordered_eq_iff.1 (congrArg (fun c => c.2.2) hpq)) hr)
    hedges hrels
  have hids : (rs.map Relationship.id).Nodup := by
    have hpositions : rs.map Relationship.id =
        (g'.edges.zipIdx.map Prod.snd).map fun (i : Nat) => .int i := by
      rw [List.map_map]
      exact map_eq_of_mapM_eq_ok (fun p r hr => (of_readEdge hr).1) hrels'
    rw [hpositions, List.zipIdx_map_snd]
    refine List.Nodup.map (fun i j hij => ?_) List.nodup_range'
    simpa using hij
  obtain ⟨s', hs', hreordered⟩ := Snapshot.exists_reordered hnodesPerm hrelsPerm hids
  obtain ⟨rfl, rfl⟩ := Snapshot.ofElements?_eq_ok_iff.1 hs'
  exact ⟨s', toSnapshot?_eq_ok_iff.2 ⟨hnodes', hrels'⟩, hreordered⟩

end PlainUndirected

lemma SameOrder.symm (h : g.SameOrder g') (hsame : g.SameContent g') (hwf : g'.WellFormed) :
    g'.SameOrder g := by
  intro l' hl' a b hab
  -- the other network holds an edge between the same vertices
  obtain ⟨e', he'⟩ := List.exists_mem_of_ne_nil _ (hwf.nonempty l' hl')
  have hstored : (l', e') ∈ g'.stored :=
    List.mem_flatMap.2 ⟨l', hl', List.mem_map_of_mem he'⟩
  obtain ⟨p, hp, hcontent⟩ := List.mem_map.1 (hsame.edges.mem_iff.2 (List.mem_map_of_mem hstored))
  obtain ⟨l, hl, hpl⟩ := List.mem_flatMap.1 hp
  obtain ⟨e, -, rfl⟩ := List.mem_map.1 hpl
  have hends : s(l.source.name, l.target.name) = s(l'.source.name, l'.target.name) :=
    congrArg Prod.fst hcontent
  exact (h l hl a b (hab.trans hends.symm)).symm

end Network

open Network

/-- What embeds in one of two isomorphic graphs embeds in the other. -/
lemma Isomorphism.isSubgraph_eq {first second : Snapshot} (iso : Isomorphism first second)
    (a a' : Arrangement) (settings settings' : Settings) (expected : Snapshot) :
    (isSubgraphArranged a first expected settings).run.result =
      (isSubgraphArranged a' second expected settings').run.result := by
  have hwritable : RefusalWritable first expected ↔ RefusalWritable second expected := by
    rw [RefusalWritable, RefusalWritable, iso.find?_lacks_eq]
  have hfound : (firstEmbedding? a first expected).isSome =
      (firstEmbedding? a' second expected).isSome := by
    rw [Bool.eq_iff_iff, Option.isSome_iff_exists, Option.isSome_iff_exists,
      exists_firstEmbedding?_iff, exists_firstEmbedding?_iff]
    exact iso.symm.exists_isEmbedding_iff (.refl expected)
  simp only [result_isSubgraphArranged, hwritable, hfound]

/-- Networks without directions that hold the same, and in which the two ends of every edge were
added in the same order, are both readable or neither, and no verdict tells the graphs that are
read apart. -/
theorem verdicts_of_sameContent {parallel parallel' : Bool} {changes changes' : List Change}
    {g g' : Network} (hg : (Network.empty false parallel).applyAll changes = .ok g)
    (hg' : (Network.empty false parallel').applyAll changes' = .ok g')
    (hids : ∀ v ∈ changes.flatMap Change.names, ∃ i : Ident, v = i.toValue)
    (hids' : ∀ v ∈ changes'.flatMap Change.names, ∃ i : Ident, v = i.toValue)
    (hsame : g.SameContent g') (horder : g.SameOrder g') :
    ((∃ s, g.readSnapshot.run.result = .ok s) ↔ ∃ s, g'.readSnapshot.run.result = .ok s) ∧
      ∀ s s', g.readSnapshot.run.result = .ok s → g'.readSnapshot.run.result = .ok s' →
        ∀ (a a' : Arrangement) (settings settings' : Settings),
          (isSameGraphArranged a s s' settings).run.result = .ok true ∧
          ∀ expected, (isSubgraphArranged a s expected settings).run.result =
            (isSubgraphArranged a' s' expected settings').run.result := by
  have h := plainUndirected_of_applyAll hg hids
  have h' := plainUndirected_of_applyAll hg' hids'
  have horder' := horder.symm hsame h'.wellFormed
  simp only [result_readSnapshot]
  refine ⟨⟨?_, ?_⟩, ?_⟩
  · rintro ⟨s, hs⟩
    obtain ⟨s', hs', -⟩ := h.exists_reading h' hsame horder hs
    exact ⟨s', hs'⟩
  · rintro ⟨s', hs'⟩
    obtain ⟨s, hs, -⟩ := h'.exists_reading h hsame.symm horder' hs'
    exact ⟨s, hs⟩
  · intro s s' hs hs' a a' settings settings'
    obtain ⟨t, ht, hreordered⟩ := h'.exists_reading h hsame.symm horder' hs'
    obtain rfl : t = s := Except.ok.inj (ht.symm.trans hs)
    obtain ⟨iso⟩ := hreordered.nonempty_isomorphism
    exact ⟨iso.isSameGraph_eq_ok_true a settings, iso.isSubgraph_eq a a' settings settings'⟩

lemma forall_ident_of_map_eq {vs : List Value} (ids : List Ident) (h : vs = ids.map Ident.toValue) :
    ∀ v ∈ vs, ∃ i : Ident, v = i.toValue := by
  rw [h, List.forall_mem_map]
  exact fun i _ => ⟨i, rfl⟩

/-- A vertex with a label. -/
def labelled (id : Int) (label : String) : Change :=
  .addVertex (.int id) [(.text "labels", .list [.text label])]

/-- An edge of a type. -/
def joining (source target : Int) (type : String) : Change :=
  .addEdge (.int source) (.int target) [(.text "type", .text type)] none

/-- Two parallel edges, then a vertex of its own. -/
def edgesFirst : List Change :=
  [labelled 1 "Left", joining 1 2 "JOINS", joining 1 2 "HOLDS", labelled 3 "Free"]

/-- The vertex of its own, then the edges in another order and from the other end. -/
def edgesLast : List Change :=
  [labelled 3 "Free", labelled 1 "Left", joining 2 1 "HOLDS", joining 2 1 "JOINS"]

/-- The network after the first changes. -/
def networkEdgesFirst : Network where
  directed := false
  parallel := true
  vertices := [⟨0, .int 1, .ofList [(.text "labels", .list [.text "Left"])]⟩, ⟨1, .int 2, .empty⟩,
    ⟨2, .int 3, .ofList [(.text "labels", .list [.text "Free"])]⟩]
  links := [⟨⟨0, .int 1⟩, ⟨1, .int 2⟩, .ofList [(.int 0, .ofList [(.text "type", .text "JOINS")]),
    (.int 1, .ofList [(.text "type", .text "HOLDS")])]⟩]
  nextSlot := 3

/-- The network after the other changes. -/
def networkEdgesLast : Network where
  directed := false
  parallel := true
  vertices := [⟨0, .int 3, .ofList [(.text "labels", .list [.text "Free"])]⟩,
    ⟨1, .int 1, .ofList [(.text "labels", .list [.text "Left"])]⟩, ⟨2, .int 2, .empty⟩]
  links := [⟨⟨2, .int 2⟩, ⟨1, .int 1⟩, .ofList [(.int 0, .ofList [(.text "type", .text "HOLDS")]),
    (.int 1, .ofList [(.text "type", .text "JOINS")])]⟩]
  nextSlot := 3

theorem verdicts_of_sameContent_edges : ∃ s s',
    (Network.empty false true).applyAll edgesFirst = .ok networkEdgesFirst ∧
    (Network.empty false true).applyAll edgesLast = .ok networkEdgesLast ∧
    networkEdgesFirst.SameContent networkEdgesLast ∧
    networkEdgesFirst.SameOrder networkEdgesLast ∧
    networkEdgesFirst.readSnapshot.run.result = .ok s ∧
    networkEdgesLast.readSnapshot.run.result = .ok s' ∧
    (isSameGraphArranged .asAdded s s' {}).run.result = .ok true := by
  have hg : (Network.empty false true).applyAll edgesFirst = .ok networkEdgesFirst := rfl
  have hg' : (Network.empty false true).applyAll edgesLast = .ok networkEdgesLast := rfl
  have hids : ∀ v ∈ edgesFirst.flatMap Change.names, ∃ i : Ident, v = i.toValue :=
    forall_ident_of_map_eq ([1, 1, 2, 1, 2, 3].map .int) rfl
  have hids' : ∀ v ∈ edgesLast.flatMap Change.names, ∃ i : Ident, v = i.toValue :=
    forall_ident_of_map_eq ([3, 1, 2, 1, 2, 1].map .int) rfl
  have hsame : networkEdgesFirst.SameContent networkEdgesLast := by
    let told (x y : Int) (type : String) : Sym2 Value × Quotient attributesSetoid :=
      (s(.int x, .int y), unordered (.ofList [(.text "type", .text type)]))
    have hswap (type : String) : told 2 1 type = told 1 2 type := Prod.ext Sym2.eq_swap rfl
    have hedges : [told 1 2 "JOINS", told 1 2 "HOLDS"].Perm
        [told 2 1 "HOLDS", told 2 1 "JOINS"] := by
      rw [hswap, hswap]
      exact .swap _ _ _
    exact ⟨List.perm_append_singleton _ [_, _], hedges⟩
  have horder : networkEdgesFirst.SameOrder networkEdgesLast := by
    intro l hl a b hab
    obtain rfl := List.mem_singleton.1 hl
    rcases Sym2.eq_iff.1 hab with ⟨rfl, rfl⟩ | ⟨rfl, rfl⟩ <;>
      simp [NamedBefore, networkEdgesFirst, networkEdgesLast, List.cons_sublist_cons', Value.int]
  refine ⟨_, _, hg, hg', hsame, horder, rfl, rfl, ?_⟩
  exact ((verdicts_of_sameContent hg hg' hids hids' hsame horder).2 _ _ rfl rfl .asAdded .asAdded
    {} {}).1

/-- An edge, its ends being added as they are named. -/
def forth : List Change := [labelled 1 "Left", labelled 2 "Right", joining 1 2 "JOINS"]

/-- The same edge, its ends being added the other way round. -/
def back : List Change := [labelled 2 "Right", labelled 1 "Left", joining 1 2 "JOINS"]

/-- The network after the first changes. -/
def networkForth : Network where
  directed := false
  parallel := false
  vertices := [⟨0, .int 1, .ofList [(.text "labels", .list [.text "Left"])]⟩,
    ⟨1, .int 2, .ofList [(.text "labels", .list [.text "Right"])]⟩]
  links := [⟨⟨0, .int 1⟩, ⟨1, .int 2⟩, .ofList [(.int 0, .ofList [(.text "type", .text "JOINS")])]⟩]
  nextSlot := 2

/-- The network after the other changes. -/
def networkBack : Network where
  directed := false
  parallel := false
  vertices := [⟨0, .int 2, .ofList [(.text "labels", .list [.text "Right"])]⟩,
    ⟨1, .int 1, .ofList [(.text "labels", .list [.text "Left"])]⟩]
  links := [⟨⟨1, .int 1⟩, ⟨0, .int 2⟩, .ofList [(.int 0, .ofList [(.text "type", .text "JOINS")])]⟩]
  nextSlot := 2

/-- The two networks hold the same, yet the graphs that are read do not pass for the same. -/
theorem not_isSameGraph_of_sameContent : ∃ s s',
    (Network.empty false false).applyAll forth = .ok networkForth ∧
    (Network.empty false false).applyAll back = .ok networkBack ∧
    networkForth.SameContent networkBack ∧
    networkForth.readSnapshot.run.result = .ok s ∧ networkBack.readSnapshot.run.result = .ok s' ∧
    (isSameGraphArranged .asAdded s s' {}).run.result = .ok false := by
  refine ⟨_, _, rfl, rfl, ⟨.swap _ _ _, .refl _⟩, rfl, rfl, ?_⟩
  cbv

end PropertyGraph
