/-
# The order of attributes

An element is read from its attributes: its own attribute is looked up, and all others are its
properties.  Where no two of their names are read as the same text, the order in which they were
written plays no part, neither in whether the element can be read nor in what it tells then
(`readVertex_of_sameEntries`, `readEdge_of_sameEntries`).
-/
import PropertyGraph.Proofs.Draft.Basic
import PropertyGraph.Proofs.Network.FixedPoint
import PropertyGraph.Proofs.Payload.Fields
import PropertyGraph.Proofs.Property.Equality
import PropertyGraph.Proofs.Value.Key

namespace PropertyGraph

open Network

/-! ### Entries in another order -/

/-- The same entries: in the same order, or in any order if no two keys are read as the same
text. -/
def SameEntries (es es' : List (Value × Value)) : Prop :=
  es = es' ∨ es.Perm es' ∧ (es.filterMap fun e => e.1.decodeText?).Nodup

namespace SameEntries

variable {es es' es'' : List (Value × Value)}

lemma refl (es : List (Value × Value)) : SameEntries es es := .inl rfl

lemma symm (h : SameEntries es es') : SameEntries es' es := by
  rcases h with rfl | ⟨hperm, hnodup⟩
  · exact .inl rfl
  · exact .inr ⟨hperm.symm, (hperm.filterMap _).nodup_iff.1 hnodup⟩

lemma trans (h : SameEntries es es') (h' : SameEntries es' es'') : SameEntries es es'' := by
  rcases h with rfl | ⟨hperm, hnodup⟩
  · exact h'
  · rcases h' with rfl | ⟨hperm', -⟩
    · exact .inr ⟨hperm, hnodup⟩
    · exact .inr ⟨hperm.trans hperm', hnodup⟩

lemma filter (h : SameEntries es es') (p : Value × Value → Bool) :
    SameEntries (es.filter p) (es'.filter p) := by
  rcases h with rfl | ⟨hperm, hnodup⟩
  · exact .inl rfl
  · exact .inr ⟨hperm.filter p, hnodup.sublist (List.filter_sublist.filterMap _)⟩

end SameEntries

/-! ### Looking up an attribute -/

/-- Where only one member can be found, the order plays no part. -/
lemma find?_eq_of_perm_of_unique {α : Type} {p : α → Bool} {xs ys : List α} (h : xs.Perm ys)
    (hunique : ∀ x ∈ xs, ∀ y ∈ xs, p x = true → p y = true → x = y) : xs.find? p = ys.find? p := by
  cases hx : xs.find? p with
  | none =>
    refine (List.find?_eq_none.2 fun y hy => ?_).symm
    exact List.find?_eq_none.1 hx y (h.mem_iff.2 hy)
  | some x =>
    have hxs := List.mem_of_find?_eq_some hx
    have hpx := List.find?_some hx
    obtain ⟨y, hy⟩ := Option.isSome_iff_exists.1
      (List.find?_isSome.2 ⟨x, h.mem_iff.1 hxs, hpx⟩)
    have hys := h.mem_iff.2 (List.mem_of_find?_eq_some hy)
    rw [hy, hunique x hxs y hys hpx (List.find?_some hy)]

/-- At most one attribute has a text for its name. -/
lemma eq_of_beq_text {a : Attributes} {e e' : Value × Value} (he : e ∈ a.entries)
    (he' : e' ∈ a.entries) {s : String} (hs : (e.1 == .text s) = true)
    (hs' : (e'.1 == .text s) = true) : e = e' := by
  have hunique : a.entries.Pairwise fun x y =>
      (x.1 == .text s) = true → (y.1 == .text s) = true → x = y :=
    a.distinct.imp fun hxy hx hy => by
      rw [Value.beq_of_beq_text hx hy] at hxy
      cases hxy
  have hflip := hunique.imp fun hxy hy hx => (hxy hx hy).symm
  exact List.Pairwise.forall_of_forall_of_flip (fun _ _ _ _ => rfl) hunique hflip he he' hs hs'

lemma SameEntries.find?_eq {a b : Attributes} (h : SameEntries a.entries b.entries) (s : String) :
    a.find? (.text s) = b.find? (.text s) := by
  rw [OrderedMap.find?, OrderedMap.find?]
  rcases h with heq | ⟨hperm, -⟩
  · rw [heq]
  · rw [find?_eq_of_perm_of_unique hperm fun e he e' he' hs hs' => eq_of_beq_text he he' hs hs']

/-! ### Reading properties -/

/-- Whether properties can be read, and what is found among them then, does not depend on their
order. -/
lemma SameEntries.readProperties {es es' : List (Value × Value)} (h : SameEntries es es')
    {ps : Properties} (hps : readProperties (.map es) = .ok ps) :
    ∃ ps', PropertyGraph.readProperties (.map es') = .ok ps' ∧ ps'.find? = ps.find? := by
  rcases h with rfl | ⟨hperm, hnodup⟩
  · exact ⟨ps, hps, rfl⟩
  · have hpasses := (passes_readProperties_map_iff es).1 ⟨ps, hps⟩
    have hentry (e : Value × Value) : ∃ q : String × Property, e ∈ es →
        e.1.decodeText? = some q.1 ∧ Property.ofValue? e.2 = .ok q.2 := by
      by_cases he : e ∈ es
      · obtain ⟨⟨s, hs⟩, p, hp⟩ := hpasses e he
        exact ⟨(s, p), fun _ => ⟨hs, hp⟩⟩
      · exact ⟨("", .scalar (.text "")), fun h => absurd h he⟩
    choose q hq using hentry
    have hread : PropertyGraph.readProperties (.map (es.map id)) = .ok (.ofList (es.map q)) :=
      readProperties_map_eq_ok hq
    have hread' : PropertyGraph.readProperties (.map (es'.map id)) = .ok (.ofList (es'.map q)) :=
      readProperties_map_eq_ok fun e he => hq e (hperm.mem_iff.2 he)
    rw [List.map_id] at hread hread'
    obtain rfl : .ofList (es.map q) = ps := Except.ok.inj (hread.symm.trans hps)
    -- no key is read twice, so all entries stay
    have hkeys : ((es.map q).map Prod.fst).Nodup := by
      have hsome : (es.filterMap fun e => e.1.decodeText?) = es.map fun e => (q e).1 := by
        rw [← List.filterMap_eq_map]
        exact List.filterMap_congr fun e he => (hq e he).1
      rw [hsome] at hnodup
      rwa [List.map_map]
    have hkeys' : ((es'.map q).map Prod.fst).Nodup :=
      ((hperm.map q).map Prod.fst).nodup_iff.1 hkeys
    refine ⟨_, hread', funext fun k => OrderedMap.find?_eq_of_perm ?_ k⟩
    rw [OrderedMap.entries_ofList hkeys, OrderedMap.entries_ofList hkeys']
    exact (hperm.map q).symm

/-! ### Reading elements -/

namespace Network

variable {v w : Vertex} {e f : Edge}

/-- A vertex is read from its name and its attributes, whatever their order. -/
theorem readVertex_of_sameEntries (hname : v.name = w.name)
    (hattributes : SameEntries v.attributes.entries w.attributes.entries) {n : Node}
    (hn : readVertex v = .ok n) :
    ∃ m, readVertex w = .ok m ∧ m.description = n.description := by
  obtain ⟨hwritable, labels, hlabels, hparts⟩ := readVertex_eq_ok_iff.1 hn
  obtain ⟨ps, hps, rfl⟩ := Node.ofParts?_eq_ok_iff.1 hparts
  obtain ⟨ps', hps', hfind⟩ := (hattributes.filter _).readProperties hps
  rw [hattributes.find?_eq] at hlabels
  rw [hname] at hwritable
  refine ⟨⟨.ofForeign w.name, .ofList labels, ps'⟩, ?_, ?_⟩
  · exact readVertex_eq_ok_iff.2
      ⟨hwritable, labels, hlabels, Node.ofParts?_eq_ok_iff.2 ⟨ps', hps', rfl⟩⟩
  · rw [Node.description, Node.description, hname, hfind]

/-- An edge is read from what it connects and its attributes, whatever their order; its position
plays no part. -/
theorem readEdge_of_sameEntries (hsource : e.source = f.source) (htarget : e.target = f.target)
    (hattributes : SameEntries e.attributes.entries f.attributes.entries) {i j : Nat}
    {r : Relationship} (hr : readEdge e i = .ok r) :
    ∃ q, readEdge f j = .ok q ∧ q.description = r.description := by
  obtain ⟨htruth, hwritable, hstart, hend, hparts⟩ := readEdge_eq_ok_iff.1 hr
  obtain ⟨t, ps, ht, hps, rfl⟩ := Relationship.ofParts?_eq_ok_iff.1 hparts
  obtain ⟨ps', hps', hfind⟩ := (hattributes.filter _).readProperties hps
  rw [hattributes.find?_eq] at htruth hwritable ht
  rw [hsource] at hstart
  rw [htarget] at hend
  refine ⟨.ofType (.int j) t (.ofForeign f.source) (.ofForeign f.target) ps', ?_, ?_⟩
  · exact readEdge_eq_ok_iff.2
      ⟨htruth, hwritable, hstart, hend,
        Relationship.ofParts?_eq_ok_iff.2 ⟨t, ps', ht, hps', rfl⟩⟩
  · simp only [Relationship.description, Relationship.ofType, hsource, htarget, hfind]

end Network

end PropertyGraph
