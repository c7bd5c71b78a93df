/-
# Elements that fit together

The check of a list of nodes and a list of relationships goes through them with the identifiers
met so far and stops at the first fault.  It finds none exactly if the elements fit together
(`firstFault?_eq_none_iff`), so they make up a graph then, and no other one
(`Snapshot.ofElements?_eq_ok_iff`).  A fault that it finds is there (`isIn_of_firstFault?`).
-/
import Mathlib.Data.List.Duplicate
import Mathlib.Tactic.Lemma
import PropertyGraph.Snapshot.Basic

namespace PropertyGraph

lemma firstRepeat?_eq_none_of_nodup {seen ids : List Ident} (hnodup : ids.Nodup)
    (hseen : ∀ id ∈ ids, id ∉ seen) : firstRepeat? seen ids = none := by
  induction ids generalizing seen with
  | nil => rfl
  | cons id ids ih =>
    obtain ⟨hid, hnodup⟩ := List.nodup_cons.1 hnodup
    rw [firstRepeat?, if_neg (hseen id List.mem_cons_self)]
    refine ih hnodup fun j hj => ?_
    rw [List.mem_cons, not_or]
    refine ⟨fun h => hid (h ▸ hj), hseen j (List.mem_cons_of_mem _ hj)⟩

lemma firstRelationshipFault?_eq_none_of_nodup {nodeIds seen : List Ident}
    {rs : List Relationship} (hnodup : (rs.map Relationship.id).Nodup)
    (hseen : ∀ r ∈ rs, r.id ∉ seen) (hends : ∀ r ∈ rs, r.source ∈ nodeIds ∧ r.target ∈ nodeIds) :
    firstRelationshipFault? nodeIds seen rs = none := by
  induction rs generalizing seen with
  | nil => rfl
  | cons r rs ih =>
    obtain ⟨hr, hnodup⟩ := List.nodup_cons.1 hnodup
    obtain ⟨⟨hsource, htarget⟩, hends⟩ := List.forall_mem_cons.1 hends
    rw [firstRelationshipFault?, if_neg (hseen r List.mem_cons_self),
      if_neg (not_not_intro hsource), if_neg (not_not_intro htarget)]
    refine ih hnodup (fun q hq => ?_) hends
    rw [List.mem_cons, not_or]
    refine ⟨fun h => hr (h ▸ List.mem_map_of_mem hq), hseen q (List.mem_cons_of_mem _ hq)⟩

/-- No fault is found exactly in elements that fit together. -/
theorem firstFault?_eq_none_iff {nodes : List Node} {relationships : List Relationship} :
    firstFault? nodes relationships = none ↔ Consistent nodes relationships := by
  refine ⟨consistent_of_firstFault?, fun h => ?_⟩
  rw [firstFault?, firstRepeat?_eq_none_of_nodup h.nodeIds fun _ _ => List.not_mem_nil]
  exact firstRelationshipFault?_eq_none_of_nodup h.relationshipIds
    (fun _ _ => List.not_mem_nil) h.endpoints

/-! ### The fault that is found -/

/-- A fault that elements have. -/
def IntegrityFault.IsIn (nodes : List Node) (relationships : List Relationship) :
    IntegrityFault → Prop
  | .duplicateNode id => List.Duplicate id (nodes.map Node.id)
  | .duplicateRelationship id => List.Duplicate id (relationships.map Relationship.id)
  | .unknownNode id node => ∃ r ∈ relationships,
    r.id = id ∧ (r.source = node ∨ r.target = node) ∧ node ∉ nodes.map Node.id

lemma duplicate_of_firstRepeat? {seen ids : List Ident} {id : Ident}
    (h : firstRepeat? seen ids = some id) :
    List.Duplicate id ids ∨ id ∈ seen ∧ id ∈ ids := by
  induction ids generalizing seen with
  | nil => simp [firstRepeat?] at h
  | cons j ids ih =>
    rw [firstRepeat?] at h
    split at h
    · next hj =>
      obtain rfl := Option.some.inj h
      exact .inr ⟨hj, List.mem_cons_self⟩
    · rcases ih h with hdup | ⟨hseen, hid⟩
      · exact .inl (hdup.duplicate_cons j)
      · rcases List.mem_cons.1 hseen with rfl | hseen
        · exact .inl (List.Mem.duplicate_cons_self hid)
        · exact .inr ⟨hseen, List.mem_cons_of_mem _ hid⟩

/-- A relationship that repeats an identifier repeats one met before or one of this list. -/
lemma isIn_of_firstRelationshipFault? {nodes : List Node} {seen : List Ident}
    {rs : List Relationship} {fault : IntegrityFault}
    (h : firstRelationshipFault? (nodes.map Node.id) seen rs = some fault) :
    fault.IsIn nodes rs ∨
      ∃ r ∈ rs, r.id ∈ seen ∧ fault = .duplicateRelationship r.id := by
  induction rs generalizing seen with
  | nil => simp [firstRelationshipFault?] at h
  | cons r rs ih =>
    rw [firstRelationshipFault?] at h
    split at h
    · next hid =>
      exact .inr ⟨r, List.mem_cons_self, hid, (Option.some.inj h).symm⟩
    split at h
    · next hsource =>
      obtain rfl := Option.some.inj h
      exact .inl ⟨r, List.mem_cons_self, rfl, .inl rfl, hsource⟩
    split at h
    · next htarget =>
      obtain rfl := Option.some.inj h
      exact .inl ⟨r, List.mem_cons_self, rfl, .inr rfl, htarget⟩
    rcases ih h with hrest | ⟨q, hq, hseen, rfl⟩
    · left
      cases fault with
      | duplicateNode id => exact hrest
      | duplicateRelationship id => exact List.Duplicate.duplicate_cons hrest r.id
      | unknownNode id node =>
        obtain ⟨q, hq, hfault⟩ := hrest
        exact ⟨q, List.mem_cons_of_mem _ hq, hfault⟩
    · rcases List.mem_cons.1 hseen with hqr | hseen
      · left
        have hmem : q.id ∈ rs.map Relationship.id := List.mem_map_of_mem hq
        show List.Duplicate q.id (r.id :: rs.map Relationship.id)
        rw [hqr] at hmem ⊢
        exact List.Mem.duplicate_cons_self hmem
      · exact .inr ⟨q, List.mem_cons_of_mem _ hq, hseen, rfl⟩

/-- The fault that is found is one that the elements have. -/
theorem isIn_of_firstFault? {nodes : List Node} {relationships : List Relationship}
    {fault : IntegrityFault} (h : firstFault? nodes relationships = some fault) :
    fault.IsIn nodes relationships := by
  rw [firstFault?] at h
  split at h
  · next id hid =>
    obtain rfl := Option.some.inj h
    rcases duplicate_of_firstRepeat? hid with hdup | ⟨hseen, -⟩
    · exact hdup
    · exact absurd hseen List.not_mem_nil
  · rcases isIn_of_firstRelationshipFault? h with hfault | ⟨r, -, hseen, -⟩
    · exact hfault
    · exact absurd hseen List.not_mem_nil

namespace Snapshot

/-- A graph has nothing but its nodes and its relationships. -/
lemma ext_elements {g g' : Snapshot} (hnodes : g.nodes = g'.nodes)
    (hrels : g.relationships = g'.relationships) : g = g' := by
  cases g
  cases g'
  simp only at hnodes hrels
  subst hnodes
  subst hrels
  rfl

/-- Elements make up a graph exactly if they are the elements of one. -/
theorem ofElements?_eq_ok_iff {nodes : List Node} {relationships : List Relationship}
    {g : Snapshot} : ofElements? nodes relationships = .ok g ↔
      g.nodes = nodes ∧ g.relationships = relationships := by
  unfold ofElements?
  split
  · next fault h =>
    simp only [reduceCtorEq, false_iff, not_and]
    rintro rfl rfl
    rw [firstFault?_eq_none_iff.2 g.consistent] at h
    simp at h
  · next h =>
    rw [Except.ok.injEq]
    constructor
    · rintro rfl
      exact ⟨rfl, rfl⟩
    · rintro ⟨rfl, rfl⟩
      exact ext_elements rfl rfl

/-- Elements that make up no graph are refused for the fault that is found. -/
theorem ofElements?_eq_error_iff {nodes : List Node} {relationships : List Relationship}
    {fault : IntegrityFault} : ofElements? nodes relationships = .error fault ↔
      firstFault? nodes relationships = some fault := by
  unfold ofElements?
  split <;> simp_all

end Snapshot

end PropertyGraph
