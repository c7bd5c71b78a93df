/-
# The first fault

Elements that do not fit together have many faults at once as a rule, and one of them is named.
Which one is told without going through the elements (`IntegrityFault.IsFirst`): the first node that
repeats the identifier of an earlier one; or, if there is none, the first relationship with a fault,
all relationships before it being in order, and of its faults a repeated identifier before an
unknown source before an unknown target (`Relationship.RefusedFor`).

The check goes through the nodes and then through the relationships, with the identifiers met so
far, and finds exactly this fault (`firstFault?_eq_some_iff`).
-/
import PropertyGraph.Proofs.Network.Attributes
import PropertyGraph.Proofs.Snapshot.Integrity
import PropertyGraph.Proofs.Writing

namespace PropertyGraph

/-- What a relationship is refused for, given the identifiers of the nodes and those of the
relationships before it. -/
inductive Relationship.RefusedFor (nodeIds seen : List Ident) (r : Relationship) :
    IntegrityFault → Prop
  | repeated (hid : r.id ∈ seen) : RefusedFor nodeIds seen r (.duplicateRelationship r.id)
  | source (hid : r.id ∉ seen) (hsource : r.source ∉ nodeIds) :
    RefusedFor nodeIds seen r (.unknownNode r.id r.source)
  | target (hid : r.id ∉ seen) (hsource : r.source ∈ nodeIds) (htarget : r.target ∉ nodeIds) :
    RefusedFor nodeIds seen r (.unknownNode r.id r.target)

/-- The first fault of some elements, all nodes coming before the relationships. -/
inductive IntegrityFault.IsFirst (nodes : List Node) (relationships : List Relationship) :
    IntegrityFault → Prop
  /-- The nodes before the first one that repeats an identifier have distinct ones. -/
  | node {before after : List Node} {n : Node} (split : nodes = before ++ n :: after)
    (distinct : (before.map Node.id).Nodup) (repeated : n.id ∈ before.map Node.id) :
    IsFirst nodes relationships (.duplicateNode n.id)
  /-- The nodes and the relationships before the first one with a fault fit together. -/
  | relationship {before after : List Relationship} {r : Relationship} {fault : IntegrityFault}
    (split : relationships = before ++ r :: after) (consistent : Consistent nodes before)
    (refused : r.RefusedFor (nodes.map Node.id) (before.map Relationship.id) fault) :
    IsFirst nodes relationships fault

/-! ### Nodes -/

lemma firstRepeat?_eq_some_iff {seen ids : List Ident} {id : Ident} :
    firstRepeat? seen ids = some id ↔ ∃ before after, ids = before ++ id :: after ∧
      firstRepeat? seen before = none ∧ (id ∈ seen ∨ id ∈ before) := by
  induction ids generalizing seen with
  | nil => simp [firstRepeat?]
  | cons j ids ih =>
    rw [firstRepeat?]
    by_cases hj : j ∈ seen
    · rw [if_pos hj]
      constructor
      · intro h
        obtain rfl := Option.some.inj h
        exact ⟨[], ids, rfl, rfl, .inl hj⟩
      · rintro ⟨before, after, hsplit, hnone, -⟩
        cases before with
        | nil => exact congrArg some (List.cons.inj hsplit).1
        | cons k before =>
          -- the check would have stopped at the front
          obtain ⟨rfl, -⟩ := List.cons.inj hsplit
          simp [firstRepeat?, hj] at hnone
    · rw [if_neg hj, ih]
      constructor
      · rintro ⟨before, after, rfl, hnone, hid⟩
        refine ⟨j :: before, after, rfl, ?_, ?_⟩
        · rw [firstRepeat?, if_neg hj]
          exact hnone
        · simpa [or_assoc, or_left_comm] using hid
      · rintro ⟨before, after, hsplit, hnone, hid⟩
        cases before with
        | nil =>
          obtain ⟨rfl, -⟩ := List.cons.inj hsplit
          exact absurd hid (by simpa using hj)
        | cons k before =>
          obtain ⟨rfl, rfl⟩ := List.cons.inj hsplit
          rw [firstRepeat?, if_neg hj] at hnone
          refine ⟨before, after, rfl, hnone, ?_⟩
          simpa [or_assoc, or_left_comm] using hid

lemma firstRepeat?_nil_eq_none_iff {ids : List Ident} : firstRepeat? [] ids = none ↔ ids.Nodup :=
  ⟨fun h => (firstRepeat?_eq_none h).1,
    fun h => firstRepeat?_eq_none_of_nodup h fun _ _ => List.not_mem_nil⟩

/-- The identifier that is found is that of the first node that repeats an earlier one. -/
lemma firstRepeat?_ids_eq_some_iff {nodes : List Node} {id : Ident} :
    firstRepeat? [] (nodes.map Node.id) = some id ↔
      ∃ before n after, nodes = before ++ n :: after ∧ (before.map Node.id).Nodup ∧
        n.id ∈ before.map Node.id ∧ n.id = id := by
  rw [firstRepeat?_eq_some_iff]
  constructor
  · rintro ⟨ids, ids', hsplit, hnone, hid⟩
    obtain ⟨before, rest, rfl, rfl, hrest⟩ := List.map_eq_append_iff.1 hsplit
    obtain ⟨n, after, rfl, rfl, -⟩ := List.map_eq_cons_iff.1 hrest
    exact ⟨before, n, after, rfl, firstRepeat?_nil_eq_none_iff.1 hnone,
      hid.resolve_left List.not_mem_nil, rfl⟩
  · rintro ⟨before, n, after, rfl, hnodup, hmem, rfl⟩
    exact ⟨before.map Node.id, after.map Node.id, by simp,
      firstRepeat?_nil_eq_none_iff.2 hnodup, .inr hmem⟩

/-! ### Relationships -/

section Relationships

variable {nodeIds seen seen' : List Ident} {rs : List Relationship} {r : Relationship}
  {fault : IntegrityFault}

/-- The order of the identifiers met so far does not matter. -/
lemma Relationship.RefusedFor.congr (h : r.RefusedFor nodeIds seen fault)
    (hseen : ∀ id, id ∈ seen ↔ id ∈ seen') : r.RefusedFor nodeIds seen' fault := by
  cases h with
  | repeated hid => exact .repeated ((hseen _).1 hid)
  | source hid hsource => exact .source (mt (hseen _).2 hid) hsource
  | target hid hsource htarget => exact .target (mt (hseen _).2 hid) hsource htarget

lemma firstRelationshipFault?_cons_of_refusedFor (h : r.RefusedFor nodeIds seen fault)
    (rs : List Relationship) : firstRelationshipFault? nodeIds seen (r :: rs) = some fault := by
  cases h with
  | repeated hid => rw [firstRelationshipFault?, if_pos hid]
  | source hid hsource => rw [firstRelationshipFault?, if_neg hid, if_pos hsource]
  | target hid hsource htarget =>
    rw [firstRelationshipFault?, if_neg hid, if_neg (not_not_intro hsource), if_pos htarget]

/-- A relationship at the front is refused, or the check goes on behind it. -/
lemma refusedFor_or_firstRelationshipFault?_cons (nodeIds seen : List Ident) (r : Relationship) :
    (∃ fault, r.RefusedFor nodeIds seen fault) ∨
      ∀ rs, firstRelationshipFault? nodeIds seen (r :: rs) =
        firstRelationshipFault? nodeIds (r.id :: seen) rs := by
  by_cases hid : r.id ∈ seen
  · exact .inl ⟨_, .repeated hid⟩
  by_cases hsource : r.source ∈ nodeIds
  · by_cases htarget : r.target ∈ nodeIds
    · refine .inr fun rs => ?_
      rw [firstRelationshipFault?, if_neg hid, if_neg (not_not_intro hsource),
        if_neg (not_not_intro htarget)]
    · exact .inl ⟨_, .target hid hsource htarget⟩
  · exact .inl ⟨_, .source hid hsource⟩

-- by induction on the relationships; those met so far are added to the ones seen before
lemma firstRelationshipFault?_eq_some_iff :
    firstRelationshipFault? nodeIds seen rs = some fault ↔
      ∃ before r after, rs = before ++ r :: after ∧
        firstRelationshipFault? nodeIds seen before = none ∧
        r.RefusedFor nodeIds (before.map Relationship.id ++ seen) fault := by
  induction rs generalizing seen with
  | nil => simp [firstRelationshipFault?]
  | cons q rs ih =>
    rcases refusedFor_or_firstRelationshipFault?_cons nodeIds seen q with ⟨fault', hq⟩ | hcons
    · constructor
      · intro h
        rw [firstRelationshipFault?_cons_of_refusedFor hq] at h
        obtain rfl := Option.some.inj h
        exact ⟨[], q, rs, rfl, rfl, hq⟩
      · rintro ⟨before, r, after, hsplit, hnone, hr⟩
        cases before with
        | nil =>
          obtain ⟨rfl, rfl⟩ := List.cons.inj hsplit
          exact firstRelationshipFault?_cons_of_refusedFor hr _
        | cons p before =>
          obtain ⟨rfl, -⟩ := List.cons.inj hsplit
          rw [firstRelationshipFault?_cons_of_refusedFor hq] at hnone
          simp at hnone
    · have hmem (before : List Relationship) (id : Ident) :
          id ∈ before.map Relationship.id ++ q.id :: seen ↔
            id ∈ (q :: before).map Relationship.id ++ seen := by
        simp only [List.map_cons, List.cons_append, List.mem_append, List.mem_cons]
        exact or_left_comm
      rw [hcons, ih]
      constructor
      · rintro ⟨before, r, after, rfl, hnone, hr⟩
        exact ⟨q :: before, r, after, rfl, (hcons before).trans hnone, hr.congr (hmem before)⟩
      · rintro ⟨before, r, after, hsplit, hnone, hr⟩
        cases before with
        | nil =>
          obtain ⟨rfl, rfl⟩ := List.cons.inj hsplit
          have hfront := firstRelationshipFault?_cons_of_refusedFor hr []
          rw [List.map_nil, List.nil_append, hcons] at hfront
          simp [firstRelationshipFault?] at hfront
        | cons p before =>
          obtain ⟨rfl, rfl⟩ := List.cons.inj hsplit
          exact ⟨before, r, after, rfl, (hcons before).symm.trans hnone,
            hr.congr fun id => (hmem before id).symm⟩

end Relationships

/-! ### The fault that is named -/

/-- The check finds the first fault. -/
theorem firstFault?_eq_some_iff {nodes : List Node} {relationships : List Relationship}
    {fault : IntegrityFault} :
    firstFault? nodes relationships = some fault ↔ fault.IsFirst nodes relationships := by
  rw [firstFault?]
  cases hnodes : firstRepeat? [] (nodes.map Node.id) with
  | some id =>
    obtain ⟨before, n, after, hsplit, hnodup, hmem, rfl⟩ := firstRepeat?_ids_eq_some_iff.1 hnodes
    constructor
    · intro h
      obtain rfl := Option.some.inj h
      exact .node hsplit hnodup hmem
    · rintro (⟨hsplit', hnodup', hmem'⟩ | ⟨-, hconsistent, -⟩)
      · rw [firstRepeat?_ids_eq_some_iff.2 ⟨_, _, _, hsplit', hnodup', hmem', rfl⟩] at hnodes
        rw [Option.some.inj hnodes]
      · -- a repeated node is found before any relationship
        rw [firstRepeat?_nil_eq_none_iff.2 hconsistent.nodeIds] at hnodes
        simp at hnodes
  | none =>
    have hnodeIds := firstRepeat?_nil_eq_none_iff.1 hnodes
    have hbefore (before : List Relationship) :
        firstRelationshipFault? (nodes.map Node.id) [] before = none ↔
          Consistent nodes before := by
      rw [← firstFault?_eq_none_iff, firstFault?, hnodes]
    simp only [firstRelationshipFault?_eq_some_iff, hbefore, List.append_nil]
    constructor
    · rintro ⟨before, r, after, hsplit, hconsistent, hr⟩
      exact .relationship hsplit hconsistent hr
    · rintro (⟨hsplit, hnodup, hmem⟩ | ⟨hsplit, hconsistent, hr⟩)
      · rw [firstRepeat?_ids_eq_some_iff.2 ⟨_, _, _, hsplit, hnodup, hmem, rfl⟩] at hnodes
        simp at hnodes
      · exact ⟨_, _, _, hsplit, hconsistent, hr⟩

/-- Of many faults the one of the second node is named, and without it the unknown target of the
first relationship. -/
example :
    let node (id : Ident) : Node := ⟨id, .empty, .empty⟩
    let link (id source target : Ident) : Relationship :=
      ⟨id, "R", source, target, .empty, by decide⟩
    let relationships := [link (.int 0) (.int 1) (.text "1"), link (.int 0) (.int 2) (.int 3)]
    firstFault? [node (.int 1), node (.int 1), node (.text "1")] relationships =
        some (.duplicateNode (.int 1)) ∧
      firstFault? [node (.int 1)] relationships =
        some (.unknownNode (.int 0) (.text "1")) := by
  decide

end PropertyGraph
