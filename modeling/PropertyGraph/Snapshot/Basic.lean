/-
# Snapshots

A snapshot is one property graph, read only: a list of nodes and a list of relationships that fit
together.  `Snapshot.ofElements?` checks that they do and names the first fault otherwise.
-/
import PropertyGraph.Element

namespace PropertyGraph

/-- Nodes and relationships fit together: identifiers occur once, and relationships connect nodes
that are there. -/
structure Consistent (nodes : List Node) (relationships : List Relationship) : Prop where
  /-- Node identifiers are pairwise distinct. -/
  nodeIds : (nodes.map Node.id).Nodup
  /-- Relationship identifiers are pairwise distinct. -/
  relationshipIds : (relationships.map Relationship.id).Nodup
  /-- Both ends of a relationship are nodes. -/
  endpoints : ∀ r ∈ relationships, r.source ∈ nodes.map Node.id ∧ r.target ∈ nodes.map Node.id

/-- Why nodes and relationships do not fit together. -/
inductive IntegrityFault
  /-- A node repeats the identifier of an earlier one. -/
  | duplicateNode (id : Ident)
  /-- A relationship repeats the identifier of an earlier one. -/
  | duplicateRelationship (id : Ident)
  /-- A relationship starts or ends at a node that is not there. -/
  | unknownNode (relationship node : Ident)
deriving DecidableEq, Repr

/-- Whether the identifiers that a fault names can be written. -/
def IntegrityFault.isWritable : IntegrityFault → Bool
  | .duplicateNode id | .duplicateRelationship id => id.isWritable
  | .unknownNode relationship node => relationship.isWritable && node.isWritable

/-- The wording of a fault whose identifiers can be written. -/
def IntegrityFault.message : IntegrityFault → String
  | .duplicateNode id => "Duplicate node id: " ++ id.written
  | .duplicateRelationship id => "Duplicate relationship id: " ++ id.written
  | .unknownNode relationship node =>
    "Relationship " ++ relationship.written ++ " references unknown node " ++ node.written

/-- The first identifier of a list that repeats an earlier one, `seen` coming before all. -/
def firstRepeat? (seen : List Ident) : List Ident → Option Ident
  | [] => none
  | id :: ids => if id ∈ seen then some id else firstRepeat? (id :: seen) ids

/-- The first fault of a list of relationships, given the identifiers of the nodes and those of
the relationships before: of each relationship its identifier is checked, then its source, then
its target. -/
def firstRelationshipFault? (nodeIds : List Ident) (seen : List Ident) :
    List Relationship → Option IntegrityFault
  | [] => none
  | r :: rs =>
    if r.id ∈ seen then some (.duplicateRelationship r.id)
    else if r.source ∉ nodeIds then some (.unknownNode r.id r.source)
    else if r.target ∉ nodeIds then some (.unknownNode r.id r.target)
    else firstRelationshipFault? nodeIds (r.id :: seen) rs

/-- The first fault, all nodes being checked before the relationships. -/
def firstFault? (nodes : List Node) (relationships : List Relationship) : Option IntegrityFault :=
  match firstRepeat? [] (nodes.map Node.id) with
  | some id => some (.duplicateNode id)
  | none => firstRelationshipFault? (nodes.map Node.id) [] relationships

theorem firstRepeat?_eq_none {seen ids : List Ident} (h : firstRepeat? seen ids = none) :
    ids.Nodup ∧ ∀ id ∈ ids, id ∉ seen := by
  induction ids generalizing seen with
  | nil => simp
  | cons id ids ih =>
    simp only [firstRepeat?] at h
    split at h
    · simp at h
    · next hid =>
      obtain ⟨hnodup, hseen⟩ := ih h
      refine ⟨List.nodup_cons.2 ⟨fun hmem => hseen id hmem List.mem_cons_self, hnodup⟩, ?_⟩
      intro j hj
      rcases List.mem_cons.1 hj with rfl | hj
      · exact hid
      · exact fun hmem => hseen j hj (List.mem_cons_of_mem _ hmem)

theorem firstRelationshipFault?_eq_none {nodeIds seen : List Ident} {rs : List Relationship}
    (h : firstRelationshipFault? nodeIds seen rs = none) :
    ((rs.map Relationship.id).Nodup ∧ ∀ r ∈ rs, r.id ∉ seen) ∧
      ∀ r ∈ rs, r.source ∈ nodeIds ∧ r.target ∈ nodeIds := by
  induction rs generalizing seen with
  | nil => simp
  | cons r rs ih =>
    simp only [firstRelationshipFault?] at h
    split at h
    · simp at h
    split at h
    · simp at h
    split at h
    · simp at h
    next hid hsource htarget =>
    obtain ⟨⟨hnodup, hseen⟩, hends⟩ := ih h
    refine ⟨⟨?_, ?_⟩, ?_⟩
    · refine List.nodup_cons.2 ⟨fun hmem => ?_, hnodup⟩
      obtain ⟨q, hq, hqid⟩ := List.mem_map.1 hmem
      exact hseen q hq (hqid ▸ List.mem_cons_self)
    · intro q hq
      rcases List.mem_cons.1 hq with rfl | hq
      · exact hid
      · exact fun hmem => hseen q hq (List.mem_cons_of_mem _ hmem)
    · intro q hq
      rcases List.mem_cons.1 hq with rfl | hq
      · exact ⟨Decidable.not_not.1 hsource, Decidable.not_not.1 htarget⟩
      · exact hends q hq

/-- Elements without a fault fit together. -/
theorem consistent_of_firstFault? {nodes : List Node} {relationships : List Relationship}
    (h : firstFault? nodes relationships = none) : Consistent nodes relationships := by
  unfold firstFault? at h
  split at h
  · simp at h
  · next hnodes =>
    obtain ⟨⟨hrels, -⟩, hends⟩ := firstRelationshipFault?_eq_none h
    exact ⟨(firstRepeat?_eq_none hnodes).1, hrels, hends⟩

/-- A property graph. -/
structure Snapshot where
  /-- The nodes, in order. -/
  nodes : List Node
  /-- The relationships, in order. -/
  relationships : List Relationship
  /-- The elements fit together. -/
  consistent : Consistent nodes relationships

/-- How many elements of each sort a graph has. -/
structure Counts where
  /-- The number of nodes. -/
  nodes : Nat
  /-- The number of distinct labels. -/
  labels : Nat
  /-- The number of distinct property keys of nodes and relationships. -/
  propertyKeys : Nat
  /-- The number of relationships. -/
  relationships : Nat
  /-- The number of distinct relationship types. -/
  relationshipTypes : Nat
deriving DecidableEq, Repr

namespace Snapshot

/-- A graph of elements that fit together, or the first fault of elements that do not. -/
def ofElements? (nodes : List Node) (relationships : List Relationship) :
    Except IntegrityFault Snapshot :=
  match h : firstFault? nodes relationships with
  | some fault => .error fault
  | none => .ok ⟨nodes, relationships, consistent_of_firstFault? h⟩

/-- The identifiers of the nodes, in order. -/
def nodeIds (g : Snapshot) : List Ident := g.nodes.map Node.id

/-- The labels that occur in a graph. -/
def labels (g : Snapshot) : NameSet := .ofList (g.nodes.flatMap fun n => n.labels.toList)

/-- The relationship types that occur in a graph. -/
def relationshipTypes (g : Snapshot) : NameSet := .ofList (g.relationships.map Relationship.type)

/-- The property keys that occur in a graph; nodes and relationships share one set. -/
def propertyKeys (g : Snapshot) : NameSet :=
  .ofList (g.nodes.flatMap (fun n => n.properties.keys) ++
    g.relationships.flatMap fun r => r.properties.keys)

/-- How many elements of each sort a graph has. -/
def counts (g : Snapshot) : Counts where
  nodes := g.nodes.length
  labels := g.labels.size
  propertyKeys := g.propertyKeys.size
  relationships := g.relationships.length
  relationshipTypes := g.relationshipTypes.size

end Snapshot

end PropertyGraph
