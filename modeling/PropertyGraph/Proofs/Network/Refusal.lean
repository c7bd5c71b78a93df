/-
# Graphs that cannot be rendered

A graph is not rendered if one of its nodes has a property of the name that is taken by its labels,
or one of its relationships a property of the name that is taken by its type.  In every other case
it is, with a vertex for every node and an edge for every relationship (`Network.Renders`), provided
that no property has a name that attributes cannot have; such a name is refused as well, with a
fault of another sort (`ofSnapshot?_outcome`).  The network itself refuses nothing.
-/
import PropertyGraph.Proofs.Network.Traversal

namespace PropertyGraph

open Network

/-! ### What is refused -/

namespace Snapshot

/-- A node has a property of the name that is taken by its labels. -/
def LabelsClash (s : Snapshot) : Prop := ∃ n ∈ s.nodes, labelsKey ∈ n.properties.keys

/-- A relationship has a property of the name that is taken by its type. -/
def TypeClash (s : Snapshot) : Prop := ∃ r ∈ s.relationships, typeKey ∈ r.properties.keys

/-- No property has a name that attributes cannot have. -/
structure AvoidsReserved (s : Snapshot) : Prop where
  /-- Properties of nodes have other names than the reserved ones. -/
  nodes : ∀ n ∈ s.nodes, ∀ name ∈ reservedForVertices, name ∉ n.properties.keys
  /-- Properties of relationships have other names than the reserved ones. -/
  relationships : ∀ r ∈ s.relationships, ∀ name ∈ reservedForEdges, name ∉ r.properties.keys

end Snapshot

lemma Properties.clash?_of_avoids {ps : Properties} {own : String} {taken : RenderFault}
    {reserved : List String} (h : ∀ name ∈ reserved, name ∉ ps.keys) :
    ps.clash? own taken reserved = if own ∈ ps.keys then some taken else none := by
  by_cases hown : own ∈ ps.keys
  · rw [if_pos hown, clash?, if_pos (OrderedMap.contains_iff.2 hown)]
  · rw [if_neg hown]
    exact clash?_eq_none_iff.2 ⟨hown, h⟩

namespace Snapshot.AvoidsReserved

variable {s : Snapshot}

lemma clash?_node (h : s.AvoidsReserved) {n : Node} (hn : n ∈ s.nodes) :
    n.clash? = if labelsKey ∈ n.properties.keys then some .labelsTaken else none :=
  Properties.clash?_of_avoids (h.nodes n hn)

lemma clash?_relationship (h : s.AvoidsReserved) {r : Relationship} (hr : r ∈ s.relationships) :
    r.clash? = if typeKey ∈ r.properties.keys then some .typeTaken else none :=
  Properties.clash?_of_avoids (h.relationships r hr)

lemma of_clash? (h : s.clash? = none) : s.AvoidsReserved := by
  obtain ⟨hnodes, hrels⟩ := clash?_eq_none_iff.1 h
  exact ⟨fun n hn => (Properties.clash?_eq_none_iff.1 (hnodes n hn)).2,
    fun r hr => (Properties.clash?_eq_none_iff.1 (hrels r hr)).2⟩

end Snapshot.AvoidsReserved

/-- Where all that can be found is the same, it is found if it is there. -/
lemma findSome?_ite {α β : Type} {p : α → Prop} [DecidablePred p] {b : β} {xs : List α}
    {f : α → Option β} (hf : ∀ x ∈ xs, f x = if p x then some b else none) :
    ((∃ x ∈ xs, p x) → xs.findSome? f = some b) ∧ ((¬∃ x ∈ xs, p x) → xs.findSome? f = none) := by
  have hnone : xs.findSome? f = none ↔ ¬∃ x ∈ xs, p x := by
    rw [List.findSome?_eq_none_iff]
    push Not
    refine forall₂_congr fun x hx => ?_
    rw [hf x hx]
    split <;> simp_all
  refine ⟨fun hex => ?_, hnone.2⟩
  cases hfind : xs.findSome? f with
  | none => exact absurd hex (hnone.1 hfind)
  | some c =>
    obtain ⟨x, hx, hxc⟩ := List.exists_of_findSome?_eq_some hfind
    rw [hf x hx] at hxc
    split at hxc <;> simp_all

/-! ### What is rendered -/

/-- A network of directed parallel edges shows a graph: a vertex for every node, with its labels and
all its properties, and an edge for every relationship, with its identifier as key, its type and all
its properties. -/
structure Network.Renders (g : Network) (s : Snapshot) : Prop where
  /-- Edges have a direction. -/
  directed : g.directed = true
  /-- There may be several edges between two vertices. -/
  parallel : g.parallel = true
  /-- The vertices are the nodes, in order. -/
  vertices : g.vertices.map (fun v => (v.name, v.attributes.entries)) = s.nodes.map fun n =>
    (n.id.toValue, n.attributeList)
  /-- The edges are the relationships, in some order. -/
  edges : (g.edges.map fun e => (e.source, e.target, e.key, e.attributes.entries)).Perm
    (s.relationships.map fun r =>
      (r.source.toValue, r.target.toValue, r.id.toValue, r.attributeList))

lemma Network.renders_rendered {s : Snapshot} (h : s.clash? = none) :
    (rendered s.nodes s.relationships).Renders s := by
  obtain ⟨hnodes, hrels⟩ := Snapshot.clash?_eq_none_iff.1 h
  refine ⟨rfl, rfl, ?_, ?_⟩
  · rw [vertices_rendered s.consistent.nodeIds, List.map_map]
    refine List.map_congr_left fun n hn => ?_
    exact congrArg (Prod.mk n.id.toValue)
      (entries_attributesOf (Node.labelsKey_notMem (hnodes n hn)))
  · rw [s.edges_rendered, List.map_map]
    refine (s.perm_grouped.map _).trans (.of_eq (List.map_congr_left fun r hr => ?_))
    have hentries : (OrderedMap.ofList r.attributeList).entries = r.attributeList :=
      entries_attributesOf (Relationship.typeKey_notMem (hrels r hr))
    simp only [Function.comp_apply, edgeOf, hentries]

/-- A graph is refused for the first clash in it.  Unless a property has a name that attributes
cannot have, a clash is one of a property of a node with the labels or else of a property of a
relationship with the type; and where there is none, the network shows the graph. -/
theorem ofSnapshot?_outcome (s : Snapshot) :
    (∀ fault, ofSnapshot? s = .error fault ↔ s.clash? = some fault) ∧
    (s.AvoidsReserved →
      (s.LabelsClash → ofSnapshot? s = .error .labelsTaken) ∧
      (¬s.LabelsClash → s.TypeClash → ofSnapshot? s = .error .typeTaken) ∧
      (¬s.LabelsClash → ¬s.TypeClash → ∃ g, ofSnapshot? s = .ok g ∧ g.Renders s)) ∧
    (¬s.AvoidsReserved → ∃ fault, ofSnapshot? s = .error fault) := by
  have hfault (fault : RenderFault) : ofSnapshot? s = .error fault ↔ s.clash? = some fault := by
    rw [ofSnapshot?_eq]
    cases s.clash? <;> simp
  refine ⟨hfault, fun h => ?_, fun h => ?_⟩
  · obtain ⟨hlabels, hnolabels⟩ := findSome?_ite fun n hn => h.clash?_node hn
    obtain ⟨htype, hnotype⟩ := findSome?_ite fun r hr => h.clash?_relationship hr
    refine ⟨fun hl => (hfault _).2 ?_, fun hl ht => (hfault _).2 ?_, fun hl ht => ?_⟩
    · rw [Snapshot.clash?, hlabels hl]
      rfl
    · rw [Snapshot.clash?, hnolabels hl, htype ht]
      rfl
    · have hnone : s.clash? = none := by
        rw [Snapshot.clash?, hnolabels hl, hnotype ht]
        rfl
      exact ⟨_, ofSnapshot?_eq_ok_iff.2 ⟨hnone, rfl⟩, renders_rendered hnone⟩
  · -- a reserved name is a clash of its own, so there is a first one
    cases hclash : s.clash? with
    | none => exact absurd (.of_clash? hclash) h
    | some fault => exact ⟨fault, (hfault fault).2 hclash⟩

/-- Two nodes connected by a relationship with a property that is named like an argument. -/
def lockedDoor : Snapshot where
  nodes := [⟨.int 1, .empty, .empty⟩, ⟨.int 2, .empty, .empty⟩]
  relationships := [⟨.int 0, "OPENS", .int 1, .int 2,
    .ofList [("key", .scalar (.text "front door"))], by decide⟩]
  consistent := ⟨by decide, by decide, by decide⟩

/-- A property that clashes neither with the labels nor with the type can be refused. -/
theorem ofSnapshot?_lockedDoor :
    (¬lockedDoor.LabelsClash ∧ ¬lockedDoor.TypeClash) ∧
      ofSnapshot? lockedDoor = .error (.reservedName "key") := by
  refine ⟨⟨?_, ?_⟩, rfl⟩
  · unfold Snapshot.LabelsClash
    decide
  · unfold Snapshot.TypeClash
    decide

end PropertyGraph
