/-
# Placements

A placement puts every expected node at an equivalent actual node, no two at the same.  It is what a
mapping says about the nodes when their identifiers are left aside: the mappings of `IsPlacement`
realize placements (`IsPlacement.exists_placement`), and every placement is realized by some
mapping (`Placement.exists_mapping`).
-/
import Mathlib.Data.List.NodupEquivFin
import Mathlib.SetTheory.Cardinal.Finite
import PropertyGraph.Proofs.Embedding

namespace PropertyGraph

/-! ### The elements of a graph as types -/

namespace Snapshot

/-- The nodes of a graph. -/
abbrev NodeIn (g : Snapshot) : Type := {n : Node // n ∈ g.nodes}

/-- The relationships of a graph. -/
abbrev RelationshipIn (g : Snapshot) : Type := {r : Relationship // r ∈ g.relationships}

lemma card_mem {α : Type} {xs : List α} (h : xs.Nodup) : Nat.card {x // x ∈ xs} = xs.length := by
  classical
  rw [← Nat.card_congr (h.getEquiv xs), Nat.card_fin]

/-- The members of a list without repetitions that pass a test, as a type. -/
lemma countP_eq_card {α : Type} {xs : List α} (h : xs.Nodup) (p : α → Bool) :
    xs.countP p = Nat.card {x : {x // x ∈ xs} // p x.1 = true} := by
  rw [List.countP_eq_length_filter, ← card_mem (h.filter p)]
  refine Nat.card_congr ?_
  calc {x // x ∈ xs.filter p}
      ≃ {x // x ∈ xs ∧ p x = true} := .subtypeEquivRight fun _ => List.mem_filter
    _ ≃ {x : {x // x ∈ xs} // p x.1 = true} := (Equiv.subtypeSubtypeEquivSubtypeInter _ _).symm

variable (g : Snapshot)

instance : Finite g.NodeIn := List.finite_toSet g.nodes

instance : Finite g.RelationshipIn := List.finite_toSet g.relationships

lemma card_nodeIn : Nat.card g.NodeIn = g.nodes.length := card_mem g.nodup_nodes

lemma card_relationshipIn : Nat.card g.RelationshipIn = g.relationships.length :=
  card_mem g.nodup_relationships

lemma nodeIn_ext {g : Snapshot} {a b : g.NodeIn} (h : a.1.id = b.1.id) : a = b :=
  Subtype.ext (g.node_eq_of_id a.2 b.2 h)

lemma exists_nodeIn {g : Snapshot} {id : Ident} (h : id ∈ g.nodeIds) :
    ∃ n : g.NodeIn, n.1.id = id := by
  obtain ⟨n, hn, rfl⟩ := List.mem_map.1 h
  exact ⟨⟨n, hn⟩, rfl⟩

lemma exists_source {g : Snapshot} (r : g.RelationshipIn) :
    ∃ n : g.NodeIn, n.1.id = r.1.source :=
  exists_nodeIn (g.consistent.endpoints r.1 r.2).1

lemma exists_target {g : Snapshot} (r : g.RelationshipIn) :
    ∃ n : g.NodeIn, n.1.id = r.1.target :=
  exists_nodeIn (g.consistent.endpoints r.1 r.2).2

/-- Every choice of an identifier for each node is a mapping. -/
lemma exists_mapping {g : Snapshot} (f : g.NodeIn → Ident) :
    ∃ m : Mapping, m.keys = g.nodeIds ∧ ∀ n : g.NodeIn, m.find? n.1.id = some (f n) := by
  -- `f` as a function of the identifiers; elsewhere it does not matter
  let f' : Ident → Ident := Function.extend (fun n : g.NodeIn => n.1.id) f id
  have hf' (n : g.NodeIn) : f' n.1.id = f n :=
    Function.Injective.extend_apply (fun _ _ => nodeIn_ext) _ _ n
  refine ⟨.tabulate g.nodeIds g.consistent.nodeIds f', OrderedMap.keys_tabulate, fun n => ?_⟩
  exact OrderedMap.find?_tabulate.2 ⟨List.mem_map_of_mem n.2, hf' n⟩

end Snapshot

/-! ### Placements and mappings -/

/-- A placement of the expected nodes: each of them at an equivalent actual node, no two at the
same. -/
abbrev Placement (actual expected : Snapshot) : Type :=
  {f : expected.NodeIn ↪ actual.NodeIn // ∀ n : expected.NodeIn, n.1.equivalent (f n).1 = true}

variable {actual expected : Snapshot} {m : Mapping}

/-- A mapping sends every expected node where a placement puts it. -/
def Mapping.Realizes (m : Mapping) (p : Placement actual expected) : Prop :=
  ∀ n : expected.NodeIn, m.find? n.1.id = some (p.1 n).1.id

/-- A mapping realizes one placement only. -/
lemma Mapping.Realizes.placement_eq {p p' : Placement actual expected} (h : m.Realizes p)
    (h' : m.Realizes p') : p = p' := by
  refine Subtype.ext (Function.Embedding.ext fun n => Snapshot.nodeIn_ext ?_)
  exact Option.some_inj.1 ((h n).symm.trans (h' n))

/-- A mapping of the expected nodes that realizes a placement is one. -/
lemma Mapping.Realizes.isPlacement {p : Placement actual expected} (h : m.Realizes p)
    (hkeys : m.keys.Perm expected.nodeIds) : IsPlacement actual expected m where
  keys := hkeys
  injective i j t hi hj := by
    have hmem {k : Ident} (hk : m.find? k = some t) : k ∈ expected.nodeIds :=
      hkeys.mem_iff.1 (OrderedMap.mem_keys_iff.2 ⟨t, hk⟩)
    obtain ⟨a, rfl⟩ := Snapshot.exists_nodeIn (hmem hi)
    obtain ⟨b, rfl⟩ := Snapshot.exists_nodeIn (hmem hj)
    rw [h, Option.some_inj] at hi hj
    have hab : p.1 a = p.1 b := Snapshot.nodeIn_ext (hi.trans hj.symm)
    rw [p.1.injective hab]
  nodes n hn := ⟨_, (p.1 ⟨n, hn⟩).2, h ⟨n, hn⟩, p.2 ⟨n, hn⟩⟩

theorem IsPlacement.exists_placement (h : IsPlacement actual expected m) :
    ∃ p : Placement actual expected, m.Realizes p := by
  have himage (n : expected.NodeIn) : ∃ c : actual.NodeIn,
      m.find? n.1.id = some c.1.id ∧ n.1.equivalent c.1 = true := by
    obtain ⟨c, hc, hnc⟩ := h.nodes n.1 n.2
    exact ⟨⟨c, hc⟩, hnc⟩
  choose f hf using himage
  have hinj : Function.Injective f := by
    intro a b hab
    exact Snapshot.nodeIn_ext (h.injective _ _ _ (hf a).1 (hab ▸ (hf b).1))
  exact ⟨⟨⟨f, hinj⟩, fun n => (hf n).2⟩, fun n => (hf n).1⟩

theorem Placement.exists_mapping (p : Placement actual expected) :
    ∃ m : Mapping, IsPlacement actual expected m ∧ m.Realizes p := by
  obtain ⟨m, hkeys, hm⟩ := Snapshot.exists_mapping fun n => (p.1 n).1.id
  have hrealizes : m.Realizes p := hm
  exact ⟨m, hrealizes.isPlacement (.of_eq hkeys), hrealizes⟩

end PropertyGraph
