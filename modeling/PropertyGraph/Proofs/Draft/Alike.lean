/-
# Graphs that are alike

Lists of elements that tell the same correspond one to one (`exists_equiv_of_perm_map`).  So graphs
that tell the same, in whatever order, are isomorphic (`Snapshot.Reordered.nonempty_isomorphism`),
and graphs that are alike pass for the same.  And since what elements tell includes what they
connect, elements that tell the same as those of a graph make up a graph too, provided that their
own identifiers are distinct (`Snapshot.exists_reordered`, `Snapshot.exists_alike`).
-/
import Mathlib.Data.List.NodupEquivFin
import Mathlib.Data.List.Perm.Basic
import PropertyGraph.Proofs.Comparison.SameGraph
import PropertyGraph.Proofs.Draft.Basic
import PropertyGraph.Proofs.Snapshot.Integrity

namespace PropertyGraph

/-! ### Lists that tell the same -/

section Lists

variable {α β γ : Type} {f : α → γ} {g : β → γ} {xs : List α} {ys : List β}

/-- What is a reordering of an image is the image of a reordering. -/
lemma exists_perm_of_perm_map {zs : List γ} (h : zs.Perm (xs.map f)) :
    ∃ xs' : List α, xs'.Perm xs ∧ xs'.map f = zs := by
  have hcomp := congrFun (congrFun (List.eq_map_comp_perm f) zs) xs
  obtain ⟨xs', hmap, hperm⟩ := hcomp.mpr h
  exact ⟨xs', hperm, hmap.symm⟩

lemma exists_equiv_of_map_eq (hxs : xs.Nodup) (hys : ys.Nodup) (h : xs.map f = ys.map g) :
    ∃ e : {x // x ∈ xs} ≃ {y // y ∈ ys}, ∀ x, g (e x).1 = f x.1 := by
  classical
  have hlength : xs.length = ys.length := by simpa using congrArg List.length h
  refine ⟨(hxs.getEquiv xs).symm.trans ((finCongr hlength).trans (hys.getEquiv ys)), fun x => ?_⟩
  -- both stand at the same position
  obtain ⟨i, rfl⟩ := (hxs.getEquiv xs).surjective x
  have hi := congrArg (fun zs => zs[i.1]?) h
  simp only [List.getElem?_map] at hi
  have hy : i.1 < ys.length := hlength ▸ i.2
  simpa [List.getElem?_eq_getElem i.2, List.getElem?_eq_getElem hy] using hi.symm

/-- Elements that tell the same correspond one to one. -/
theorem exists_equiv_of_perm_map (hxs : xs.Nodup) (hys : ys.Nodup)
    (h : (xs.map f).Perm (ys.map g)) :
    ∃ e : {x // x ∈ xs} ≃ {y // y ∈ ys}, ∀ x, g (e x).1 = f x.1 := by
  obtain ⟨zs, hzs, hmap⟩ := exists_perm_of_perm_map h
  obtain ⟨e, he⟩ := exists_equiv_of_map_eq hxs (hzs.nodup_iff.2 hys) hmap.symm
  refine ⟨e.trans (Equiv.subtypeEquivRight fun y => hzs.mem_iff), fun x => ?_⟩
  exact he x

end Lists

/-! ### Elements that tell the same -/

lemma Node.equivalent_of_description {m n : Node} (h : m.description = n.description) :
    m.equivalent n = true := by
  obtain ⟨-, hlabels, hfind⟩ : m.id = n.id ∧ m.labels = n.labels ∧
    m.properties.find? = n.properties.find? := by simpa [description] using h
  refine equivalent_iff.2 ?_
  rw [content, content, hlabels, Prod.mk.injEq]
  refine ⟨rfl, funext fun k => ?_⟩
  rw [Properties.content, Properties.content, hfind]

lemma Relationship.equivalent_of_description {q r : Relationship}
    (h : q.description = r.description) : q.equivalent r = true := by
  obtain ⟨htype, -, -, hfind⟩ : q.type = r.type ∧ q.source = r.source ∧ q.target = r.target ∧
    q.properties.find? = r.properties.find? := by simpa [description] using h
  refine equivalent_iff.2 ?_
  rw [content, content, htype, Prod.mk.injEq]
  refine ⟨rfl, funext fun k => ?_⟩
  rw [Properties.content, Properties.content, hfind]

namespace Snapshot

variable {s t u : Snapshot}

/-! ### Graphs that tell the same -/

/-- Two graphs tell the same nodes and the same relationships, in whatever order. -/
structure Reordered (s t : Snapshot) : Prop where
  nodes : (s.nodes.map Node.description).Perm (t.nodes.map Node.description)
  relationships :
    (s.relationships.map Relationship.description).Perm
      (t.relationships.map Relationship.description)

/-- Graphs that tell the same are isomorphic: each node corresponds to the one with its
identifier. -/
theorem Reordered.nonempty_isomorphism (h : s.Reordered t) : Nonempty (Isomorphism s t) := by
  obtain ⟨node, hnode⟩ := exists_equiv_of_perm_map t.nodup_nodes s.nodup_nodes h.nodes.symm
  obtain ⟨relationship, hrel⟩ := exists_equiv_of_perm_map t.nodup_relationships
    s.nodup_relationships h.relationships.symm
  have hid (n : t.NodeIn) : (node n).1.id = n.1.id := congrArg (fun d => d.1) (hnode n)
  have hsource (r : t.RelationshipIn) : (relationship r).1.source = r.1.source :=
    congrArg (fun d => d.2.1) (hrel r)
  have htarget (r : t.RelationshipIn) : (relationship r).1.target = r.1.target :=
    congrArg (fun d => d.2.2.1) (hrel r)
  refine ⟨⟨node, relationship, fun n => ?_, fun r => ?_, fun r n hn => ?_, fun r n hn => ?_⟩⟩
  · exact Node.equivalent_of_description (hnode n).symm
  · exact Relationship.equivalent_of_description (hrel r)
  · rw [hid, hsource, hn]
  · rw [hid, htarget, hn]

/-- Elements that tell the same as those of a graph make up a graph that tells the same. -/
theorem exists_reordered {g : Snapshot} {nodes : List Node} {relationships : List Relationship}
    (hnodes : (nodes.map Node.description).Perm (g.nodes.map Node.description))
    (hrels : (relationships.map Relationship.description).Perm
      (g.relationships.map Relationship.description))
    (hids : (relationships.map Relationship.id).Nodup) :
    ∃ s, ofElements? nodes relationships = .ok s ∧ s.Reordered g := by
  have hnodeIds : (nodes.map Node.id).Perm g.nodeIds := by
    have h := hnodes.map fun d => d.1
    rwa [List.map_map, List.map_map] at h
  have hends : ∀ r ∈ relationships,
      r.source ∈ nodes.map Node.id ∧ r.target ∈ nodes.map Node.id := by
    intro r hr
    obtain ⟨q, hq, hqr⟩ := List.mem_map.1 (hrels.mem_iff.1 (List.mem_map_of_mem hr))
    have hsource : q.source = r.source := congrArg (fun d => d.2.1) hqr
    have htarget : q.target = r.target := congrArg (fun d => d.2.2.1) hqr
    rw [hnodeIds.mem_iff, hnodeIds.mem_iff, ← hsource, ← htarget]
    exact g.consistent.endpoints q hq
  have hconsistent : Consistent nodes relationships :=
    ⟨hnodeIds.nodup_iff.2 g.consistent.nodeIds, hids, hends⟩
  exact ⟨⟨nodes, relationships, hconsistent⟩, ofElements?_eq_ok_iff.2 ⟨rfl, rfl⟩, hnodes, hrels⟩

/-! ### Graphs that are alike -/

namespace Alike

lemma symm (h : s.Alike t) : t.Alike s := ⟨h.nodes.symm, h.relationships.symm⟩

lemma trans (h : s.Alike t) (h' : t.Alike u) : s.Alike u :=
  ⟨h.nodes.trans h'.nodes, h.relationships.trans h'.relationships⟩

lemma reordered (h : s.Alike t) : s.Reordered t := ⟨.of_eq h.nodes, h.relationships⟩

/-- Graphs that are alike pass for the same. -/
theorem exists_assertSameGraph_eq_ok (h : s.Alike t) (arrangement : Arrangement)
    (settings : Settings) :
    ∃ m, (assertSameGraphArranged arrangement s t settings).run.result = .ok m := by
  obtain ⟨iso⟩ := h.reordered.nonempty_isomorphism
  obtain ⟨m, hm, -⟩ := iso.exists_assertSameGraph_eq_ok arrangement settings
  exact ⟨m, hm⟩

end Alike

/-- Elements that tell the same as those of a graph, the nodes in the same order, make up a graph
that is alike. -/
theorem exists_alike {g : Snapshot} {nodes : List Node} {relationships : List Relationship}
    (hnodes : nodes.map Node.description = g.nodes.map Node.description)
    (hrels : (relationships.map Relationship.description).Perm
      (g.relationships.map Relationship.description))
    (hids : (relationships.map Relationship.id).Nodup) :
    ∃ s, ofElements? nodes relationships = .ok s ∧ s.Alike g := by
  obtain ⟨s, hs, hreordered⟩ := exists_reordered (.of_eq hnodes) hrels hids
  obtain ⟨hsnodes, -⟩ := ofElements?_eq_ok_iff.1 hs
  exact ⟨s, hs, by rw [hsnodes, hnodes], hreordered.relationships⟩

end Snapshot

end PropertyGraph
