/-
# All forms of a draft agree

Whether a draft is given as a plain map, as a network or as two tables, it is read, and the graphs
that are read are alike: they pass for one another (`Draft.forms_agree`).
-/
import PropertyGraph.Proofs.Gathering
import PropertyGraph.Proofs.Draft.Building
import PropertyGraph.Proofs.Draft.Frames

namespace PropertyGraph

/-- The events of a reading do not change its result. -/
lemma Table.result_readSnapshot (nodes : Table) (relationships : Option Table) :
    (Table.readSnapshot nodes relationships).run.result =
      Table.toSnapshot? nodes relationships := by
  rw [readSnapshot, Attempt.result_bind]
  cases Table.toSnapshot? nodes relationships <;> rfl

/-- A draft is read from each of its forms, with the same nodes in the same order and with the same
relationships up to their identifiers and their order, and each of the graphs passes for each. -/
theorem Draft.forms_agree (d : Draft) (f : d.Frames) :
    ∃ s n t : Snapshot,
      Snapshot.ofFields d.payload = .ok s ∧
      (∃ g, (Network.empty true true).applyAll d.changes = .ok g ∧
        g.readSnapshot.run.result = .ok n) ∧
      (Table.readSnapshot f.nodeTable (some f.relationshipTable)).run.result = .ok t ∧
      ∀ a ∈ [s, n, t], a.Alike d.graph ∧ ∀ b ∈ [s, n, t], a.Alike b ∧
        ∀ arrangement settings,
          ∃ m, (assertSameGraphArranged arrangement a b settings).run.result = .ok m := by
  obtain ⟨g, n, hbuild, hn, hnetwork⟩ := d.exists_network
  obtain ⟨t, ht, htables⟩ := f.exists_snapshot
  have hgraph : d.graph.Alike d.graph := ⟨rfl, .rfl⟩
  have halike : ∀ a ∈ [d.graph, n, t], a.Alike d.graph := by
    simp only [List.forall_mem_cons]
    exact ⟨hgraph, hnetwork, htables, by simp⟩
  refine ⟨d.graph, n, t, d.ofFields_payload, ⟨g, hbuild, ?_⟩, ?_, fun a ha => ?_⟩
  · rw [Network.result_readSnapshot, hn]
  · rw [Table.result_readSnapshot, ht]
  · refine ⟨halike a ha, fun b hb => ?_⟩
    have hab : a.Alike b := (halike a ha).trans (halike b hb).symm
    exact ⟨hab, fun arrangement settings => hab.exists_assertSameGraph_eq_ok arrangement settings⟩

/-! ### Tables for every draft -/

/-- A column for every key that some element has, in the order in which the keys first appear. -/
def PropertyColumns.ofElements {α : Type} (elements : List α) (properties : α → PropertyDraft) :
    PropertyColumns elements properties where
  keys := (elements.flatMap fun a => (properties a).given.keys).eraseDups
  nodup := nodup_eraseDups _
  free k hk := by
    obtain ⟨a, -, hka⟩ := List.mem_flatMap.1 (List.mem_eraseDups.1 hk)
    exact (properties a).free k hka
  covers a ha k hk := List.mem_eraseDups.2 (List.mem_flatMap.2 ⟨a, ha, hk⟩)
  blank _ _ := .null
  missing _ _ := rfl

/-- Tables of a draft with the properties behind the other columns. -/
def Draft.frames (d : Draft) (joined : NodeDraft → Bool) (identified : Bool) : d.Frames where
  nodeProperties := .ofElements d.nodes NodeDraft.properties
  relationshipProperties := .ofElements d.relationships RelationshipDraft.properties
  joined := joined
  identified := identified
  nodeColumns := _
  relationshipColumns := _
  nodeColumns_perm := .rfl
  relationshipColumns_perm := .rfl

/-- Two nodes whose identifiers look alike, connected twice, with a property that only one of them
has. -/
def mixedDraft : Draft where
  nodes := [
    ⟨.int 1, [⟨"B", by decide⟩, ⟨"A", by decide⟩],
      ⟨.ofList [("size", ⟨.sized .int64 (.int 3), .scalar (.number (.int 3)), rfl, rfl⟩)],
        by decide⟩⟩,
    ⟨.text "1", [], ⟨.empty, by decide⟩⟩]
  relationships := [
    ⟨.int 7, ⟨"FEEDS", by decide⟩, .int 1, .text "1", ⟨.empty, by decide⟩⟩,
    ⟨.text "7", ⟨"FEEDS", by decide⟩, .int 1, .text "1", ⟨.empty, by decide⟩⟩]
  consistent := ⟨by decide, by decide, by decide⟩

theorem Draft.forms_agree_mixed :
    ∃ t, (Table.readSnapshot (mixedDraft.frames (fun _ => true) false).nodeTable
        (some (mixedDraft.frames (fun _ => true) false).relationshipTable)).run.result = .ok t ∧
      t.nodeIds = [.int 1, .text "1"] ∧ t.relationships.length = 2 := by
  obtain ⟨s, n, t, -, -, ht, hall⟩ :=
    mixedDraft.forms_agree (mixedDraft.frames (fun _ => true) false)
  obtain ⟨halike, -⟩ := hall t (by simp)
  refine ⟨t, ht, ?_, ?_⟩
  · have hids := congrArg (List.map fun d => d.1) halike.nodes
    rwa [List.map_map, List.map_map] at hids
  · have hlength := halike.relationships.length_eq
    rwa [List.length_map, List.length_map] at hlength

end PropertyGraph
