/-
# The groups of a snapshot

The relationships that start at a node and the nodes that carry a label are looked up in groups
that are built in one pass.  What comes out is what a scan of the whole graph gives: the same
elements, each once, in the order of the graph (`outgoing_index`, `nodesWithLabel_index`).
-/
import PropertyGraph.Snapshot.Index
import PropertyGraph.Proofs.OrderedMap

namespace PropertyGraph

/-! ### Groups by one key -/

section Groups

variable {κ α : Type} [BEq κ] [LawfulBEq κ]

/-- The group under a key. -/
def OrderedMap.group (m : OrderedMap κ (List α)) (k : κ) : List α := (m.find? k).getD []

lemma OrderedMap.group_addTo (m : OrderedMap κ (List α)) (j k : κ) (x : α) :
    (m.addTo j x).group k = if j == k then m.group k ++ [x] else m.group k := by
  by_cases h : j = k
  · subst h
    simp [group, addTo, find?_insert]
  · simp [group, addTo, find?_insert, h]

/-- Members added one after another, each under its own key. -/
lemma OrderedMap.group_foldl_addTo (key : α → κ) (xs : List α) (m : OrderedMap κ (List α))
    (k : κ) :
    (xs.foldl (fun m x => m.addTo (key x) x) m).group k =
      m.group k ++ xs.filter fun x => key x == k := by
  induction xs generalizing m with
  | nil => simp
  | cons x xs ih =>
    rw [List.foldl_cons, ih, OrderedMap.group_addTo]
    by_cases h : key x = k <;> simp [h]

/-- One member added under several keys. -/
lemma OrderedMap.group_foldl_keys {ks : List κ} (hks : ks.Nodup) (x : α)
    (m : OrderedMap κ (List α)) (k : κ) :
    (ks.foldl (fun m k => m.addTo k x) m).group k =
      if ks.contains k then m.group k ++ [x] else m.group k := by
  induction ks generalizing m with
  | nil => simp
  | cons j ks ih =>
    obtain ⟨hj, hks⟩ := List.nodup_cons.1 hks
    rw [List.foldl_cons, ih hks, OrderedMap.group_addTo]
    by_cases h : j = k
    · subst h
      simp [hj]
    · simp [h, Ne.symm h]

end Groups

/-! ### The groups of a graph -/

lemma NameSet.nodup_toList (s : NameSet) : s.toList.Nodup :=
  s.ascending.imp fun h => String.ne_of_lt h

namespace Snapshot

variable (g : Snapshot)

theorem outgoing_index (id : Ident) :
    g.index.outgoing id = g.relationships.filter fun r => r.source == id :=
  OrderedMap.group_foldl_addTo Relationship.source g.relationships .empty id

lemma mem_outgoing_index {g : Snapshot} {id : Ident} {r : Relationship} :
    r ∈ g.index.outgoing id ↔ r ∈ g.relationships ∧ r.source = id := by
  rw [outgoing_index, List.mem_filter, beq_iff_eq]

/-- Nodes added one after another, each under all its labels. -/
lemma group_foldl_labels (nodes : List Node) (m : OrderedMap String (List Node)) (l : String) :
    (nodes.foldl (fun m n => n.labels.toList.foldl (fun m l => m.addTo l n) m) m).group l =
      m.group l ++ nodes.filter fun n => n.labels.toList.contains l := by
  induction nodes generalizing m with
  | nil => simp
  | cons n nodes ih =>
    rw [List.foldl_cons, ih, OrderedMap.group_foldl_keys n.labels.nodup_toList]
    by_cases h : n.labels.toList.contains l
    · simp only [h, if_true, List.filter_cons_of_pos, List.append_assoc, List.cons_append,
        List.nil_append]
    · simp only [h, Bool.false_eq_true, if_false, List.filter_cons_of_neg, not_false_eq_true]

theorem nodesWithLabel_index (l : String) :
    g.index.nodesWithLabel l = g.nodes.filter fun n => n.labels.toList.contains l :=
  group_foldl_labels g.nodes .empty l

end Snapshot

end PropertyGraph
