/-
# The candidates are the equivalent nodes

The candidates of an expected node are the equivalent nodes of the actual graph, in its order,
whether the scan is pruned or not (`toList_findCandidates`): nodes that are equivalent carry the
same labels, so the group of the first label loses none of them.  The index of all candidates is
built unless some expected node has none, and the first such node is named (`build_eq`).
-/
import PropertyGraph.Candidates
import PropertyGraph.Proofs.Property.Content
import PropertyGraph.Proofs.Snapshot.Groups

namespace PropertyGraph

/-- A list without repetitions is the list of members of its set. -/
lemma IdentSet.toList_ofList {xs : List Ident} (h : xs.Nodup) :
    (IdentSet.ofList xs).toList = xs := by
  suffices key : ∀ s : IdentSet, (s.toList ++ xs).Nodup →
      (xs.foldl insert s).toList = s.toList ++ xs by
    simpa [ofList, empty] using key empty (by simpa [empty] using h)
  induction xs with
  | nil => simp
  | cons x xs ih =>
    intro s hs
    have hx : x ∉ s.toList := fun hx =>
      (List.nodup_append.1 hs).2.2 x hx x List.mem_cons_self rfl
    have hins : (s.insert x).toList = s.toList ++ [x] := by simp [insert, hx]
    rw [List.foldl_cons, ih (List.nodup_cons.1 h).2 (s.insert x) (by simpa [hins] using hs), hins]
    simp

lemma IdentSet.ext_toList {s t : IdentSet} (h : s.toList = t.toList) : s = t := by
  cases s
  cases t
  simpa using h

namespace Snapshot

variable {actual expected : Snapshot} {n : Node}

/-- Whether no node of a graph is equivalent to a node. -/
def lacks (actual : Snapshot) (n : Node) : Bool := actual.nodes.all fun c => !n.equivalent c

lemma lacks_eq_false_iff :
    actual.lacks n = false ↔ ∃ c ∈ actual.nodes, n.equivalent c = true := by
  simp [lacks]

lemma lacks_eq_true_iff :
    actual.lacks n = true ↔ ∀ c ∈ actual.nodes, n.equivalent c = false := by
  simp [lacks]

lemma nodup_nodes (g : Snapshot) : g.nodes.Nodup := g.consistent.nodeIds.of_map

lemma nodup_relationships (g : Snapshot) : g.relationships.Nodup :=
  g.consistent.relationshipIds.of_map

/-- A node is known by its identifier. -/
lemma node_eq_of_id {g : Snapshot} {a b : Node} (ha : a ∈ g.nodes) (hb : b ∈ g.nodes)
    (h : a.id = b.id) : a = b :=
  List.inj_on_of_nodup_map g.consistent.nodeIds ha hb h

/-! ### Scanning for candidates -/

/-- Pruning keeps every equivalent node. -/
lemma filter_candidatePool (actual : Snapshot) (pruning : Bool) (n : Node) :
    (candidatePool actual actual.index pruning n).filter (fun c => n.equivalent c) =
      actual.nodes.filter fun c => n.equivalent c := by
  unfold candidatePool
  split
  · next l hl =>
    rw [nodesWithLabel_index, List.filter_filter]
    refine List.filter_congr fun c _ => ?_
    cases hc : n.equivalent c with
    | false => rfl
    | true =>
      have hmem : l ∈ n.labels.toList := List.mem_of_head? hl
      rw [Node.labels_eq_of_equivalent hc] at hmem
      simpa using hmem
  · rfl

lemma nodup_ids_filter (g : Snapshot) (p : Node → Bool) : ((g.nodes.filter p).map Node.id).Nodup :=
  g.consistent.nodeIds.sublist (List.filter_sublist.map _)

theorem toList_findCandidates (actual : Snapshot) (pruning : Bool) (n : Node) :
    (findCandidates actual pruning n).toList =
      (actual.nodes.filter fun c => n.equivalent c).map Node.id := by
  rw [findCandidates, candidatesIn, filter_candidatePool,
    IdentSet.toList_ofList (actual.nodup_ids_filter _)]

lemma mem_findCandidates {pruning : Bool} {t : Ident} :
    t ∈ (findCandidates actual pruning n).toList ↔
      ∃ c ∈ actual.nodes, c.id = t ∧ n.equivalent c = true := by
  rw [toList_findCandidates]
  simp only [List.mem_map, List.mem_filter]
  constructor
  · rintro ⟨c, ⟨hc, heq⟩, rfl⟩
    exact ⟨c, hc, rfl, heq⟩
  · rintro ⟨c, hc, rfl, heq⟩
    exact ⟨c, ⟨hc, heq⟩, rfl⟩

lemma size_findCandidates_eq_zero {pruning : Bool} :
    (findCandidates actual pruning n).size = 0 ↔ actual.lacks n = true := by
  rw [IdentSet.size, toList_findCandidates]
  simp [lacks]

lemma findCandidates_eq (actual : Snapshot) (pruning : Bool) (n : Node) :
    findCandidates actual pruning n = findCandidates actual false n :=
  IdentSet.ext_toList (by rw [toList_findCandidates, toList_findCandidates])

/-- Equivalent nodes have the same candidates. -/
lemma findCandidates_congr {pruning : Bool} {n' : Node} (h : n.equivalent n' = true) :
    findCandidates actual pruning n = findCandidates actual pruning n' := by
  refine IdentSet.ext_toList ?_
  rw [toList_findCandidates, toList_findCandidates]
  have hsame (c : Node) : n.equivalent c = n'.equivalent c := by
    rw [Bool.eq_iff_iff, Node.equivalent_iff, Node.equivalent_iff, Node.equivalent_iff.1 h]
  simp only [hsame]

/-- Nodes that share a candidate are equivalent. -/
lemma equivalent_of_mem_findCandidates {pruning : Bool} {n' : Node} {t : Ident}
    (h : t ∈ findCandidates actual pruning n) (h' : t ∈ findCandidates actual pruning n') :
    n.equivalent n' = true := by
  obtain ⟨c, hc, rfl, heq⟩ := mem_findCandidates.1 h
  obtain ⟨c', hc', hid, heq'⟩ := mem_findCandidates.1 h'
  obtain rfl := actual.node_eq_of_id hc' hc hid
  exact Node.equivalent_trans heq (Node.equivalent_symm heq')

end Snapshot

/-! ### The index -/

namespace CandidateIndex

variable {candidates : Node → IdentSet}

lemma extend_of_find?_some {nodes : List Node} {n : Node} (index : CandidateIndex)
    (h : nodes.find? (fun n => (candidates n).size = 0) = some n) :
    extend candidates index nodes = .error n := by
  induction nodes generalizing index with
  | nil => simp at h
  | cons a nodes ih =>
    rw [extend]
    by_cases ha : (candidates a).size = 0
    · rw [List.find?_cons_of_pos (by simpa using ha), Option.some_inj] at h
      rw [if_pos ha, h]
    · rw [List.find?_cons_of_neg (by simpa using ha)] at h
      rw [if_neg ha]
      exact ih _ h

lemma extend_of_find?_none {nodes : List Node} (index : CandidateIndex)
    (hkeys : (index.keys ++ nodes.map Node.id).Nodup)
    (h : nodes.find? (fun n => (candidates n).size = 0) = none) :
    ∃ ix, extend candidates index nodes = .ok ix ∧
      ix.entries = index.entries ++ nodes.map fun n => (n.id, candidates n) := by
  induction nodes generalizing index with
  | nil => exact ⟨index, rfl, by simp⟩
  | cons a nodes ih =>
    have ha : ¬(candidates a).size = 0 := by simpa using List.find?_eq_none.1 h a List.mem_cons_self
    rw [List.find?_cons_of_neg (by simpa using ha)] at h
    have hnew : a.id ∉ index.keys := fun hmem =>
      (List.nodup_append.1 hkeys).2.2 a.id hmem a.id (by simp) rfl
    have hentries := OrderedMap.entries_insert_of_notMem (v := candidates a) hnew
    have hkeys' : ((index.insert a.id (candidates a)).keys ++ nodes.map Node.id).Nodup := by
      rw [OrderedMap.keys, hentries]
      simpa [OrderedMap.keys] using hkeys
    obtain ⟨ix, hix, hixe⟩ := ih _ hkeys' h
    refine ⟨ix, ?_, ?_⟩
    · rw [extend, if_neg ha]
      exact hix
    · rw [hixe, hentries]
      simp

/-- The candidates of all expected nodes; a node without counterpart has none. -/
def full (actual expected : Snapshot) : CandidateIndex where
  entries := expected.nodes.map fun n => (n.id, findCandidates actual false n)
  distinct := by
    refine List.pairwise_map.2 ((List.pairwise_map.1 expected.consistent.nodeIds).imp ?_)
    intro a b hab
    exact beq_eq_false_iff_ne.2 hab

/-- The index is built unless some expected node has no counterpart; the first such node stands in
the way. -/
theorem build_eq (actual expected : Snapshot) (pruning : Bool) :
    build actual expected pruning = match expected.nodes.find? actual.lacks with
      | some n => .error n
      | none => .ok (full actual expected) := by
  have hlacks : actual.lacks = fun n => decide ((findCandidates actual pruning n).size = 0) := by
    funext n
    rw [Bool.eq_iff_iff, decide_eq_true_iff, Snapshot.size_findCandidates_eq_zero]
  rw [hlacks]
  split
  · next n hn => exact extend_of_find?_some _ hn
  · next hn =>
    obtain ⟨ix, hix, hixe⟩ := extend_of_find?_none .empty
      (by simpa [OrderedMap.keys] using expected.consistent.nodeIds) hn
    refine hix.trans (congrArg Except.ok (OrderedMap.ext_entries (hixe.trans ?_)))
    simp [full, Snapshot.findCandidates_eq actual pruning]

/-- What is built holds the candidates of all expected nodes. -/
lemma build_eq_ok_iff {actual expected : Snapshot} {pruning : Bool} {index : CandidateIndex} :
    build actual expected pruning = .ok index ↔
      expected.nodes.find? actual.lacks = none ∧ index = full actual expected := by
  rw [build_eq]
  cases expected.nodes.find? actual.lacks with
  | some n => simp
  | none => simp [eq_comm]

lemma find?_full {actual expected : Snapshot} {id : Ident} {s : IdentSet} :
    (full actual expected).find? id = some s ↔
      ∃ n ∈ expected.nodes, n.id = id ∧ findCandidates actual false n = s := by
  rw [OrderedMap.find?_eq_some_iff]
  simp [full]

end CandidateIndex

end PropertyGraph
