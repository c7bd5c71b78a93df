/-
# What additions to a graph change

Nothing that is added to the actual graph, and nothing that is taken away from the expected one, can
stand in the way of an embedding: on the nodes that are left it is still one
(`IsEmbedding.restrict`).  A search among more candidates goes another way and may find another
embedding, but it does not miss all of them, as it is complete (`findEmbedding_monotone`).

A relationship that repeats another one, between the same nodes, adds nothing at all, to either
graph: every mapping carries over what it did before.  The candidates are the same, so the search
goes through the same mappings and comes to the same result (`results_independent_of_repeats`).
-/
import Mathlib.Data.List.Permutation
import PropertyGraph.Proofs.Comparison.SameGraph

namespace PropertyGraph

variable {actual actual' expected expected' : Snapshot} {m : Mapping} {r q : Relationship}

/-! ### More to look at, less to look for -/

/-- The elements of one graph are elements of another one. -/
structure Snapshot.Within (part whole : Snapshot) : Prop where
  /-- Its nodes are nodes of the other graph. -/
  nodes : part.nodes ⊆ whole.nodes
  /-- Its relationships are relationships of the other graph. -/
  relationships : part.relationships ⊆ whole.relationships

/-- On some of the expected nodes, an embedding embeds what is between them in every graph that
contains the actual one. -/
theorem IsEmbedding.restrict (h : IsEmbedding actual expected m) (hactual : actual.Within actual')
    (hexpected : expected'.Within expected) :
    IsEmbedding actual' expected' (m.restrict expected'.nodeIds) where
  keys := by
    refine (List.perm_ext_iff_of_nodup (OrderedMap.nodup_keys _) expected'.consistent.nodeIds).2
      fun id => OrderedMap.mem_keys_restrict.trans ⟨And.left, fun hid => ⟨hid, ?_⟩⟩
    exact h.covers id (List.map_subset _ hexpected.nodes hid)
  injective i j t hi hj :=
    h.injective i j t (OrderedMap.find?_restrict.1 hi).2 (OrderedMap.find?_restrict.1 hj).2
  nodes n hn := by
    obtain ⟨c, hc, hnc, heq⟩ := h.nodes n (hexpected.nodes hn)
    exact ⟨c, hactual.nodes hc, OrderedMap.find?_restrict.2 ⟨List.mem_map_of_mem hn, hnc⟩, heq⟩
  relationships r hr := by
    obtain ⟨hsource, htarget⟩ := expected'.consistent.endpoints r hr
    obtain ⟨c, hc, hs, ht, heq⟩ := h.relationships r (hexpected.relationships hr)
    exact ⟨c, hactual.relationships hc, OrderedMap.find?_restrict.2 ⟨hsource, hs⟩,
      OrderedMap.find?_restrict.2 ⟨htarget, ht⟩, heq⟩

/-- If a search finds an embedding, then in a graph that contains the actual one it finds one of
every graph within the expected one: what was found, on the nodes that are left, is still an
embedding. -/
theorem findEmbedding_monotone {a : Arrangement} {s : Settings} (hactual : actual.Within actual')
    (hexpected : expected'.Within expected)
    (h : (findEmbeddingArranged a actual expected s).run.result = .ok (some m)) :
    IsEmbedding actual' expected' (m.restrict expected'.nodeIds) ∧
    Mapping.embeds actual' expected' (m.restrict expected'.nodeIds) = .ok true ∧
    ∀ (a' : Arrangement) (s' : Settings),
      (∃ m', (findEmbeddingArranged a' actual' expected' s').run.result = .ok (some m')) ∧
      (∃ m', (assertSubgraphArranged a' actual' expected' s').run.result = .ok m') ∧
      (isSubgraphArranged a' actual' expected' s').run.result = .ok true := by
  have hm := isEmbedding_of_firstEmbedding? (findEmbedding_eq_ok_some_iff.1 h)
  have hrestrict := hm.restrict hactual hexpected
  refine ⟨hrestrict, Mapping.embeds_eq_ok_true.2 hrestrict.relationships, fun a' s' => ?_⟩
  obtain ⟨m', hm'⟩ := (exists_firstEmbedding?_iff a').2 ⟨_, hrestrict⟩
  exact ⟨⟨m', findEmbedding_eq_ok_some_iff.2 hm'⟩, ⟨m', assertSubgraph_eq_ok_iff.2 hm'⟩,
    isSubgraph_eq_ok_true_iff.2 ⟨_, hrestrict⟩⟩

/-- Three nodes in a row. -/
def chain : Snapshot where
  nodes := [⟨.int 1, .ofList ["A"], .empty⟩, ⟨.int 2, .ofList ["B"], .empty⟩,
    ⟨.int 3, .ofList ["C"], .empty⟩]
  relationships := [⟨.int 0, "THEN", .int 1, .int 2, .empty, by decide⟩,
    ⟨.int 1, "THEN", .int 2, .int 3, .empty, by decide⟩]
  consistent := ⟨by decide, by decide, by decide⟩

/-- The last two of them. -/
def chainEnd : Snapshot where
  nodes := chain.nodes.drop 1
  relationships := chain.relationships.drop 1
  consistent := ⟨by decide, by decide, by decide⟩

/-- Three nodes in a row and a second way to the last one. -/
def branched : Snapshot where
  nodes := ⟨.int 4, .ofList ["B"], .empty⟩ :: chain.nodes
  relationships := ⟨.int 2, "THEN", .int 4, .int 3, .empty, by decide⟩ :: chain.relationships
  consistent := ⟨by decide, by decide, by decide⟩

/-- The nodes of the chain at themselves. -/
def unmoved : Mapping := .ofList [(.int 1, .int 1), (.int 2, .int 2), (.int 3, .int 3)]

/-- The end of the chain is still found where it was, though a search finds the other way first. -/
theorem findEmbedding_monotone_chain :
    (findEmbeddingArranged .asAdded chain chain {}).run.result = .ok (some unmoved) ∧
    IsEmbedding branched chainEnd (unmoved.restrict chainEnd.nodeIds) ∧
    (isSubgraphArranged .asAdded branched chainEnd {}).run.result = .ok true ∧
    (findEmbeddingArranged .asAdded branched chainEnd {}).run.result =
      .ok (some (.ofList [(.int 3, .int 3), (.int 2, .int 4)])) := by
  have hfind : (findEmbeddingArranged .asAdded chain chain {}).run.result = .ok (some unmoved) := by
    cbv
  have hactual : chain.Within branched := ⟨List.subset_cons_self _ _, List.subset_cons_self _ _⟩
  have hexpected : chainEnd.Within chain := ⟨List.drop_subset _ _, List.drop_subset _ _⟩
  obtain ⟨hrestrict, -, hsearch⟩ := findEmbedding_monotone hactual hexpected hfind
  exact ⟨hfind, hrestrict, (hsearch .asAdded {}).2.2, by cbv⟩

/-! ### The same relationship again -/

/-- A relationship runs between the same nodes as another one and is equivalent to it. -/
def Relationship.Parallel (r q : Relationship) : Prop :=
  r.source = q.source ∧ r.target = q.target ∧ r.equivalent q = true

instance (r q : Relationship) : Decidable (r.Parallel q) :=
  inferInstanceAs (Decidable (r.source = q.source ∧ r.target = q.target ∧ r.equivalent q = true))

/-- A graph is another one with further relationships, each of which repeats one that was there. -/
structure Snapshot.Repeats (more base : Snapshot) : Prop where
  /-- The nodes are the same, in the same order. -/
  nodes : more.nodes = base.nodes
  /-- Every relationship is kept. -/
  relationships : base.relationships ⊆ more.relationships
  /-- Every relationship is parallel to one that was there. -/
  parallel : ∀ r ∈ more.relationships, ∃ q ∈ base.relationships, r.Parallel q

/-- What carries a relationship over carries parallel ones over. -/
lemma Mapping.Carries.of_parallel (h : m.Carries actual q) (hrq : r.Parallel q) :
    m.Carries actual r := by
  obtain ⟨c, hc, hs, ht, heq⟩ := h
  obtain ⟨hsource, htarget, hequiv⟩ := hrq
  rw [← hsource] at hs
  rw [← htarget] at ht
  exact ⟨c, hc, hs, ht, Relationship.equivalent_trans heq (Relationship.equivalent_symm hequiv)⟩

namespace Snapshot.Repeats

/-- What is carried over to a relationship is carried over to the one that it repeats. -/
lemma carries_iff (h : actual'.Repeats actual) : m.Carries actual' r ↔ m.Carries actual r := by
  constructor
  · rintro ⟨c, hc, hs, ht, heq⟩
    obtain ⟨q, hq, hsource, htarget, hequiv⟩ := h.parallel c hc
    rw [hsource] at hs
    rw [htarget] at ht
    exact ⟨q, hq, hs, ht,
      Relationship.equivalent_trans (Relationship.equivalent_symm hequiv) heq⟩
  · rintro ⟨c, hc, hs, ht, heq⟩
    exact ⟨c, h.relationships hc, hs, ht, heq⟩

lemma forall_carries_iff (h : expected'.Repeats expected) :
    (∀ r ∈ expected'.relationships, m.Carries actual r) ↔
      ∀ r ∈ expected.relationships, m.Carries actual r := by
  constructor
  · intro hall r hr
    exact hall r (h.relationships hr)
  · intro hall r hr
    obtain ⟨q, hq, hrq⟩ := h.parallel r hr
    exact (hall q hq).of_parallel hrq

end Snapshot.Repeats

/-- The same mappings pass the check. -/
lemma accepts_embeds_of_repeats (hactual : actual'.Repeats actual)
    (hexpected : expected'.Repeats expected) :
    accepts (Mapping.embeds actual' expected') = accepts (Mapping.embeds actual expected) := by
  funext m
  rw [Bool.eq_iff_iff, accepts_eq_true, accepts_eq_true, Mapping.embeds_eq_ok_true,
    Mapping.embeds_eq_ok_true, hexpected.forall_carries_iff]
  exact forall₂_congr fun _ _ => hactual.carries_iff

/-! ### The nodes decide what is tried -/

section SameNodes

variable (hactual : actual'.nodes = actual.nodes) (hexpected : expected'.nodes = expected.nodes)

include hactual

lemma lacks_of_nodes_eq : actual'.lacks = actual.lacks := by
  funext n
  rw [Snapshot.lacks, Snapshot.lacks, hactual]

lemma findCandidates_of_nodes_eq (pruning : Bool) (n : Node) :
    findCandidates actual' pruning n = findCandidates actual pruning n := by
  refine IdentSet.ext_toList ?_
  rw [Snapshot.toList_findCandidates, Snapshot.toList_findCandidates, hactual]

include hexpected

lemma triedMappings_of_nodes_eq (arrangement : Arrangement) :
    triedMappings arrangement actual' expected' = triedMappings arrangement actual expected := by
  have hfull : CandidateIndex.full actual' expected' = .full actual expected := by
    refine OrderedMap.ext_entries ?_
    simp only [CandidateIndex.full, hexpected, findCandidates_of_nodes_eq hactual]
  rw [triedMappings, triedMappings, hfull]

end SameNodes

/-- A search comes to the same result, and after the same number of mappings, if relationships of
either graph are repeated; and so do the comparisons that rest on it. -/
theorem results_independent_of_repeats (hactual : actual'.Repeats actual)
    (hexpected : expected'.Repeats expected) (arrangement : Arrangement) (s s' : Settings) :
    (searchArranged arrangement actual' expected' s').run.result =
      (searchArranged arrangement actual expected s).run.result ∧
    (findEmbeddingArranged arrangement actual' expected' s').run.result =
      (findEmbeddingArranged arrangement actual expected s).run.result ∧
    (assertSubgraphArranged arrangement actual' expected' s').run.result =
      (assertSubgraphArranged arrangement actual expected s).run.result := by
  have hsearch : (searchArranged arrangement actual' expected' s').run.result =
      (searchArranged arrangement actual expected s).run.result := by
    rw [result_searchArranged, result_searchArranged, firstEmbedding?, firstEmbedding?,
      checkedMappings, checkedMappings, accepts_embeds_of_repeats hactual hexpected,
      triedMappings_of_nodes_eq hactual.nodes hexpected.nodes, lacks_of_nodes_eq hactual.nodes,
      hexpected.nodes]
  refine ⟨hsearch, ?_, ?_⟩
  · rw [findEmbeddingArranged, findEmbeddingArranged, Attempt.result_map, Attempt.result_map,
      hsearch]
  · rw [assertSubgraphArranged, assertSubgraphArranged, Attempt.result_bind, Attempt.result_bind,
      hsearch]

/-- A relationship under another identifier. -/
def Relationship.again (r : Relationship) : Relationship := { r with id := .text "again" }

/-- The graph `crossed`, the relationship back put in front once more. -/
def crossedAgain : Snapshot where
  nodes := crossed.nodes
  relationships := (crossed.relationships.drop 1).map Relationship.again ++ crossed.relationships
  consistent := ⟨crossed.consistent.nodeIds, by decide, by decide⟩

/-- The graph `doubled`, the same relationship once more at the end. -/
def tripled : Snapshot where
  nodes := doubled.nodes
  relationships := doubled.relationships ++ (doubled.relationships.take 1).map Relationship.again
  consistent := ⟨doubled.consistent.nodeIds, by decide, by decide⟩

theorem results_independent_of_repeats_again :
    crossedAgain.Repeats crossed ∧ tripled.Repeats doubled ∧
    (searchArranged .asAdded crossed doubled {}).run.result = .ok (some crossing, 1) ∧
    (searchArranged .asAdded crossedAgain tripled {}).run.result = .ok (some crossing, 1) := by
  have hactual : crossedAgain.Repeats crossed := ⟨rfl, List.subset_append_right _ _, by decide⟩
  have hexpected : tripled.Repeats doubled := ⟨rfl, List.subset_append_left _ _, by decide⟩
  have hsearch : (searchArranged .asAdded crossed doubled {}).run.result =
      .ok (some crossing, 1) := by
    cbv
  obtain ⟨hsame, -⟩ := results_independent_of_repeats hactual hexpected .asAdded {} {}
  exact ⟨hactual, hexpected, hsearch, hsame.trans hsearch⟩

end PropertyGraph
