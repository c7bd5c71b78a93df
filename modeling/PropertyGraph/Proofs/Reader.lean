/-
# Answers from kept groupings

A reader builds the groupings of its graph with the first question that looks into one of them and
keeps them from then on.  Whatever is asked in whatever order, it keeps either none of the three or
all of them as they are in its graph (`Reader.IsCurrent`), since no question changes the graph and
the groupings are built together; they are there exactly if some question has looked into one
(`Reader.IsCurrent.reader_askAll`).  So an answer never depends on the questions before it, and it
is what going through the whole graph gives (`Snapshot.scan`, `Reader.IsCurrent.askAll`).

A comparison may come to its end without looking anything up.  Then it would have come to the same
end with any groupings (`searchFrom_congr`).
-/
import PropertyGraph.Reader
import PropertyGraph.Proofs.Comparison.Verdict
import PropertyGraph.Proofs.Gathering
import PropertyGraph.Proofs.Network.Attributes
import PropertyGraph.Proofs.Snapshot.Groups
import PropertyGraph.Proofs.Value.Key

namespace PropertyGraph

/-! ### Going through the whole graph -/

/-- A comparison of an actual with an expected graph. -/
def Comparison.outcome (c : Comparison) (arrangement : Arrangement) (actual expected : Snapshot)
    (settings : Settings) : Attempt ComparisonFailure Finding :=
  match c with
  | .findEmbedding => .embedding <$> findEmbeddingArranged arrangement actual expected settings
  | .assertSubgraph => .witness <$> assertSubgraphArranged arrangement actual expected settings
  | .assertSameGraph => .witness <$> assertSameGraphArranged arrangement actual expected settings
  | .isSubgraph => .verdict <$> isSubgraphArranged arrangement actual expected settings
  | .isSameGraph => .verdict <$> isSameGraphArranged arrangement actual expected settings

lemma Comparison.conclude_searchArranged (c : Comparison) (arrangement : Arrangement)
    (actual expected : Snapshot) (settings : Settings) :
    c.conclude actual expected (searchArranged arrangement actual expected settings) =
      c.outcome arrangement actual expected settings := by
  cases c <;> rfl

namespace Snapshot

/-- The answer to a question that going through the whole graph gives. -/
def scan (g : Snapshot) : Query → Answer
  | .node key => Reader.answerTo key
      ((g.nodes.find? fun n => n.id.toValue == key).elim (.absent key) .node)
  | .outgoing key => Reader.answerTo key
      (.relationships (g.relationships.filter fun r => r.source.toValue == key))
  | .nodesWithLabel key => Reader.answerTo key
      (.nodes (g.nodes.filter fun n => n.labels.toList.any fun l => key.asText? == some l))
  | .labels => .names g.labels
  | .relationshipTypes => .names g.relationshipTypes
  | .propertyKeys => .names g.propertyKeys
  | .counts => .counts g.counts
  | .comparedWith c arrangement expected settings =>
    .embedding (c.outcome arrangement g expected settings)
  | .expectedIn c arrangement actual settings =>
    .embedding (c.outcome arrangement actual g settings)

variable (g : Snapshot)

/-- The node in the group of an identifier is the first, and only, one with this identifier. -/
lemma node?_index (id : Ident) : g.index.node? id = g.nodes.find? fun n => n.id == id := by
  have hkeys : ((g.nodes.map fun n => (n.id, n)).map Prod.fst).Nodup := by
    simpa [Function.comp_def] using g.consistent.nodeIds
  show (OrderedMap.ofList (g.nodes.map fun n => (n.id, n))).find? id = _
  rw [OrderedMap.find?, OrderedMap.entries_ofList hkeys, List.find?_map, Option.map_map]
  simp [Function.comp_def]

/-- A node is answered exactly if it is there and its identifier is the key. -/
lemma scan_node_eq_node_iff {g : Snapshot} {key : Value} {n : Node} :
    g.scan (.node key) = .node n ↔ n ∈ g.nodes ∧ (n.id.toValue == key) = true := by
  simp only [scan, Reader.answerTo]
  constructor
  · intro h
    split at h
    · cases hfind : g.nodes.find? fun n => n.id.toValue == key with
      | none => simp [hfind] at h
      | some m =>
        rw [hfind] at h
        cases h
        have hkey := List.find?_some hfind
        exact ⟨List.mem_of_find?_eq_some hfind, hkey⟩
    · cases h
  · rintro ⟨hn, hkey⟩
    have hsome : (g.nodes.find? fun n => n.id.toValue == key).isSome :=
      List.find?_isSome.2 ⟨n, hn, hkey⟩
    obtain ⟨m, hm⟩ := Option.isSome_iff_exists.1 hsome
    have hmkey := List.find?_some hm
    rw [← Ident.ofKey?_eq_some_iff] at hmkey hkey
    have hid : m.id = n.id := Option.some_inj.1 (hmkey.symm.trans hkey)
    obtain rfl : m = n := node_eq_of_id (List.mem_of_find?_eq_some hm) hn hid
    rw [if_pos (Ident.isKey_of_toValue_beq (Ident.ofKey?_eq_some_iff.1 hkey)), hm]
    rfl

/-- A key is answered to be absent exactly if it is no node's identifier. -/
lemma scan_node_eq_absent_iff {g : Snapshot} {key : Value} :
    g.scan (.node key) = .absent key ↔
      key.isKey = true ∧ ∀ n ∈ g.nodes, (n.id.toValue == key) = false := by
  simp only [scan, Reader.answerTo]
  constructor
  · intro h
    split at h
    · next hkey =>
      cases hfind : g.nodes.find? fun n => n.id.toValue == key with
      | none => exact ⟨hkey, fun n hn => Bool.eq_false_iff.2 (List.find?_eq_none.1 hfind n hn)⟩
      | some m => simp [hfind] at h
    · cases h
  · rintro ⟨hkey, hnone⟩
    rw [if_pos hkey, List.find?_eq_none.2 fun n hn => Bool.eq_false_iff.1 (hnone n hn)]
    rfl

lemma scan_outgoing (id : Ident) :
    g.scan (.outgoing id.toValue) =
      .relationships (g.relationships.filter fun r => r.source == id) := by
  have hsame : ∀ r ∈ g.relationships, (r.source.toValue == id.toValue) = (r.source == id) := by
    intro r _
    rw [Ident.toValue_beq]
    rfl
  rw [scan, Reader.answerTo, if_pos id.isKey_toValue, List.filter_congr hsame]

/-- The relationships that start at one node after another are all relationships. -/
lemma perm_flatMap_outgoing :
    (g.nodes.flatMap fun n => g.relationships.filter fun r => r.source == n.id).Perm
      g.relationships := by
  have hends : ∀ r ∈ g.relationships, r.source ∈ g.nodeIds := fun r hr =>
    (g.consistent.endpoints r hr).1
  have hperm := perm_gatherBy g.consistent.nodeIds hends
  rwa [gatherBy, List.flatMap_map] at hperm

end Snapshot

/-! ### Searches without look-ups -/

section LookUps

variable {actual expected : Snapshot} {groups groups' : Index} {settings : Settings}

/-- Only the candidates of the nodes that are scanned matter. -/
lemma CandidateIndex.extend_congr {candidates candidates' : Node → IdentSet} {nodes : List Node}
    (h : ∀ n ∈ scannedNodes candidates nodes, candidates n = candidates' n)
    (index : CandidateIndex) : extend candidates index nodes = extend candidates' index nodes := by
  induction nodes generalizing index with
  | nil => rfl
  | cons n nodes ih =>
    rw [scannedNodes] at h
    split at h
    · next hnone =>
      have hn := h n (List.mem_singleton_self n)
      rw [extend, extend, ← hn, if_pos hnone, if_pos hnone]
    · next hsome =>
      obtain ⟨hn, hnodes⟩ := List.forall_mem_cons.1 h
      rw [extend, extend, ← hn, if_neg hsome, if_neg hsome]
      exact ih hnodes _

/-- If no nodes are looked up by label, the candidates are the same with any groupings. -/
lemma CandidateIndex.buildFrom_congr {arrangement : Arrangement}
    (h : (searchLookUps groups arrangement actual expected settings).labels = true →
      groups'.byLabel = groups.byLabel) :
    buildFrom groups actual expected settings.labelPruning =
      buildFrom groups' actual expected settings.labelPruning := by
  refine extend_congr (fun n hn => ?_) _
  have hpool : candidatePool actual groups settings.labelPruning n =
      candidatePool actual groups' settings.labelPruning n := by
    unfold candidatePool
    split
    · next label hpruning hfirst =>
      have hlooks : (searchLookUps groups arrangement actual expected settings).labels = true := by
        rw [searchLookUps, hpruning, Bool.true_and, List.any_eq_true]
        exact ⟨n, hpruning ▸ hn, by simp [hfirst]⟩
      rw [Index.nodesWithLabel, Index.nodesWithLabel, h hlooks]
    · rfl
  rw [hpool]

lemma carriesAll_congr (h : groups'.bySource = groups.bySource) (m : Mapping)
    (rs : List Relationship) : carriesAll groups m rs = carriesAll groups' m rs := by
  induction rs with
  | nil => rfl
  | cons r rs ih =>
    have hcarried : r.carriedBy groups m = r.carriedBy groups' m := by
      simp only [Relationship.carriedBy, Index.outgoing, h]
    rw [carriesAll, carriesAll, hcarried, ih]

/-- An index without a mapping has nothing to be visited. -/
lemma CandidateIndex.mappings_eq_nil_of_not_hasMapping {index : CandidateIndex}
    (h : index.hasMapping = false) : index.mappings = [] := by
  rw [hasMapping, forMappings_eq_visitAll] at h
  cases hmappings : index.mappings with
  | nil => rfl
  | cons m ms => simp [hmappings, visitAll] at h

/-- If no relationships are looked up by source, the mappings are checked alike with any
groupings. -/
lemma searchMappings_congr {index : CandidateIndex} {every : Int}
    (h : expected.relationships ≠ [] → index.hasMapping = true →
      groups'.bySource = groups.bySource) :
    searchMappings groups expected every index = searchMappings groups' expected every index := by
  by_cases hrels : expected.relationships = []
  · rw [searchMappings, searchMappings, hrels]
    rfl
  · cases hmapping : index.hasMapping with
    | true =>
      have hcheck : (fun m => carriesAll groups m expected.relationships) =
          fun m => carriesAll groups' m expected.relationships :=
        funext fun m => carriesAll_congr (h hrels hmapping) m _
      rw [searchMappings, searchMappings, hcheck]
    | false =>
      rw [searchMappings, searchMappings, CandidateIndex.forMappings_eq_visitAll,
        CandidateIndex.forMappings_eq_visitAll,
        CandidateIndex.mappings_eq_nil_of_not_hasMapping hmapping]
      rfl

/-- A search comes to the same end, with the same reports, with any groupings that agree where it
looks something up. -/
theorem searchFrom_congr {arrangement : Arrangement}
    (hlabels : (searchLookUps groups arrangement actual expected settings).labels = true →
      groups'.byLabel = groups.byLabel)
    (hsources : (searchLookUps groups arrangement actual expected settings).sources = true →
      groups'.bySource = groups.bySource) :
    searchFrom groups arrangement actual expected settings =
      searchFrom groups' arrangement actual expected settings := by
  have hbuild := CandidateIndex.buildFrom_congr hlabels
  rw [searchLookUps] at hsources
  simp only [searchFrom, reportCandidates, ← hbuild]
  cases hindex : CandidateIndex.buildFrom groups actual expected settings.labelPruning with
  | error n =>
    simp only [failAt]
    cases n.written? <;> rfl
  | ok index =>
    have hmappings : searchMappings groups expected settings.progressEvery
        (arrangedIndex arrangement index) = searchMappings groups' expected
          settings.progressEvery (arrangedIndex arrangement index) := by
      refine searchMappings_congr fun hrels hmapping => hsources ?_
      simp [hindex, hrels, hmapping]
    exact congrArg (fun search => do
      Attempt.log
        (.started actual.nodes.length expected.nodes.length expected.relationships.length)
      Attempt.log (.indexBuilt index.size index.ambiguous)
      search) hmappings

end LookUps

namespace Reader

/-! ### One question -/

/-- A reader keeps none of the three groupings, or all of them as they are in its graph. -/
def IsCurrent (r : Reader) : Prop :=
  r = ofSnapshot r.graph ∨ r = (ofSnapshot r.graph).build

lemma isCurrent_ofSnapshot (g : Snapshot) : (ofSnapshot g).IsCurrent := .inl rfl

variable {r : Reader}

@[simp] lemma build_graph (r : Reader) : r.build.graph = r.graph := rfl

@[simp] lemma build_build (r : Reader) : r.build.build = r.build := rfl

lemma isCurrent_build (r : Reader) : r.build.IsCurrent := .inr rfl

/-- The three groupings are kept or not kept together. -/
lemma IsCurrent.kept_together (h : r.IsCurrent) :
    r.bySource?.isSome = r.byId?.isSome ∧ r.byLabel?.isSome = r.byId?.isSome := by
  rcases h with h | h
  · rw [h]
    exact ⟨rfl, rfl⟩
  · rw [h]
    exact ⟨rfl, rfl⟩

lemma IsCurrent.groups_eq (h : r.IsCurrent) : r.groups = r.graph.index := by
  rcases h with h | h
  · rw [h]
    rfl
  · rw [h]
    rfl

/-- Whichever grouping is looked into, all are there afterwards. -/
lemma IsCurrent.lookingInto_eq (h : r.IsCurrent) :
    r.lookingInto r.byId?.isSome = r.build ∧ r.lookingInto r.bySource?.isSome = r.build ∧
      r.lookingInto r.byLabel?.isSome = r.build := by
  rcases h with h | h
  · rw [h]
    exact ⟨rfl, rfl, rfl⟩
  · rw [h]
    exact ⟨rfl, rfl, rfl⟩

lemma IsCurrent.after_eq (h : r.IsCurrent) (l : LookUps) :
    r.after l = if l.labels || l.sources then r.build else r := by
  obtain ⟨-, hsource, hlabel⟩ := h.lookingInto_eq
  have hbuilt : r.build.lookingInto r.build.bySource?.isSome = r.build :=
    (isCurrent_build r).lookingInto_eq.2.1
  obtain ⟨labels, sources⟩ := l
  cases labels with
  | false => cases sources <;> simp [after, hsource]
  | true => cases sources <;> simp [after, hlabel, hbuilt]

end Reader

/-- Whether a question about a graph looks into one of its groupings. -/
def Query.looksInto (g : Snapshot) : Query → Bool
  | .node _ | .outgoing _ | .nodesWithLabel _ => true
  | .comparedWith c arrangement expected settings =>
    let l := c.lookUps g.index arrangement g expected settings
    l.labels || l.sources
  | .labels | .relationshipTypes | .propertyKeys | .counts | .expectedIn _ _ _ _ => false

namespace Reader

variable {r : Reader}

/-- A question builds the groupings if it looks into one of them, and otherwise leaves the reader as
it is. -/
lemma IsCurrent.reader_ask (h : r.IsCurrent) (q : Query) :
    (r.ask q).2 = if q.looksInto r.graph then r.build else r := by
  cases q with
  | node key => exact h.lookingInto_eq.1
  | outgoing key => exact h.lookingInto_eq.2.1
  | nodesWithLabel key => exact h.lookingInto_eq.2.2
  | comparedWith c arrangement expected settings =>
    rw [Reader.ask, h.groups_eq, h.after_eq]
    rfl
  | labels | relationshipTypes | propertyKeys | counts | expectedIn _ _ _ _ => rfl

/-- A question leaves the graph as it is, and the groupings those of the graph. -/
lemma IsCurrent.ask (h : r.IsCurrent) (q : Query) :
    (r.ask q).2.graph = r.graph ∧ (r.ask q).2.IsCurrent := by
  rw [h.reader_ask]
  split
  · exact ⟨rfl, isCurrent_build r⟩
  · exact ⟨rfl, h⟩

/-- A comparison that ends at a difference of counts leaves the reader as it is. -/
lemma IsCurrent.reader_ask_of_counts_ne (h : r.IsCurrent) {c : Comparison}
    (hc : c = .assertSameGraph ∨ c = .isSameGraph) {arrangement : Arrangement} {expected : Snapshot}
    {settings : Settings} (hcounts : r.graph.counts ≠ expected.counts) :
    (r.ask (.comparedWith c arrangement expected settings)).2 = r := by
  obtain ⟨counted, hsome⟩ := exists_firstCountMismatch? hcounts
  rw [h.reader_ask]
  rcases hc with rfl | rfl <;> simp [Query.looksInto, Comparison.lookUps, hsome]

/-- What is answered from the groupings is what going through the graph gives. -/
lemma IsCurrent.answer_ask (h : r.IsCurrent) (q : Query) : (r.ask q).1 = r.graph.scan q := by
  cases q with
  | node key =>
    have hfind : (r.graph.nodes.find? fun n => n.id.toValue == key) =
        (Ident.ofKey? key).bind r.graph.index.node? := by
      simp only [Ident.toValue_beq_eq]
      cases Ident.ofKey? key with
      | none => simp
      | some id => simp [Snapshot.node?_index]
    simp only [Reader.ask, h.lookingInto_eq.1, nodeAnswer, (isCurrent_build r).groups_eq,
      Snapshot.scan, build_graph, hfind]
    cases (Ident.ofKey? key).bind r.graph.index.node? <;> rfl
  | outgoing key =>
    have hfilter : (r.graph.relationships.filter fun s => s.source.toValue == key) =
        ((Ident.ofKey? key).map r.graph.index.outgoing).getD [] := by
      simp only [Ident.toValue_beq_eq]
      cases Ident.ofKey? key with
      | none => simp
      | some id => simp [Snapshot.outgoing_index]
    simp only [Reader.ask, h.lookingInto_eq.2.1, (isCurrent_build r).groups_eq, Snapshot.scan,
      build_graph, hfilter]
  | nodesWithLabel key =>
    have hfilter : (r.graph.nodes.filter fun n => n.labels.toList.any fun l =>
        key.asText? == some l) = (key.asText?.map r.graph.index.nodesWithLabel).getD [] := by
      cases key.asText? with
      | none => simp
      | some l =>
        simp only [Snapshot.nodesWithLabel_index, List.contains_eq_any_beq, Option.some_beq_some,
          Option.map_some, Option.getD_some]
    simp only [Reader.ask, h.lookingInto_eq.2.2, (isCurrent_build r).groups_eq, Snapshot.scan,
      build_graph, hfilter]
  | comparedWith c arrangement expected settings =>
    simp only [Reader.ask, Snapshot.scan, h.groups_eq, ← Comparison.conclude_searchArranged]
    rfl
  | expectedIn c arrangement actual settings =>
    simp only [Reader.ask, Snapshot.scan, Comparison.conclude_searchArranged]
  | labels | relationshipTypes | propertyKeys | counts => rfl

/-! ### Many questions -/

/-- Questions asked one after another are answered by going through the graph, each on its own. -/
theorem IsCurrent.askAll (h : r.IsCurrent) (qs : List Query) :
    (r.askAll qs).1 = qs.map r.graph.scan ∧ (r.askAll qs).2.graph = r.graph ∧
      (r.askAll qs).2.IsCurrent := by
  induction qs generalizing r with
  | nil => exact ⟨rfl, rfl, h⟩
  | cons q qs ih =>
    obtain ⟨hgraph, hcurrent⟩ := h.ask q
    obtain ⟨hanswers, hgraphs, hcurrents⟩ := ih hcurrent
    refine ⟨?_, hgraphs.trans hgraph, hcurrents⟩
    rw [List.map_cons, ← h.answer_ask q, ← hgraph, ← hanswers]
    rfl

/-- After any questions the groupings are there exactly if one of the questions has looked into one
of them. -/
theorem IsCurrent.reader_askAll (h : r.IsCurrent) (qs : List Query) :
    (r.askAll qs).2 = if qs.any (Query.looksInto r.graph) then r.build else r := by
  induction qs generalizing r with
  | nil => rfl
  | cons q qs ih =>
    obtain ⟨hgraph, hcurrent⟩ := h.ask q
    have hrest : (r.askAll (q :: qs)).2 = ((r.ask q).2.askAll qs).2 := rfl
    rw [hrest, ih hcurrent, hgraph, h.reader_ask, List.any_cons]
    cases q.looksInto r.graph <;> simp

/-- Whatever is asked of a graph, in whatever order, every question is answered as if nothing had
been asked before, by going through the whole graph.  So the node of a key is the one that has it
as its identifier, a key is absent exactly if there is none, and the relationships that start at
one node after another are all relationships, each once. -/
theorem answers_eq_scans (g : Snapshot) :
    (∀ qs, ((ofSnapshot g).askAll qs).1 = qs.map fun q => ((ofSnapshot g).ask q).1) ∧
      (∀ q, ((ofSnapshot g).ask q).1 = g.scan q) ∧
      (∀ key n, ((ofSnapshot g).ask (.node key)).1 = .node n ↔
        n ∈ g.nodes ∧ (n.id.toValue == key) = true) ∧
      (∀ key, ((ofSnapshot g).ask (.node key)).1 = .absent key ↔
        key.isKey = true ∧ ∀ n ∈ g.nodes, (n.id.toValue == key) = false) ∧
      ∃ lists : List (List Relationship),
        ((ofSnapshot g).askAll (g.nodes.map fun n => .outgoing n.id.toValue)).1 =
          lists.map .relationships ∧
        lists.flatten.Perm g.relationships ∧ lists.flatten.Nodup := by
  have hfresh (q : Query) : ((ofSnapshot g).ask q).1 = g.scan q :=
    (isCurrent_ofSnapshot g).answer_ask q
  have hall (qs : List Query) : ((ofSnapshot g).askAll qs).1 = qs.map g.scan :=
    ((isCurrent_ofSnapshot g).askAll qs).1
  refine ⟨?_, hfresh, ?_, ?_, ?_⟩
  · intro qs
    rw [hall]
    exact List.map_congr_left fun q _ => (hfresh q).symm
  · intro key n
    rw [hfresh]
    exact Snapshot.scan_node_eq_node_iff
  · intro key
    rw [hfresh]
    exact Snapshot.scan_node_eq_absent_iff
  · have hperm := g.perm_flatMap_outgoing
    refine ⟨g.nodes.map fun n => g.relationships.filter fun r => r.source == n.id, ?_, ?_, ?_⟩
    · rw [hall, List.map_map, List.map_map]
      exact List.map_congr_left fun n _ => g.scan_outgoing n.id
    · rwa [← List.flatMap_def]
    · rw [← List.flatMap_def]
      exact hperm.nodup_iff.2 g.nodup_relationships

end Reader

end PropertyGraph
