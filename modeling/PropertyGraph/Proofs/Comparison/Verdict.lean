/-
# What the comparisons answer

What a comparison answers is read off the two graphs and the order in which candidates are tried:
the first expected node without a counterpart, or the first embedding among the mappings that are
tried, or the number of these mappings (`result_assertSubgraphArranged`).  A comparison for
sameness puts the numbers of elements before that (`result_assertSameGraphArranged`).  Whether it
succeeds is answered unless the first node without a counterpart has a number that is too long to
be written (`result_isSubgraphArranged`, `result_isSameGraphArranged`).

The settings do not occur in these answers.  Pruning, the one setting that a search looks at before
it is over, changes what is scanned for candidates but not what is found
(`results_independent_of_settings`).
-/
import PropertyGraph.Proofs.Comparison.Search

namespace PropertyGraph

section Answers

variable {arrangement : Arrangement} {actual expected : Snapshot} {settings : Settings}
  {m : Mapping}

/-! ### Subgraphs -/

/-- A search in vain checks all mappings. -/
lemma checkedMappings_of_none (h : firstEmbedding? arrangement actual expected = none) :
    checkedMappings arrangement actual expected =
      (triedMappings arrangement actual expected).length := by
  have hrejected : ∀ m ∈ triedMappings arrangement actual expected,
      accepts (Mapping.embeds actual expected) m = false := by
    intro m hm
    simpa using List.find?_eq_none.1 h m hm
  rw [checkedMappings, List.findIdx_eq_length_of_false hrejected]
  exact Nat.min_eq_right (Nat.le_succ _)

/-- The refusal of the first expected node without a counterpart, or the first embedding, or the
number of mappings that were tried in vain. -/
theorem result_assertSubgraphArranged :
    (assertSubgraphArranged arrangement actual expected settings).run.result =
      match expected.nodes.find? actual.lacks with
      | some n => .error n.refusal
      | none => match firstEmbedding? arrangement actual expected with
        | some m => .ok m
        | none => .error
            (.mismatch (.noEmbedding (triedMappings arrangement actual expected).length)) := by
  rw [assertSubgraphArranged, Attempt.result_bind, result_searchArranged]
  cases expected.nodes.find? actual.lacks with
  | some n => rfl
  | none =>
    cases hfirst : firstEmbedding? arrangement actual expected with
    | some m => rfl
    | none =>
      rw [checkedMappings_of_none hfirst]
      rfl

lemma assertSubgraph_eq_refusal {n : Node} (h : expected.nodes.find? actual.lacks = some n) :
    (assertSubgraphArranged arrangement actual expected settings).run.result =
      .error n.refusal := by
  rw [result_assertSubgraphArranged, h]

/-- A node without a counterpart rules out embeddings. -/
lemma firstEmbedding?_eq_none_of_lacks {n : Node} (h : expected.nodes.find? actual.lacks = some n) :
    firstEmbedding? arrangement actual expected = none := by
  rw [firstEmbedding?_eq_none_iff]
  rintro ⟨m, hm⟩
  have hlacks := List.find?_some h
  rw [hm.lacks_eq_false (List.mem_of_find?_eq_some h)] at hlacks
  exact absurd hlacks (by decide)

lemma findEmbedding_eq_ok_some_iff :
    (findEmbeddingArranged arrangement actual expected settings).run.result = .ok (some m) ↔
      firstEmbedding? arrangement actual expected = some m := by
  rw [result_findEmbeddingArranged]
  cases hfind : expected.nodes.find? actual.lacks with
  | some n => simp [firstEmbedding?_eq_none_of_lacks hfind]
  | none => rw [Except.ok.injEq]

lemma assertSubgraph_eq_ok_iff :
    (assertSubgraphArranged arrangement actual expected settings).run.result = .ok m ↔
      firstEmbedding? arrangement actual expected = some m := by
  rw [result_assertSubgraphArranged]
  cases hfind : expected.nodes.find? actual.lacks with
  | some n => simp [firstEmbedding?_eq_none_of_lacks hfind]
  | none => cases firstEmbedding? arrangement actual expected <;> simp

/-- The answer is yes exactly when the comparison succeeds. -/
lemma verdict_eq_ok_true_iff {α : Type} (x : Attempt ComparisonFailure α) :
    (verdict x).run.result = .ok true ↔ ∃ a, x.run.result = .ok a := by
  rw [verdict, ExceptT.run_mk]
  rcases x.run.result with (mismatch | id | fault) | a <;> simp

/-- The expected graph is a subgraph exactly when there is an embedding. -/
theorem isSubgraph_eq_ok_true_iff :
    (isSubgraphArranged arrangement actual expected settings).run.result = .ok true ↔
      ∃ m, IsEmbedding actual expected m := by
  rw [isSubgraphArranged, verdict_eq_ok_true_iff, ← exists_firstEmbedding?_iff arrangement]
  exact exists_congr fun _ => assertSubgraph_eq_ok_iff

/-! ### Sameness -/

lemma firstCountMismatch?_eq_none_iff {a e : Counts} : firstCountMismatch? a e = none ↔ a = e := by
  cases a
  cases e
  simp [firstCountMismatch?, Counted.all, Counted.count]

lemma count_ne_of_firstCountMismatch? {a e : Counts} {c : Counted}
    (h : firstCountMismatch? a e = some c) : c.count a ≠ c.count e := by
  simpa using List.find?_some h

lemma exists_firstCountMismatch? {a e : Counts} (h : a ≠ e) :
    ∃ c, firstCountMismatch? a e = some c :=
  Option.ne_none_iff_exists'.1 (mt firstCountMismatch?_eq_none_iff.1 h)

/-- The first sort of elements of which there are different numbers, or what the comparison for a
subgraph answers. -/
theorem result_assertSameGraphArranged :
    (assertSameGraphArranged arrangement actual expected settings).run.result =
      match firstCountMismatch? actual.counts expected.counts with
      | none => (assertSubgraphArranged arrangement actual expected settings).run.result
      | some c => .error
          (.mismatch (.count c (c.count actual.counts) (c.count expected.counts))) := by
  rw [assertSameGraphArranged, assertSameCounts, Attempt.result_bind]
  cases firstCountMismatch? actual.counts expected.counts <;> rfl

/-- Two graphs pass for the same when the counts agree and there is an embedding. -/
theorem assertSameGraph_eq_ok_iff :
    (assertSameGraphArranged arrangement actual expected settings).run.result = .ok m ↔
      actual.counts = expected.counts ∧
        firstEmbedding? arrangement actual expected = some m := by
  rw [result_assertSameGraphArranged, ← firstCountMismatch?_eq_none_iff]
  cases firstCountMismatch? actual.counts expected.counts <;> simp [assertSubgraph_eq_ok_iff]

end Answers

/-! ### Plain answers -/

section Answered

variable (arrangement : Arrangement) (actual expected : Snapshot) (settings : Settings)

/-- Whether there is an embedding; the answer is no as well if an expected node has no counterpart,
but for that the first such node has to be written. -/
theorem result_isSubgraphArranged :
    (isSubgraphArranged arrangement actual expected settings).run.result =
      if RefusalWritable actual expected then
        .ok (firstEmbedding? arrangement actual expected).isSome
      else .error (.unwritable .tooManyDigits) := by
  rw [isSubgraphArranged, verdict, ExceptT.run_mk, result_assertSubgraphArranged]
  cases hfind : expected.nodes.find? actual.lacks with
  | some n =>
    rw [firstEmbedding?_eq_none_of_lacks hfind]
    by_cases h : n.IsWritable
    · simp [refusalWritable_iff_of_some hfind, Node.refusal_of_isWritable h, h]
    · simp [refusalWritable_iff_of_some hfind, Node.refusal_of_not_isWritable h, h]
  | none =>
    rw [if_pos (refusalWritable_of_none hfind)]
    cases firstEmbedding? arrangement actual expected <;> rfl

/-- No if some counts differ, otherwise the answer of the comparison for a subgraph. -/
theorem result_isSameGraphArranged :
    (isSameGraphArranged arrangement actual expected settings).run.result =
      match firstCountMismatch? actual.counts expected.counts with
      | some _ => .ok false
      | none => (isSubgraphArranged arrangement actual expected settings).run.result := by
  rw [isSameGraphArranged, isSubgraphArranged, verdict, verdict, ExceptT.run_mk, ExceptT.run_mk,
    result_assertSameGraphArranged]
  cases firstCountMismatch? actual.counts expected.counts <;> rfl

variable {arrangement actual expected settings}

lemma exists_isSubgraph_eq_ok (h : RefusalWritable actual expected) :
    ∃ b, (isSubgraphArranged arrangement actual expected settings).run.result = .ok b := by
  rw [result_isSubgraphArranged, if_pos h]
  exact ⟨_, rfl⟩

lemma exists_isSameGraph_eq_ok (h : RefusalWritable actual expected) :
    ∃ b, (isSameGraphArranged arrangement actual expected settings).run.result = .ok b := by
  rw [result_isSameGraphArranged]
  cases firstCountMismatch? actual.counts expected.counts with
  | some c => exact ⟨false, rfl⟩
  | none => exact exists_isSubgraph_eq_ok h

/-- A node without a counterpart that cannot be written leaves the question open, unless some
counts differ. -/
lemma isSameGraph_eq_error_iff {failure : ComparisonFailure} :
    (isSameGraphArranged arrangement actual expected settings).run.result = .error failure ↔
      firstCountMismatch? actual.counts expected.counts = none ∧
        ¬RefusalWritable actual expected ∧ failure = .unwritable .tooManyDigits := by
  rw [result_isSameGraphArranged, result_isSubgraphArranged]
  cases firstCountMismatch? actual.counts expected.counts with
  | some c => simp
  | none => by_cases h : RefusalWritable actual expected <;> simp [h, eq_comm]

end Answered

/-! ### Settings -/

/-- With and without pruning the same candidates are found in the same order, each of them once; so
no comparison of two graphs depends on the settings. -/
theorem results_independent_of_settings (actual expected : Snapshot) :
    (∀ (pruning : Bool) (n : Node),
      (candidatePool actual actual.index pruning n).filter (fun c => n.equivalent c) =
        actual.nodes.filter (fun c => n.equivalent c) ∧
      (actual.nodes.filter fun c => n.equivalent c).Nodup ∧
      (findCandidates actual pruning n).toList =
        (actual.nodes.filter fun c => n.equivalent c).map Node.id) ∧
    ∀ (arrangement : Arrangement) (s s' : Settings),
      (findEmbeddingArranged arrangement actual expected s).run.result =
        (findEmbeddingArranged arrangement actual expected s').run.result ∧
      (assertSubgraphArranged arrangement actual expected s).run.result =
        (assertSubgraphArranged arrangement actual expected s').run.result ∧
      (assertSameGraphArranged arrangement actual expected s).run.result =
        (assertSameGraphArranged arrangement actual expected s').run.result := by
  constructor
  · intro pruning n
    exact ⟨actual.filter_candidatePool pruning n, actual.nodup_nodes.filter _,
      actual.toList_findCandidates pruning n⟩
  · intro arrangement s s'
    have hsubgraph : (assertSubgraphArranged arrangement actual expected s).run.result =
        (assertSubgraphArranged arrangement actual expected s').run.result := by
      rw [result_assertSubgraphArranged, result_assertSubgraphArranged]
    refine ⟨?_, hsubgraph, ?_⟩
    · rw [result_findEmbeddingArranged, result_findEmbeddingArranged]
    · rw [result_assertSameGraphArranged, result_assertSameGraphArranged, hsubgraph]

end PropertyGraph
