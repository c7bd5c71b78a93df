/-
# What comparisons report

A search reports what is compared, then either an expected node without a counterpart or how many
nodes have several, then progress, then how it ended.  `SearchReports` says which events these are
in terms of the two graphs and of the mappings in the order in which they are enumerated; the loop
with its counter and its early exit reports these events and no others (`searchReports_iff`).

The mapping that ends a search is counted, but there is no progress on it, even if its number is a
multiple of the interval.  So progress is determined by the number of mappings that are rejected
(`progressReports`), and as often as the interval fits in that number (`length_progressReports`).
-/
import Mathlib.Data.List.Permutation
import PropertyGraph.Proofs.Comparison.Invariance
import PropertyGraph.Proofs.Mapping.Enumeration

namespace PropertyGraph

/-! ### Events of attempts -/

namespace Attempt

variable {ε α β : Type}

@[simp] lemma events_pure (a : α) : (pure a : Attempt ε α).run.events = [] := rfl

@[simp] lemma events_throw (e : ε) : (throw e : Attempt ε α).run.events = [] := rfl

@[simp] lemma events_log (e : Event) : (log e : Attempt ε Unit).run.events = [e] := rfl

@[simp] lemma result_log (e : Event) : (log e : Attempt ε Unit).run.result = .ok () := rfl

/-- What comes after a failure is not reported. -/
lemma events_bind (x : Attempt ε α) (f : α → Attempt ε β) :
    (x >>= f).run.events = x.run.events ++ match x.run.result with
      | .ok a => (f a).run.events
      | .error _ => [] := by
  rw [ExceptT.run_bind, Report.events_bind]
  cases x.run.result <;> rfl

lemma events_map (x : Attempt ε α) (f : α → β) : (f <$> x).run.events = x.run.events := by
  show x.run.events ++ (match x.run.result with
    | .ok a => (pure (.ok (f a)) : Report (Except ε β))
    | .error e => pure (.error e)).events = x.run.events
  cases x.run.result <;> exact List.append_nil _

end Attempt

/-! ### Progress -/

/-- The progress that is reported when so many mappings are rejected: the multiples of the interval
up to that number, in ascending order. -/
def progressReports (interval : Int) (rejected : Nat) : List Event :=
  ((List.range' 1 rejected).filter fun k : Nat => interval ∣ (k : Int)).map .progress

section Progress

variable (interval : Int)

/-- Zero divides no number of rejected mappings, so for the interval 0 there is no progress. -/
lemma progressDue_eq_dvd {k : Nat} (hk : 0 < k) :
    progressDue interval k = decide (interval ∣ (k : Int)) := by
  rw [progressDue, decide_eq_decide, ← Int.dvd_iff_emod_eq_zero, and_iff_right_iff_imp]
  rintro hdvd rfl
  have hzero : (k : Int) = 0 := zero_dvd_iff.1 hdvd
  omega

lemma progressEvents_zero (rejected : Nat) :
    progressEvents interval 0 rejected = progressReports interval rejected := by
  rw [progressEvents, progressReports, Nat.zero_add]
  refine congrArg _ (List.filter_congr fun k hk => ?_)
  exact progressDue_eq_dvd interval (List.mem_range'_1.1 hk).1

lemma length_progressReports (rejected : Nat) :
    (progressReports interval rejected).length = rejected / interval.natAbs := by
  rw [progressReports, List.length_map, ← List.countP_eq_length_filter]
  induction rejected with
  | zero => simp
  | succ rejected ih =>
    have hdvd : interval ∣ ((1 + rejected : Nat) : Int) ↔ interval.natAbs ∣ rejected + 1 := by
      rw [← Int.natAbs_dvd, Int.natCast_dvd_natCast, Nat.add_comm]
    rw [List.range'_1_concat, List.countP_append, List.countP_singleton, ih, Nat.succ_div]
    simp only [decide_eq_true_iff, hdvd]

example : progressReports (-5) 24 = [.progress 5, .progress 10, .progress 15, .progress 20] := by
  cbv

end Progress

/-! ### The end of a search -/

/-- How a search among some mappings ends, and what it reports from the first mapping on. -/
inductive SearchEnds (actual expected : Snapshot) (interval : Int) (tried : List Mapping) :
    Option Mapping → List Event → Prop
  /-- The mappings before the first embedding are rejected, and it completes the search. -/
  | found (before : List Mapping) (m : Mapping) (after : List Mapping)
      (split : tried = before ++ m :: after)
      (rejected : ∀ m' ∈ before, ¬IsEmbedding actual expected m')
      (accepted : IsEmbedding actual expected m) :
      SearchEnds actual expected interval tried (some m)
        (progressReports interval before.length ++ [.completed (before.length + 1)])
  /-- All mappings are rejected. -/
  | exhausted (rejected : ∀ m ∈ tried, ¬IsEmbedding actual expected m) :
      SearchEnds actual expected interval tried none
        (progressReports interval tried.length ++ [.exhausted tried.length])

section Ends

variable {actual expected : Snapshot} {interval : Int} {tried : List Mapping}
  {found : Option Mapping} {events : List Event}

lemma findIdx_append_cons {α : Type} {p : α → Bool} {before after : List α} {a : α}
    (hbefore : ∀ b ∈ before, p b = false) (ha : p a = true) :
    (before ++ a :: after).findIdx p = before.length := by
  rw [List.findIdx_append, List.findIdx_eq_length_of_false hbefore, if_neg (Nat.lt_irrefl _),
    List.findIdx_cons, ha, cond_true, Nat.zero_add]

/-- For a test that tells embeddings, the first mapping that passes it and its position determine
the end of the search. -/
lemma searchEnds_iff {p : Mapping → Bool}
    (hp : ∀ m ∈ tried, IsEmbedding actual expected m ↔ p m = true) :
    SearchEnds actual expected interval tried found events ↔
      found = tried.find? p ∧ events = match tried.find? p with
        | some _ => progressReports interval (tried.findIdx p) ++ [.completed (tried.findIdx p + 1)]
        | none => progressReports interval tried.length ++ [.exhausted tried.length] := by
  constructor
  · intro h
    cases h with
    | found before m after split rejected accepted =>
      have hbefore : ∀ b ∈ before, p b = false := by
        intro b hb
        have hmem : b ∈ tried := by simp [split, hb]
        simpa using mt (hp b hmem).2 (rejected b hb)
      have hm : p m = true := (hp m (by simp [split])).1 accepted
      have hfind : tried.find? p = some m :=
        List.find?_eq_some_iff_append.2 ⟨hm, before, after, split, by simpa using hbefore⟩
      have hidx : tried.findIdx p = before.length := split ▸ findIdx_append_cons hbefore hm
      rw [hfind, hidx]
      exact ⟨rfl, rfl⟩
    | exhausted rejected =>
      have hfind : tried.find? p = none :=
        List.find?_eq_none.2 fun m hm => mt (hp m hm).2 (rejected m hm)
      rw [hfind]
      exact ⟨rfl, rfl⟩
  · rintro ⟨rfl, rfl⟩
    cases hfind : tried.find? p with
    | some m =>
      obtain ⟨hm, before, after, split, hbefore⟩ := List.find?_eq_some_iff_append.1 hfind
      simp only [Bool.not_eq_true'] at hbefore
      have hidx : tried.findIdx p = before.length := split ▸ findIdx_append_cons hbefore hm
      rw [hidx]
      refine .found before m after split (fun b hb => ?_) ((hp m (by simp [split])).2 hm)
      rw [hp b (by simp [split, hb]), hbefore b hb]
      decide
    | none =>
      exact .exhausted fun m hm => mt (hp m hm).1 (List.find?_eq_none.1 hfind m hm)

end Ends

/-! ### A whole search -/

/-- What a search for an embedding comes to, and what it reports: its beginning, and then the first
expected node without a counterpart or, after the number of expected nodes and of those with several
counterparts, what is reported on the mappings.  There is nothing after the beginning if a node
without a counterpart cannot be written. -/
inductive SearchReports (arrangement : Arrangement) (actual expected : Snapshot)
    (settings : Settings) : Except ComparisonFailure (Option Mapping) → List Event → Prop
  | lacking (before : List Node) (n : Node) (after : List Node)
      (split : expected.nodes = before ++ n :: after)
      (matched : ∀ b ∈ before, ∃ c ∈ actual.nodes, b.equivalent c = true)
      (lacks : ∀ c ∈ actual.nodes, n.equivalent c = false)
      (writable : n.IsWritable) :
      SearchReports arrangement actual expected settings (.error (.mismatch (.noCandidate n)))
        [.started actual.nodes.length expected.nodes.length expected.relationships.length,
          .noCandidate n]
  | unnamed (before : List Node) (n : Node) (after : List Node)
      (split : expected.nodes = before ++ n :: after)
      (matched : ∀ b ∈ before, ∃ c ∈ actual.nodes, b.equivalent c = true)
      (lacks : ∀ c ∈ actual.nodes, n.equivalent c = false)
      (long : ¬n.IsWritable) :
      SearchReports arrangement actual expected settings (.error (.unwritable .tooManyDigits))
        [.started actual.nodes.length expected.nodes.length expected.relationships.length]
  | searched (index : CandidateIndex) (found : Option Mapping) (events : List Event)
      (built : CandidateIndex.build actual expected settings.labelPruning = .ok index)
      (ends : SearchEnds actual expected settings.progressEvery
        (arrangedIndex arrangement index).allMappings found events) :
      SearchReports arrangement actual expected settings (.ok found)
        (.started actual.nodes.length expected.nodes.length expected.relationships.length ::
          .indexBuilt expected.nodes.length
            (expected.nodes.countP fun n => 1 < actual.nodes.countP fun c => n.equivalent c) ::
          events)

section Search

variable {arrangement : Arrangement} {actual expected : Snapshot} {settings : Settings}

/-- What is reported on the mappings that are tried, until one passes the check. -/
def mappingEvents (arrangement : Arrangement) (actual expected : Snapshot) (interval : Int) :
    List Event :=
  let tried := triedMappings arrangement actual expected
  match firstEmbedding? arrangement actual expected with
  | some _ =>
    let rejected := tried.findIdx (accepts (Mapping.embeds actual expected))
    progressReports interval rejected ++ [.completed (rejected + 1)]
  | none => progressReports interval tried.length ++ [.exhausted tried.length]

lemma searchEnds_triedMappings_iff {interval : Int} {found : Option Mapping}
    {events : List Event} :
    SearchEnds actual expected interval (triedMappings arrangement actual expected) found events ↔
      found = firstEmbedding? arrangement actual expected ∧
        events = mappingEvents arrangement actual expected interval :=
  searchEnds_iff fun _ hm => (isEmbedding_iff_embeds hm).trans accepts_eq_true.symm

lemma size_full (actual expected : Snapshot) :
    (CandidateIndex.full actual expected).size = expected.nodes.length := by
  simp [OrderedMap.size, CandidateIndex.full]

lemma ambiguous_full (actual expected : Snapshot) :
    (CandidateIndex.full actual expected).ambiguous =
      expected.nodes.countP fun n => 1 < actual.nodes.countP fun c => n.equivalent c := by
  simp only [CandidateIndex.ambiguous, CandidateIndex.full, List.countP_map]
  refine List.countP_congr fun n _ => ?_
  simp [IdentSet.size, Snapshot.toList_findCandidates, List.countP_eq_length_filter]

lemma events_reportCandidates (pruning : Bool) :
    (reportCandidates actual.index actual expected pruning).run.events =
      match expected.nodes.find? actual.lacks with
      | some n => if n.IsWritable then [.noCandidate n] else []
      | none => [.indexBuilt expected.nodes.length
          (expected.nodes.countP fun n => 1 < actual.nodes.countP fun c => n.equivalent c)] := by
  have hbuild := CandidateIndex.build_eq actual expected pruning
  rw [CandidateIndex.build] at hbuild
  rw [reportCandidates, hbuild]
  cases expected.nodes.find? actual.lacks with
  | some n => exact congrArg Report.events (run_failAt n)
  | none =>
    rw [← ambiguous_full, ← size_full actual expected]
    rfl

/-- The numbers of elements, the outcome of the scan for candidates, and what is reported on the
mappings that are tried. -/
lemma events_findEmbeddingArranged :
    (findEmbeddingArranged arrangement actual expected settings).run.events =
      .started actual.nodes.length expected.nodes.length expected.relationships.length ::
        match expected.nodes.find? actual.lacks with
        | some n => if n.IsWritable then [.noCandidate n] else []
        | none =>
          .indexBuilt expected.nodes.length
            (expected.nodes.countP fun n => 1 < actual.nodes.countP fun c => n.equivalent c) ::
          mappingEvents arrangement actual expected settings.progressEvery := by
  rw [findEmbeddingArranged, Attempt.events_map, searchArranged, searchFrom, Attempt.events_bind,
    Attempt.result_log, Attempt.events_log, List.singleton_append]
  simp only [Attempt.events_bind, result_reportCandidates, events_reportCandidates]
  cases expected.nodes.find? actual.lacks with
  | some n => exact congrArg _ (List.append_nil _)
  | none =>
    simp only [List.singleton_append]
    rw [run_searchMappings _ _ _ fun m hm => covers_of_mem_triedMappings hm]
    simp only [progressEvents_zero, mappingEvents, firstEmbedding?, triedMappings]
    cases (arrangedIndex arrangement (.full actual expected)).mappings.find? _ <;> rfl

theorem searchReports_iff {result : Except ComparisonFailure (Option Mapping)}
    {events : List Event} :
    SearchReports arrangement actual expected settings result events ↔
      (findEmbeddingArranged arrangement actual expected settings).run = ⟨events, result⟩ := by
  have hrun : (findEmbeddingArranged arrangement actual expected settings).run = ⟨events, result⟩ ↔
      events = (findEmbeddingArranged arrangement actual expected settings).run.events ∧
      result = (findEmbeddingArranged arrangement actual expected settings).run.result := by
    rw [← Report.mk.injEq, eq_comm]
  rw [hrun, events_findEmbeddingArranged, result_findEmbeddingArranged]
  constructor
  · intro h
    cases h with
    | lacking before n after split matched lacks writable =>
      rw [find?_lacks_eq_some_iff.2 ⟨before, after, split, matched, lacks⟩]
      exact ⟨by simp [writable], by simp [Node.refusal_of_isWritable writable]⟩
    | unnamed before n after split matched lacks long =>
      rw [find?_lacks_eq_some_iff.2 ⟨before, after, split, matched, lacks⟩]
      exact ⟨by simp [long], by simp [Node.refusal_of_not_isWritable long]⟩
    | searched index found events built ends =>
      obtain ⟨hnone, rfl⟩ := CandidateIndex.build_eq_ok_iff.1 built
      rw [CandidateIndex.allMappings_eq_mappings] at ends
      obtain ⟨rfl, rfl⟩ := searchEnds_triedMappings_iff.1 ends
      rw [hnone]
      exact ⟨rfl, rfl⟩
  · rintro ⟨rfl, rfl⟩
    cases hfind : expected.nodes.find? actual.lacks with
    | some n =>
      obtain ⟨before, after, split, matched, lacks⟩ := find?_lacks_eq_some_iff.1 hfind
      by_cases h : n.IsWritable
      · simp only [h, if_true, Node.refusal_of_isWritable h]
        exact .lacking before n after split matched lacks h
      · simp only [h, if_false, Node.refusal_of_not_isWritable h]
        exact .unnamed before n after split matched lacks h
    | none =>
      refine .searched (.full actual expected) _ _
        (CandidateIndex.build_eq_ok_iff.2 ⟨hfind, rfl⟩) ?_
      rw [CandidateIndex.allMappings_eq_mappings]
      exact searchEnds_triedMappings_iff.2 ⟨rfl, rfl⟩

end Search

/-! ### What is kept -/

/-- Whether an event says that graphs do not match. -/
def Event.isRefusal : Event → Bool
  | .noCandidate _ | .exhausted _ | .countMismatch _ _ _ => true
  | _ => false

/-- A refusal is worth knowing, anything else is detail. -/
def Event.Graded (e : Event) : Prop := e.severity = if e.isRefusal then .info else .debug

lemma Event.graded_of_mem_progressReports {interval : Int} {rejected : Nat} {e : Event}
    (he : e ∈ progressReports interval rejected) : e.Graded := by
  obtain ⟨k, -, rfl⟩ := List.mem_map.1 he
  rfl

section Kept

variable {events : List Event} {host : Settings}

lemma keep_of_le_debug (hgraded : ∀ e ∈ events, e.Graded)
    (h : host.logLevel.number ≤ Severity.debug.number) : host.keep events = events := by
  refine List.filter_eq_self.2 fun e he => decide_eq_true (h.trans ?_)
  rw [hgraded e he]
  cases e.isRefusal <;> decide

lemma keep_of_le_info (hgraded : ∀ e ∈ events, e.Graded)
    (h : Severity.debug.number < host.logLevel.number)
    (h' : host.logLevel.number ≤ Severity.info.number) :
    host.keep events = events.filter Event.isRefusal := by
  refine List.filter_congr fun e he => ?_
  rw [hgraded e he]
  cases e.isRefusal with
  | true => exact decide_eq_true h'
  | false => exact decide_eq_false (Nat.not_le.2 h)

lemma keep_of_info_lt (hgraded : ∀ e ∈ events, e.Graded)
    (h : Severity.info.number < host.logLevel.number) : host.keep events = [] := by
  refine List.filter_eq_nil_iff.2 fun e he hkept => ?_
  rw [decide_eq_true_iff, hgraded e he] at hkept
  revert hkept
  cases e.isRefusal with
  | true => exact Nat.not_le.2 h
  | false => exact Nat.not_le.2 (Nat.lt_trans (by decide) h)

end Kept

/-! ### All comparisons -/

section Comparisons

variable {arrangement : Arrangement} {actual expected : Snapshot} {settings : Settings}

lemma SearchEnds.graded {interval : Int} {tried : List Mapping} {found : Option Mapping}
    {events : List Event} (h : SearchEnds actual expected interval tried found events) :
    ∀ e ∈ events, e.Graded := by
  cases h with
  | found =>
    rw [List.forall_mem_append, List.forall_mem_singleton]
    exact ⟨fun e => Event.graded_of_mem_progressReports, rfl⟩
  | exhausted =>
    rw [List.forall_mem_append, List.forall_mem_singleton]
    exact ⟨fun e => Event.graded_of_mem_progressReports, rfl⟩

lemma SearchReports.graded {result : Except ComparisonFailure (Option Mapping)}
    {events : List Event}
    (h : SearchReports arrangement actual expected settings result events) :
    ∀ e ∈ events, e.Graded := by
  cases h with
  | lacking before n after =>
    rw [List.forall_mem_cons, List.forall_mem_singleton]
    exact ⟨rfl, rfl⟩
  | unnamed before n after =>
    rw [List.forall_mem_singleton]
    rfl
  | searched index found events built ends =>
    rw [List.forall_mem_cons, List.forall_mem_cons]
    exact ⟨rfl, rfl, ends.graded⟩

/-- A search in vain has rejected a mapping for every placement. -/
lemma SearchReports.checked_of_exhausted {result : Except ComparisonFailure (Option Mapping)}
    {events : List Event} {checked : Nat}
    (h : SearchReports arrangement actual expected settings result events)
    (hmem : .exhausted checked ∈ events) : checked = Nat.card (Placement actual expected) := by
  cases h with
  | lacking => simp at hmem
  | unnamed => simp at hmem
  | searched index found events built ends =>
    obtain ⟨-, rfl⟩ := CandidateIndex.build_eq_ok_iff.1 built
    cases ends with
    | found => simp [progressReports] at hmem
    | exhausted =>
      obtain rfl : checked = _ := by simpa [progressReports] using hmem
      rw [CandidateIndex.allMappings_eq_mappings]
      exact length_triedMappings arrangement actual expected

lemma events_assertSubgraphArranged :
    (assertSubgraphArranged arrangement actual expected settings).run.events =
      (findEmbeddingArranged arrangement actual expected settings).run.events := by
  rw [assertSubgraphArranged, Attempt.events_bind, findEmbeddingArranged, Attempt.events_map]
  rcases (searchArranged arrangement actual expected settings).run.result with e | ⟨_ | m, checked⟩
  · exact List.append_nil _
  · exact List.append_nil _
  · exact List.append_nil _

lemma assertSubgraph_ne_count (of : Counted) (a e : Nat) :
    (assertSubgraphArranged arrangement actual expected settings).run.result ≠
      .error (.mismatch (.count of a e)) := by
  rw [result_assertSubgraphArranged]
  cases expected.nodes.find? actual.lacks with
  | some n => simp [Node.refusal_eq_mismatch_iff]
  | none => cases firstEmbedding? arrangement actual expected <;> simp

/-- Different numbers of elements are all that is reported, and otherwise the search is. -/
lemma events_assertSameGraphArranged :
    (assertSameGraphArranged arrangement actual expected settings).run.events =
      match firstCountMismatch? actual.counts expected.counts with
      | some c => [.countMismatch c (c.count actual.counts) (c.count expected.counts)]
      | none => (findEmbeddingArranged arrangement actual expected settings).run.events := by
  rw [assertSameGraphArranged, assertSameCounts, Attempt.events_bind,
    events_assertSubgraphArranged]
  cases firstCountMismatch? actual.counts expected.counts <;> rfl

lemma graded_of_mem_findEmbedding {e : Event}
    (he : e ∈ (findEmbeddingArranged arrangement actual expected settings).run.events) :
    e.Graded :=
  (searchReports_iff.2 rfl).graded e he

lemma graded_of_mem_assertSameGraph {e : Event}
    (he : e ∈ (assertSameGraphArranged arrangement actual expected settings).run.events) :
    e.Graded := by
  rw [events_assertSameGraphArranged] at he
  split at he
  · obtain rfl := List.mem_singleton.1 he
    rfl
  · exact graded_of_mem_findEmbedding he

end Comparisons

end PropertyGraph
