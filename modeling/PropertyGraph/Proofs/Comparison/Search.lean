/-
# What the search comes to

The search for an embedding goes through `triedMappings`, the mappings of the expected nodes to
candidates, and stops at the first that carries all relationships over.  `result_searchArranged`
gives its result: the first expected node without a counterpart, or else the first accepted mapping
together with the number of mappings that were checked.

Every mapping that is tried satisfies all clauses of `IsEmbedding` but the last, which is the one
that is checked; and to every embedding some mapping that is tried agrees with it
(`IsEmbedding.exists_mem_triedMappings`).  So nothing that could be an embedding is dropped on the
way, in whatever order the candidates are tried (`findEmbedding_sound_complete`).
-/
import PropertyGraph.Comparison
import PropertyGraph.Proofs.Embedding
import PropertyGraph.Proofs.Mapping.Completions
import PropertyGraph.Proofs.Writing

namespace PropertyGraph

/-! ### Results of attempts -/

namespace Attempt

variable {ε α β : Type}

@[simp] lemma result_pure (a : α) : (pure a : Attempt ε α).run.result = .ok a := rfl

@[simp] lemma result_throw (e : ε) : (throw e : Attempt ε α).run.result = .error e := rfl

lemma result_bind (x : Attempt ε α) (f : α → Attempt ε β) :
    (x >>= f).run.result = match x.run.result with
      | .ok a => (f a).run.result
      | .error e => .error e := by
  rw [ExceptT.run_bind, Report.result_bind]
  cases x.run.result <;> rfl

lemma result_map (x : Attempt ε α) (f : α → β) :
    (f <$> x).run.result = x.run.result.map f := by
  show (match x.run.result with
    | .ok a => (pure (.ok (f a)) : Report (Except ε β))
    | .error e => pure (.error e)).result = x.run.result.map f
  cases x.run.result <;> rfl

end Attempt

/-! ### Checking mappings one after another -/

/-- Whether progress is due after so many rejected mappings. -/
def progressDue (every : Int) (k : Nat) : Bool := every ≠ 0 ∧ (k : Int) % every = 0

/-- The progress that is reported while so many more mappings are rejected. -/
def progressEvents (every : Int) (rejected more : Nat) : List Event :=
  ((List.range' (rejected + 1) more).filter (progressDue every)).map .progress

/-- Whether a check of a mapping succeeds. -/
def accepts (check : Mapping → Except Ident Bool) (m : Mapping) : Bool :=
  match check m with
  | .ok b => b
  | .error _ => false

section Checking

variable {check : Mapping → Except Ident Bool} {every : Int}

lemma accepts_eq_true {m : Mapping} : accepts check m = true ↔ check m = .ok true := by
  unfold accepts
  split
  · next b h => simp [h]
  · next id h => simp [h]

lemma accepts_eq_false {m : Mapping} (hm : ∃ b, check m = .ok b) :
    accepts check m = false ↔ check m = .ok false := by
  obtain ⟨b, hb⟩ := hm
  simp [accepts, hb]

/-- A rejected mapping is counted, and progress is reported when it is due. -/
lemma checkMapping_of_rejected {m : Mapping} (hm : check m = .ok false) (s : SearchState) :
    checkMapping check every s m =
      .next ⟨s.rejected + 1, (progressEvents every s.rejected 1).reverse ++ s.events⟩ := by
  simp only [checkMapping, hm, progressEvents, List.range'_one]
  split
  · next h =>
    have hdue : progressDue every (s.rejected + 1) = true := decide_eq_true h
    simp [hdue]
  · next h =>
    have hdue : progressDue every (s.rejected + 1) = false := decide_eq_false h
    simp [hdue]

lemma checkMapping_of_accepted {m : Mapping} (hm : check m = .ok true) (s : SearchState) :
    checkMapping check every s m = .stop ⟨s.rejected + 1, s.events, .ok m⟩ := by
  simp only [checkMapping, hm]

/-- The progress on one rejected mapping and on more of them after it, the latest first. -/
lemma reverse_progressEvents_succ (rejected more : Nat) (events : List Event) :
    (progressEvents every rejected (more + 1)).reverse ++ events =
      (progressEvents every (rejected + 1) more).reverse ++
        ((progressEvents every rejected 1).reverse ++ events) := by
  have hsplit : progressEvents every rejected (more + 1) =
      progressEvents every rejected 1 ++ progressEvents every (rejected + 1) more := by
    rw [progressEvents, Nat.add_comm more 1, ← List.range'_append_1, List.filter_append,
      List.map_append]
    rfl
  rw [hsplit, List.reverse_append, List.append_assoc]

/-- Checking goes on until a mapping is accepted; all mappings before it are counted. -/
theorem visitAll_checkMapping (every : Int) {ms : List Mapping}
    (hms : ∀ m ∈ ms, ∃ b, check m = .ok b) (s : SearchState) :
    visitAll (checkMapping check every) ms s = match ms.find? (accepts check) with
      | none => .next ⟨s.rejected + ms.length,
          (progressEvents every s.rejected ms.length).reverse ++ s.events⟩
      | some m => .stop ⟨s.rejected + ms.findIdx (accepts check) + 1,
          (progressEvents every s.rejected (ms.findIdx (accepts check))).reverse ++ s.events,
          .ok m⟩ := by
  -- the state varies: the head, if it is rejected, is counted in it
  induction ms generalizing s with
  | nil => simp [visitAll, progressEvents]
  | cons m ms ih =>
    obtain ⟨hm, hms⟩ := List.forall_mem_cons.1 hms
    cases hacc : accepts check m with
    | true =>
      rw [visitAll, checkMapping_of_accepted (accepts_eq_true.1 hacc),
        List.find?_cons_of_pos hacc]
      simp [List.findIdx_cons, hacc, progressEvents]
    | false =>
      have hneg : ¬accepts check m = true := by simp [hacc]
      have hidx : (m :: ms).findIdx (accepts check) = ms.findIdx (accepts check) + 1 := by
        simp [List.findIdx_cons, hacc]
      rw [visitAll, checkMapping_of_rejected ((accepts_eq_false hm).1 hacc),
        List.find?_cons_of_neg hneg]
      simp only [ih hms, hidx, List.length_cons]
      cases ms.find? (accepts check) with
      | none =>
        simp only [reverse_progressEvents_succ s.rejected ms.length]
        rw [Nat.add_assoc, Nat.add_comm 1]
      | some m =>
        simp only [reverse_progressEvents_succ s.rejected (ms.findIdx _)]
        rw [Nat.add_assoc s.rejected 1, Nat.add_comm 1]

end Checking

/-! ### The mappings that are tried -/

/-- The mappings that a search goes through: every expected node to one of its candidates, no
candidate twice. -/
def triedMappings (arrangement : Arrangement) (actual expected : Snapshot) : List Mapping :=
  (arrangedIndex arrangement (.full actual expected)).mappings

section Tried

variable {arrangement : Arrangement} {actual expected : Snapshot} {m : Mapping}

lemma find?_arrangedIndex_full {id : Ident} {s : IdentSet} :
    (arrangedIndex arrangement (.full actual expected)).find? id = some s ↔
      ∃ n ∈ expected.nodes, n.id = id ∧
        arrangement.arrange n.id (findCandidates actual false n) = s := by
  rw [OrderedMap.find?_eq_some_iff]
  simp [arrangedIndex, CandidateIndex.full]

lemma keys_arrangedIndex_full (arrangement : Arrangement) (actual expected : Snapshot) :
    (arrangedIndex arrangement (.full actual expected)).keys = expected.nodeIds := by
  simp [arrangedIndex, CandidateIndex.full, OrderedMap.keys, Snapshot.nodeIds, Function.comp_def]

lemma keys_of_mem_triedMappings (hm : m ∈ triedMappings arrangement actual expected) :
    m.keys.Perm expected.nodeIds := by
  rw [← keys_arrangedIndex_full arrangement actual expected, (CandidateIndex.mem_mappings.1 hm).1]
  exact CandidateIndex.perm_keys_searchOrder _

/-- What is tried are placements of the expected nodes. -/
theorem isPlacement_of_mem_triedMappings (hm : m ∈ triedMappings arrangement actual expected) :
    IsPlacement actual expected m := by
  obtain ⟨-, hvalues, hcandidates⟩ := CandidateIndex.mem_mappings.1 hm
  have hkeys := keys_of_mem_triedMappings hm
  refine ⟨hkeys, fun i j t hi hj => ?_, fun n hn => ?_⟩
  · have hi' := OrderedMap.find?_eq_some_iff.1 hi
    have hj' := OrderedMap.find?_eq_some_iff.1 hj
    exact congrArg Prod.fst (List.inj_on_of_nodup_map hvalues hi' hj' rfl)
  · obtain ⟨t, ht⟩ := OrderedMap.mem_keys_iff.1 (hkeys.mem_iff.2 (List.mem_map_of_mem hn))
    obtain ⟨s, hs, hts⟩ := hcandidates n.id t ht
    obtain ⟨n', hn', hid, rfl⟩ := find?_arrangedIndex_full.1 hs
    obtain rfl := expected.node_eq_of_id hn' hn hid
    obtain ⟨c, hc, rfl, heq⟩ :=
      Snapshot.mem_findCandidates.1 ((arrangement.perm _ _).mem_iff.1 hts)
    exact ⟨c, hc, ht, heq⟩

lemma covers_of_mem_triedMappings (hm : m ∈ triedMappings arrangement actual expected) :
    m.Covers expected :=
  (isPlacement_of_mem_triedMappings hm).covers

/-- The mappings that are tried and pass the check are embeddings. -/
lemma isEmbedding_iff_embeds (hm : m ∈ triedMappings arrangement actual expected) :
    IsEmbedding actual expected m ↔ m.embeds actual expected = .ok true := by
  rw [Mapping.embeds_eq_ok_true]
  exact ⟨IsEmbedding.relationships, (isPlacement_of_mem_triedMappings hm).isEmbedding⟩

/-- No placement is lost: some mapping that is tried agrees with it on all expected nodes. -/
theorem IsPlacement.exists_mem_triedMappings (arrangement : Arrangement)
    (h : IsPlacement actual expected m) :
    ∃ m' ∈ triedMappings arrangement actual expected,
      ∀ id ∈ expected.nodeIds, m'.find? id = m.find? id := by
  -- the placement as a choice of candidates, one for each expected node
  let f (id : Ident) : Ident := (m.find? id).getD id
  have hf {id : Ident} (hid : id ∈ expected.nodeIds) : m.find? id = some (f id) := by
    obtain ⟨t, ht⟩ := h.covers.exists_find? hid
    simp [f, ht]
  have hmem : ∀ id s, (arrangedIndex arrangement (.full actual expected)).find? id = some s →
      f id ∈ s.toList := by
    intro id s hs
    obtain ⟨n, hn, rfl, rfl⟩ := find?_arrangedIndex_full.1 hs
    obtain ⟨c, hc, hnc, heq⟩ := h.nodes n hn
    rw [hf (List.mem_map_of_mem hn), Option.some_inj] at hnc
    exact (arrangement.perm _ _).mem_iff.2 (Snapshot.mem_findCandidates.2 ⟨c, hc, hnc.symm, heq⟩)
  have hinj : ∀ i ∈ expected.nodeIds, ∀ j ∈ expected.nodeIds, f i = f j → i = j := by
    intro i hi j hj hij
    exact h.injective i j (f i) (hf hi) (hij ▸ hf hj)
  rw [← keys_arrangedIndex_full arrangement actual expected] at hinj
  obtain ⟨m', hm', hfind⟩ := CandidateIndex.exists_mem_mappings hmem hinj
  rw [keys_arrangedIndex_full] at hfind
  exact ⟨m', hm', fun id hid => (hfind id hid).trans (hf hid).symm⟩

/-- No embedding is lost either, since what carries the relationships over is the placement. -/
theorem IsEmbedding.exists_mem_triedMappings (arrangement : Arrangement)
    (h : IsEmbedding actual expected m) :
    ∃ m' ∈ triedMappings arrangement actual expected, IsEmbedding actual expected m' := by
  obtain ⟨m', hm', hfind⟩ := h.isPlacement.exists_mem_triedMappings arrangement
  exact ⟨m', hm', h.congr (keys_of_mem_triedMappings hm') hfind⟩

/-- The first mapping that is tried and passes the check. -/
def firstEmbedding? (arrangement : Arrangement) (actual expected : Snapshot) : Option Mapping :=
  (triedMappings arrangement actual expected).find? (accepts (Mapping.embeds actual expected))

lemma isEmbedding_of_firstEmbedding? (hm : firstEmbedding? arrangement actual expected = some m) :
    IsEmbedding actual expected m :=
  (isEmbedding_iff_embeds (List.mem_of_find?_eq_some hm)).2
    (accepts_eq_true.1 (List.find?_some hm))

lemma firstEmbedding?_eq_none_iff :
    firstEmbedding? arrangement actual expected = none ↔ ¬∃ m, IsEmbedding actual expected m := by
  rw [firstEmbedding?, List.find?_eq_none]
  constructor
  · rintro hnone ⟨m, hm⟩
    obtain ⟨m', hm', hemb⟩ := hm.exists_mem_triedMappings arrangement
    exact hnone m' hm' (accepts_eq_true.2 ((isEmbedding_iff_embeds hm').1 hemb))
  · intro hnone m hm hacc
    exact hnone ⟨m, (isEmbedding_iff_embeds hm).2 (accepts_eq_true.1 hacc)⟩

lemma exists_firstEmbedding?_iff (arrangement : Arrangement) :
    (∃ m, firstEmbedding? arrangement actual expected = some m) ↔
      ∃ m, IsEmbedding actual expected m := by
  rw [← Option.ne_none_iff_exists', ne_eq, firstEmbedding?_eq_none_iff, not_not]

end Tried

/-! ### Nodes without a counterpart -/

/-- The first expected node without a counterpart stands after nodes that have one. -/
lemma find?_lacks_eq_some_iff {actual expected : Snapshot} {n : Node} :
    expected.nodes.find? actual.lacks = some n ↔
      ∃ before after, expected.nodes = before ++ n :: after ∧
        (∀ b ∈ before, ∃ c ∈ actual.nodes, b.equivalent c = true) ∧
        ∀ c ∈ actual.nodes, n.equivalent c = false := by
  rw [List.find?_eq_some_iff_append, Snapshot.lacks_eq_true_iff]
  simp only [Bool.not_eq_true', Snapshot.lacks_eq_false_iff]
  exact ⟨fun ⟨hlacks, before, after, split, hbefore⟩ => ⟨before, after, split, hbefore, hlacks⟩,
    fun ⟨before, after, split, hbefore, hlacks⟩ => ⟨hlacks, before, after, split, hbefore⟩⟩

/-- Why a search fails at a node without a counterpart: because there is none, unless the node
cannot even be written. -/
def Node.refusal (n : Node) : ComparisonFailure :=
  if n.IsWritable then .mismatch (.noCandidate n) else .unwritable .tooManyDigits

section Refusal

variable {n : Node} {failure : ComparisonFailure}

lemma Node.eq_refusal_iff : failure = n.refusal ↔
    n.IsWritable ∧ failure = .mismatch (.noCandidate n) ∨
      ¬n.IsWritable ∧ failure = .unwritable .tooManyDigits := by
  rw [refusal]
  split
  · next h => simp [h]
  · next h => simp [h]

lemma Node.refusal_of_isWritable (h : n.IsWritable) :
    n.refusal = .mismatch (.noCandidate n) :=
  if_pos h

lemma Node.refusal_of_not_isWritable (h : ¬n.IsWritable) :
    n.refusal = .unwritable .tooManyDigits :=
  if_neg h

lemma Node.refusal_eq_mismatch_iff {mismatch : Mismatch} :
    n.refusal = .mismatch mismatch ↔ n.IsWritable ∧ mismatch = .noCandidate n := by
  rw [eq_comm, eq_refusal_iff]
  simp

/-- Nothing is reported of a node that cannot be written. -/
lemma run_failAt {α : Type} (n : Node) : (failAt n : Attempt ComparisonFailure α).run =
    ⟨if n.IsWritable then [.noCandidate n] else [], .error n.refusal⟩ := by
  rw [failAt]
  by_cases h : n.IsWritable
  · rw [Node.written?_of_isWritable h, Node.refusal_of_isWritable h, if_pos h]
    rfl
  · rw [Node.written?_eq_error_iff.2 ⟨h, rfl⟩, Node.refusal_of_not_isWritable h, if_neg h]
    rfl

end Refusal

/-- The first expected node without a counterpart, if there is one, can be written. -/
def RefusalWritable (actual expected : Snapshot) : Prop :=
  ∀ n ∈ expected.nodes.find? actual.lacks, n.IsWritable

instance (actual expected : Snapshot) : Decidable (RefusalWritable actual expected) :=
  inferInstanceAs (Decidable (∀ n ∈ expected.nodes.find? actual.lacks, n.IsWritable))

lemma Snapshot.IsWritable.refusalWritable {expected : Snapshot} (h : expected.IsWritable)
    (actual : Snapshot) : RefusalWritable actual expected :=
  fun n hn => h n (List.mem_of_find?_eq_some hn)

section RefusalWritable

variable {actual expected : Snapshot}

lemma refusalWritable_of_none (h : expected.nodes.find? actual.lacks = none) :
    RefusalWritable actual expected := by
  simp [RefusalWritable, h]

lemma refusalWritable_iff_of_some {n : Node} (h : expected.nodes.find? actual.lacks = some n) :
    RefusalWritable actual expected ↔ n.IsWritable := by
  simp [RefusalWritable, h]

lemma not_refusalWritable_iff : ¬RefusalWritable actual expected ↔
    ∃ n, expected.nodes.find? actual.lacks = some n ∧ ¬n.IsWritable := by
  simp [RefusalWritable]

/-- The refusal of the first node without a counterpart, if that node can be written. -/
lemma RefusalWritable.refusal_eq {n : Node} (h : RefusalWritable actual expected)
    (hn : expected.nodes.find? actual.lacks = some n) : n.refusal = .mismatch (.noCandidate n) :=
  Node.refusal_of_isWritable ((refusalWritable_iff_of_some hn).1 h)

end RefusalWritable

/-! ### The result of a search -/

section Result

variable (arrangement : Arrangement) (actual expected : Snapshot) (settings : Settings)

lemma result_reportCandidates (pruning : Bool) :
    (reportCandidates actual.index actual expected pruning).run.result =
      match expected.nodes.find? actual.lacks with
      | some n => .error n.refusal
      | none => .ok (.full actual expected) := by
  have hbuild := CandidateIndex.build_eq actual expected pruning
  rw [CandidateIndex.build] at hbuild
  rw [reportCandidates, hbuild]
  cases expected.nodes.find? actual.lacks with
  | some n => exact congrArg Report.result (run_failAt n)
  | none => rfl

/-- Going through the mappings of an index: progress on all mappings before the first that passes
the check, and then that one; or else progress on all mappings. -/
theorem run_searchMappings (every : Int) {index : CandidateIndex}
    (hcov : ∀ m ∈ index.mappings, m.Covers expected) :
    (searchMappings actual.index expected every index).run =
      match index.mappings.find? (accepts (Mapping.embeds actual expected)) with
      | some m =>
        let rejected := index.mappings.findIdx (accepts (Mapping.embeds actual expected))
        ⟨progressEvents every 0 rejected ++ [.completed (rejected + 1)],
          .ok (some m, rejected + 1)⟩
      | none =>
        ⟨progressEvents every 0 index.mappings.length ++ [.exhausted index.mappings.length],
          .ok (none, index.mappings.length)⟩ := by
  have hdecided : ∀ m ∈ index.mappings, ∃ b, m.embeds actual expected = .ok b :=
    fun m hm => Mapping.exists_embeds_eq_ok (hcov m hm)
  have hvisit := visitAll_checkMapping every hdecided ⟨0, []⟩
  rw [← CandidateIndex.forMappings_eq_visitAll] at hvisit
  have hcheck : (fun m => carriesAll actual.index m expected.relationships) =
      Mapping.embeds actual expected := rfl
  rw [searchMappings, hcheck, hvisit]
  cases index.mappings.find? (accepts (Mapping.embeds actual expected)) <;>
    simp [ExceptT.run_mk]

lemma result_searchMappings (every : Int) {index : CandidateIndex}
    (hcov : ∀ m ∈ index.mappings, m.Covers expected) :
    (searchMappings actual.index expected every index).run.result =
      .ok (index.mappings.find? (accepts (Mapping.embeds actual expected)),
        min (index.mappings.findIdx (accepts (Mapping.embeds actual expected)) + 1)
          index.mappings.length) := by
  rw [run_searchMappings actual expected every hcov]
  cases hfind : index.mappings.find? (accepts (Mapping.embeds actual expected)) with
  | none =>
    rw [List.findIdx_eq_length_of_false fun m hm => by simpa using List.find?_eq_none.1 hfind m hm,
      Nat.min_eq_right (Nat.le_succ _)]
  | some m =>
    have hidx := List.findIdx_lt_length_of_exists
      ⟨m, List.mem_of_find?_eq_some hfind, List.find?_some hfind⟩
    rw [Nat.min_eq_left hidx]

/-- The number of mappings that a search checks. -/
def checkedMappings : Nat :=
  let tried := triedMappings arrangement actual expected
  min (tried.findIdx (accepts (Mapping.embeds actual expected)) + 1) tried.length

/-- The refusal of the first expected node without a counterpart, or the first mapping that passes
the check and the number of mappings checked. -/
theorem result_searchArranged :
    (searchArranged arrangement actual expected settings).run.result =
      match expected.nodes.find? actual.lacks with
      | some n => .error n.refusal
      | none => .ok (firstEmbedding? arrangement actual expected,
          checkedMappings arrangement actual expected) := by
  rw [searchArranged, searchFrom, Attempt.result_bind, Attempt.result_bind,
    result_reportCandidates]
  cases expected.nodes.find? actual.lacks with
  | some n => rfl
  | none =>
    exact result_searchMappings _ _ _ fun m hm => covers_of_mem_triedMappings hm

lemma result_findEmbeddingArranged :
    (findEmbeddingArranged arrangement actual expected settings).run.result =
      match expected.nodes.find? actual.lacks with
      | some n => .error n.refusal
      | none => .ok (firstEmbedding? arrangement actual expected) := by
  rw [findEmbeddingArranged, Attempt.result_map, result_searchArranged]
  cases expected.nodes.find? actual.lacks <;> rfl

end Result

end PropertyGraph
