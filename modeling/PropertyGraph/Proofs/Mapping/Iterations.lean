/-
# The iterations of the loop

An iteration of the loop takes the partial mapping on top off the stack and puts its extensions in
its place (`iteration`).  Below a partial mapping hangs the tree of all that extend it.  The trees
of a stack, written out from the top, are the partial mappings in the order in which they are going
to be taken off, since an iteration drops the first of them (`flatMap_iteration`).  So the loop goes
through the tree below the empty mapping.  Its members are the choices of distinct candidates for
the first so many nodes of the search order (`mem_descendants`), and each of them is there once.

The tree is large, but the stack stays small.  The extensions of a mapping come to lie together, on
top of mappings that are no longer than theirs, and so below any mapping there are at most as many
others as the nodes that it maps have candidates beyond a first one (`Stacked`).
-/
import Mathlib.Data.Set.Card
import PropertyGraph.Proofs.Mapping.Enumeration

namespace PropertyGraph

/-! ### One iteration -/

namespace Frame

/-- The extensions of a partial mapping; a total mapping has none. -/
def next (f : Frame) : List Frame :=
  match f.remaining with
  | [] => []
  | (id, targets) :: rest => extensions f.chosen f.used id targets rest

/-- The mapping, if it is total. -/
def total? (f : Frame) : Option Mapping :=
  match f.remaining with
  | [] => some f.chosen
  | _ :: _ => none

end Frame

/-- The stack after one iteration of the loop. -/
def iteration : List Frame → List Frame
  | [] => []
  | f :: stack => f.next ++ stack

/-- The partial mappings that the first iterations take off a stack. -/
def takenOff (stack : List Frame) (n : ℕ) : List Frame :=
  (List.range n).filterMap fun i => (iteration^[i] stack).head?

/-! ### The loop as iterations -/

section Loop

variable {σ ρ : Type}

/-- What follows unless the consumer has stopped. -/
def Visit.andThen (v : Visit σ ρ) (follow : σ → Visit σ ρ) : Visit σ ρ :=
  match v with
  | .next state => follow state
  | .stop result => .stop result

lemma Visit.andThen_assoc (v : Visit σ ρ) (f g : σ → Visit σ ρ) :
    (v.andThen f).andThen g = v.andThen fun state => (f state).andThen g := by
  cases v <;> rfl

variable (visit : σ → Mapping → Visit σ ρ)

lemma visitAll_append (ms ms' : List Mapping) (state : σ) :
    visitAll visit (ms ++ ms') state =
      (visitAll visit ms state).andThen (visitAll visit ms') := by
  induction ms generalizing state with
  | nil => rfl
  | cons m ms ih =>
    rw [List.cons_append, visitAll, visitAll]
    cases visit state m with
    | next state => exact ih state
    | stop result => rfl

/-- The loop shows its consumer the mapping on top, if it is total, and goes on with the stack after
one iteration. -/
lemma walk_eq_iteration (stack : List Frame) (state : σ) :
    walk visit stack state =
      (visitAll visit (stack.head?.toList.filterMap Frame.total?) state).andThen
        (walk visit (iteration stack)) := by
  match stack with
  | [] => rfl
  | ⟨[], chosen, used⟩ :: stack =>
    rw [walk]
    show _ = (visitAll visit [chosen] state).andThen (walk visit stack)
    rw [visitAll]
    cases visit state chosen <;> rfl
  | ⟨(id, targets) :: rest, chosen, used⟩ :: stack =>
    rw [walk]
    rfl

lemma takenOff_succ (stack : List Frame) (n : ℕ) :
    takenOff stack (n + 1) = takenOff stack n ++ (iteration^[n] stack).head?.toList := by
  rw [takenOff, takenOff, List.range_succ, List.filterMap_append]
  cases h : (iteration^[n] stack).head? <;> simp [h]

/-- After so many iterations the loop has shown its consumer the total mappings among those that
they have taken off, and, unless the consumer has stopped, stands at the stack after them. -/
theorem walk_eq_iterate (stack : List Frame) (state : σ) (n : ℕ) :
    walk visit stack state =
      (visitAll visit ((takenOff stack n).filterMap Frame.total?) state).andThen
        (walk visit (iteration^[n] stack)) := by
  induction n with
  | zero => rfl
  | succ n ih =>
    rw [ih, takenOff_succ, List.filterMap_append, Function.iterate_succ_apply',
      funext (walk_eq_iteration visit (iteration^[n] stack)),
      funext (visitAll_append visit _ _), Visit.andThen_assoc]

end Loop

/-! ### The tree below a partial mapping -/

/-- The partial mappings that extend one, itself included, each before those that extend it
further. -/
def descendants : SearchOrder → Mapping → List Ident → List Frame
  | [], chosen, used => [⟨[], chosen, used⟩]
  | (id, targets) :: rest, chosen, used =>
    ⟨(id, targets) :: rest, chosen, used⟩ ::
      (targets.filter fun t => t ∉ used).flatMap fun t =>
        descendants rest (chosen.insert id t) (t :: used)

/-- The tree below a partial mapping on the stack. -/
def Frame.descendants (f : Frame) : List Frame :=
  PropertyGraph.descendants f.remaining f.chosen f.used

lemma Frame.descendants_eq (f : Frame) :
    f.descendants = f :: f.next.flatMap Frame.descendants := by
  obtain ⟨remaining, chosen, used⟩ := f
  cases remaining with
  | nil => rfl
  | cons e rest =>
    simp only [descendants, PropertyGraph.descendants, next, extensions, List.flatMap_map]

/-- An iteration drops the first partial mapping of the trees of a stack. -/
lemma flatMap_iteration (stack : List Frame) :
    (iteration stack).flatMap Frame.descendants = (stack.flatMap Frame.descendants).tail := by
  cases stack with
  | nil => rfl
  | cons f stack =>
    rw [iteration, List.flatMap_append, List.flatMap_cons, f.descendants_eq]
    rfl

lemma flatMap_iterate (stack : List Frame) (n : ℕ) :
    (iteration^[n] stack).flatMap Frame.descendants =
      (stack.flatMap Frame.descendants).drop n := by
  induction n with
  | zero => rfl
  | succ n ih =>
    rw [Function.iterate_succ_apply', flatMap_iteration, ih, List.tail_drop]

lemma head?_flatMap_descendants (stack : List Frame) :
    (stack.flatMap Frame.descendants).head? = stack.head? := by
  cases stack with
  | nil => rfl
  | cons f stack =>
    rw [List.flatMap_cons, f.descendants_eq]
    rfl

/-- The partial mappings are taken off in the order of the trees. -/
theorem head?_iterate (stack : List Frame) (n : ℕ) :
    (iteration^[n] stack).head? = (stack.flatMap Frame.descendants)[n]? := by
  rw [← head?_flatMap_descendants, flatMap_iterate, List.head?_drop]

/-- The loop ends after as many iterations as the trees have members. -/
lemma iterate_eq_nil_iff (stack : List Frame) (n : ℕ) :
    iteration^[n] stack = [] ↔ (stack.flatMap Frame.descendants).length ≤ n := by
  rw [← List.head?_eq_none_iff, head?_iterate, List.getElem?_eq_none_iff]

/-- The members of the tree below a partial mapping add distinct candidates that are not in use, one
for each of the next so many nodes. -/
theorem mem_descendants {order : SearchOrder} {chosen : Mapping} {used : List Ident} {f : Frame} :
    f ∈ descendants order chosen used ↔ ∃ d ≤ order.length, ∃ ts,
      List.Forall₂ (fun e t => t ∈ e.2) (order.take d) ts ∧ Free used ts ∧
        f = ⟨order.drop d, chosen.insertMany (((order.take d).map Prod.fst).zip ts),
          ts.reverse ++ used⟩ := by
  induction order generalizing chosen used with
  | nil =>
    rw [descendants, List.mem_singleton]
    constructor
    · rintro rfl
      exact ⟨0, le_rfl, [], .nil, rfl, rfl⟩
    · rintro ⟨d, -, ts, hall, -, rfl⟩
      rw [List.take_nil, List.forall₂_nil_left_iff] at hall
      rw [hall, List.take_nil, List.drop_nil]
      rfl
  | cons e rest ih =>
    obtain ⟨id, targets⟩ := e
    simp only [descendants, List.mem_cons, List.mem_flatMap, List.mem_filter, ih]
    constructor
    · rintro (rfl | ⟨t, ⟨htargets, ht⟩, d, hd, ts, hall, hfree, rfl⟩)
      · exact ⟨0, Nat.zero_le _, [], .nil, rfl, rfl⟩
      · refine ⟨d + 1, Nat.succ_le_succ hd, t :: ts, .cons htargets hall, ?_, ?_⟩
        · rw [free_cons, ht, hfree]
          rfl
        · rw [List.reverse_cons, List.append_assoc]
          rfl
    · rintro ⟨d, hd, ts, hall, hfree, rfl⟩
      cases d with
      | zero =>
        rw [List.take_zero, List.forall₂_nil_left_iff] at hall
        rw [hall]
        exact .inl rfl
      | succ d =>
        rw [List.take_succ_cons, List.forall₂_cons_left_iff] at hall
        obtain ⟨t, ts, htargets, hall, rfl⟩ := hall
        rw [free_cons, Bool.and_eq_true] at hfree
        refine .inr ⟨t, ⟨htargets, hfree.1⟩, d, Nat.le_of_succ_le_succ hd, ts, hall, hfree.2, ?_⟩
        rw [List.reverse_cons, List.append_assoc]
        rfl

/-- Where no candidate is listed twice, what is in use tells the members of a tree apart. -/
theorem nodup_used_descendants {order : SearchOrder} (h : ∀ e ∈ order, e.2.Nodup)
    (chosen : Mapping) (used : List Ident) :
    ((descendants order chosen used).map Frame.used).Nodup := by
  induction order generalizing chosen used with
  | nil => exact List.nodup_singleton _
  | cons e rest ih =>
    obtain ⟨id, targets⟩ := e
    rw [List.forall_mem_cons] at h
    -- what is in use below a candidate ends with it
    have hused {t : Ident} {us : List Ident}
        (hus : us ∈ (descendants rest (chosen.insert id t) (t :: used)).map Frame.used) :
        ∃ ts, us = ts ++ t :: used := by
      obtain ⟨f, hf, rfl⟩ := List.mem_map.1 hus
      obtain ⟨d, -, ts, -, -, rfl⟩ := mem_descendants.1 hf
      exact ⟨ts.reverse, rfl⟩
    rw [descendants, List.map_cons, List.map_flatMap, List.nodup_cons, List.nodup_flatMap]
    refine ⟨fun hmem => ?_, fun t _ => ih h.2 _ _, (h.1.filter _).imp fun htt' => ?_⟩
    · obtain ⟨t, -, hus⟩ := List.mem_flatMap.1 hmem
      obtain ⟨ts, hts⟩ := hused hus
      have hlength := congrArg List.length hts
      simp only [List.length_append, List.length_cons] at hlength
      omega
    · intro us hus hus'
      obtain ⟨ts, rfl⟩ := hused hus
      obtain ⟨ts', hts'⟩ := hused hus'
      exact htt' (List.cons.inj (List.append_inj' hts' rfl).2).1

/-! ### The shape of the stack -/

/-- How many candidates some nodes have beyond a first one. -/
def SearchOrder.surplus (order : SearchOrder) : ℕ :=
  (order.map fun e => e.2.length - 1).sum

lemma SearchOrder.surplus_cons (id : Ident) (targets : List Ident) (rest : SearchOrder) :
    surplus ((id, targets) :: rest) = (targets.length - 1) + surplus rest := by
  rw [surplus, List.map_cons, List.sum_cons]
  rfl

/-- Partial mappings lie on top of mappings that are no longer, and below each of them there are at
most as many as the nodes that it maps, among all nodes, have candidates beyond a first one. -/
inductive Stacked (order : SearchOrder) : List Frame → Prop
  | nil : Stacked order []
  | cons {f : Frame} {stack : List Frame}
    (below : ∀ g ∈ stack, f.remaining.length ≤ g.remaining.length)
    (room : stack.length + SearchOrder.surplus f.remaining ≤ order.surplus)
    (h : Stacked order stack) : Stacked order (f :: stack)

namespace Stacked

variable {order : SearchOrder} {stack : List Frame}

lemma start (order : SearchOrder) : Stacked order [.start order] :=
  .cons (by simp) (by simp [Frame.start]) .nil

/-- Mappings of the same nodes are put on top of the stack while there is room for all of them. -/
lemma append {rest : SearchOrder} {top : List Frame} (htop : ∀ f ∈ top, f.remaining = rest)
    (below : ∀ g ∈ stack, rest.length ≤ g.remaining.length)
    (room : top.length + stack.length + SearchOrder.surplus rest ≤ order.surplus + 1)
    (h : Stacked order stack) : Stacked order (top ++ stack) := by
  induction top with
  | nil => exact h
  | cons f top ih =>
    rw [List.forall_mem_cons] at htop
    obtain ⟨hf, htop⟩ := htop
    rw [List.length_cons] at room
    rw [List.cons_append]
    refine .cons (fun g hg => ?_) ?_ (ih htop (by omega))
    · rcases List.mem_append.1 hg with hg | hg
      · rw [hf, htop g hg]
      · exact hf ▸ below g hg
    · rw [hf, List.length_append]
      omega

/-- One iteration keeps the shape: the mapping that is taken off makes room for its extensions. -/
lemma iteration (h : Stacked order stack) : Stacked order (iteration stack) := by
  cases h with
  | nil => exact .nil
  | @cons f stack below room h =>
    obtain ⟨remaining, chosen, used⟩ := f
    cases remaining with
    | nil => exact h
    | cons e rest =>
      obtain ⟨id, targets⟩ := e
      have hextensions : ∀ f ∈ Frame.extensions chosen used id targets rest, f.remaining = rest :=
        List.forall_mem_map.2 fun _ _ => rfl
      have hlength : (Frame.extensions chosen used id targets rest).length ≤ targets.length := by
        rw [Frame.extensions, List.length_map]
        exact List.length_filter_le _ _
      rw [SearchOrder.surplus_cons] at room
      show Stacked order (Frame.extensions chosen used id targets rest ++ stack)
      refine append hextensions (fun g hg => ?_) (by omega) h
      exact (Nat.le_succ _).trans (below g hg)

/-- However many iterations have gone by, the stack has its shape. -/
theorem iterate (order : SearchOrder) (n : ℕ) :
    Stacked order (PropertyGraph.iteration^[n] [.start order]) := by
  induction n with
  | zero => exact start order
  | succ n ih =>
    rw [Function.iterate_succ_apply']
    exact ih.iteration

/-- Below come the shorter mappings. -/
lemma pairwise (h : Stacked order stack) :
    stack.Pairwise fun upper lower => upper.remaining.length ≤ lower.remaining.length := by
  induction h with
  | nil => exact .nil
  | cons below _ _ ih => exact .cons below ih

lemma length_le (h : Stacked order stack) : stack.length ≤ 1 + order.surplus := by
  cases h with
  | nil => exact Nat.zero_le _
  | cons _ room _ =>
    rw [List.length_cons]
    omega

end Stacked

/-! ### The search among the candidates of an index -/

namespace CandidateIndex

variable (index : CandidateIndex)

/-- The stack of the search after some iterations. -/
def stackAfter (n : ℕ) : List Frame := iteration^[n] [.start index.searchOrder]

/-- The number of nodes that a partial mapping on the stack maps. -/
def depth (f : Frame) : ℕ := index.searchOrder.length - f.remaining.length

/-- A mapping gives each of the first so many nodes in the order of the search one of its
candidates, no two the same. -/
structure IsPartialMapping (d : ℕ) (m : Mapping) : Prop where
  le_length : d ≤ index.searchOrder.length
  keys : m.keys = (index.searchOrder.map Prod.fst).take d
  injective : m.values.Nodup
  candidates : ∀ k t, m.find? k = some t → ∃ s, index.find? k = some s ∧ t ∈ s.toList

variable {index} {f : Frame} {m : Mapping} {d : ℕ}

/-- Candidates for the first nodes, put down for them, are the values of the mapping. -/
lemma keys_values_ofList_zip {ts : List Ident} (h : ts.length = (index.searchOrder.take d).length) :
    let m : Mapping := .ofList (((index.searchOrder.take d).map Prod.fst).zip ts)
    m.keys = (index.searchOrder.take d).map Prod.fst ∧ m.values = ts := by
  have hlength : ((index.searchOrder.take d).map Prod.fst).length = ts.length := by
    rw [List.length_map, h]
  have hnodup : ((index.searchOrder.take d).map Prod.fst).Nodup := by
    rw [List.map_take]
    exact (index.perm_keys_searchOrder.nodup_iff.2 index.nodup_keys).sublist
      (List.take_sublist _ _)
  refine (OrderedMap.entries_eq_zip_iff hlength).1 (OrderedMap.entries_ofList ?_)
  rwa [List.map_fst_zip (Nat.le_of_eq hlength)]

lemma isPartialMapping_iff : index.IsPartialMapping d m ↔ d ≤ index.searchOrder.length ∧ ∃ ts,
    List.Forall₂ (fun e t => t ∈ e.2) (index.searchOrder.take d) ts ∧ ts.Nodup ∧
      m = .ofList (((index.searchOrder.take d).map Prod.fst).zip ts) := by
  have horder : index.searchOrder.take d ⊆ index.searchOrder := List.take_subset _ _
  constructor
  · rintro ⟨hd, hkeys, hinj, hcandidates⟩
    rw [← List.map_take] at hkeys
    refine ⟨hd, m.values, (forall₂_searchOrder_iff horder hkeys).2 hcandidates, hinj, ?_⟩
    rw [← hkeys, m.zip_keys_values]
    exact OrderedMap.ext_entries (OrderedMap.entries_ofList m.nodup_keys).symm
  · rintro ⟨hd, ts, hall, hinj, rfl⟩
    obtain ⟨hkeys, hvalues⟩ := keys_values_ofList_zip hall.length_eq.symm
    exact ⟨hd, hkeys.trans List.map_take, hvalues.symm ▸ hinj,
      (forall₂_searchOrder_iff horder hkeys).1 (hvalues.symm ▸ hall)⟩

/-- The tree below the empty mapping consists of the partial mappings of all lengths. -/
theorem mem_descendants_start : f ∈ (Frame.start index.searchOrder).descendants ↔
    ∃ d, index.IsPartialMapping d f.chosen ∧ f.remaining = index.searchOrder.drop d ∧
      f.used = f.chosen.values.reverse := by
  rw [Frame.descendants, Frame.start, mem_descendants]
  refine exists_congr fun d => ?_
  constructor
  · rintro ⟨hd, ts, hall, hfree, rfl⟩
    have hvalues := (keys_values_ofList_zip hall.length_eq.symm).2
    rw [free_nil, decide_eq_true_iff] at hfree
    refine ⟨isPartialMapping_iff.2 ⟨hd, ts, hall, hfree, rfl⟩, rfl, ?_⟩
    rw [List.append_nil]
    exact congrArg List.reverse hvalues.symm
  · rintro ⟨hpartial, hremaining, hused⟩
    obtain ⟨hd, ts, hall, hnodup, hchosen⟩ := isPartialMapping_iff.1 hpartial
    have hvalues := (keys_values_ofList_zip hall.length_eq.symm).2
    refine ⟨hd, ts, hall, by rwa [free_nil, decide_eq_true_iff], ?_⟩
    obtain ⟨remaining, chosen, used⟩ := f
    simp only at hremaining hused hchosen
    rw [hremaining, hused, hchosen, hvalues, List.append_nil]
    rfl

/-- The partial mappings of all lengths, in the order of the tree. -/
def partialMappings (index : CandidateIndex) : List Mapping :=
  (Frame.start index.searchOrder).descendants.map Frame.chosen

lemma mem_partialMappings : m ∈ index.partialMappings ↔ ∃ d, index.IsPartialMapping d m := by
  rw [partialMappings, List.mem_map]
  constructor
  · rintro ⟨f, hf, rfl⟩
    obtain ⟨d, hpartial, -⟩ := mem_descendants_start.1 hf
    exact ⟨d, hpartial⟩
  · rintro ⟨d, hpartial⟩
    exact ⟨⟨index.searchOrder.drop d, m, m.values.reverse⟩,
      mem_descendants_start.2 ⟨d, hpartial, rfl, rfl⟩, rfl⟩

variable (index)

lemma nodup_partialMappings : index.partialMappings.Nodup := by
  have hcandidates : ∀ e ∈ index.searchOrder, e.2.Nodup := by
    intro e he
    obtain ⟨s, -, hs⟩ := mem_searchOrder.1 he
    exact hs ▸ s.nodup
  have hused : index.partialMappings.map (fun m => m.values.reverse) =
      (Frame.start index.searchOrder).descendants.map Frame.used := by
    rw [partialMappings, List.map_map]
    refine List.map_congr_left fun f hf => ?_
    obtain ⟨d, -, -, hf⟩ := mem_descendants_start.1 hf
    exact hf.symm
  refine List.Nodup.of_map (fun m : Mapping => m.values.reverse) ?_
  rw [hused]
  exact nodup_used_descendants hcandidates _ _

lemma head?_stackAfter (n : ℕ) :
    (index.stackAfter n).head?.map Frame.chosen = index.partialMappings[n]? := by
  rw [stackAfter, head?_iterate, List.flatMap_singleton, partialMappings, List.getElem?_map]

/-- A partial mapping is on the stack with the nodes that it does not map and the candidates that it
uses. -/
lemma isPartialMapping_of_mem_stackAfter {n : ℕ} (hf : f ∈ index.stackAfter n) :
    f.remaining = index.searchOrder.drop (index.depth f) ∧
      index.IsPartialMapping (index.depth f) f.chosen ∧
        ∀ t, t ∈ f.used ↔ t ∈ f.chosen.values := by
  have hmem : f ∈ (index.stackAfter n).flatMap Frame.descendants := by
    refine List.mem_flatMap.2 ⟨f, hf, ?_⟩
    rw [f.descendants_eq]
    exact List.mem_cons_self
  rw [stackAfter, flatMap_iterate, List.flatMap_singleton] at hmem
  obtain ⟨d, hpartial, hremaining, hused⟩ := mem_descendants_start.1 (List.mem_of_mem_drop hmem)
  have hdepth : index.depth f = d := by
    rw [depth, hremaining, List.length_drop]
    exact Nat.sub_sub_self hpartial.le_length
  rw [hdepth]
  refine ⟨hremaining, hpartial, fun t => ?_⟩
  rw [hused, List.mem_reverse]

lemma stackAfter_eq_nil_iff (n : ℕ) :
    index.stackAfter n = [] ↔ {m | ∃ d, index.IsPartialMapping d m}.encard ≤ n := by
  have hset : {m | ∃ d, index.IsPartialMapping d m} = index.partialMappings.toFinset := by
    ext m
    rw [Set.mem_ofPred_eq, ← mem_partialMappings, Finset.mem_coe, List.mem_toFinset]
  rw [stackAfter, iterate_eq_nil_iff, List.flatMap_singleton, hset,
    Set.encard_coe_eq_coe_finsetCard, List.toFinset_card_of_nodup index.nodup_partialMappings,
    partialMappings, List.length_map, Nat.cast_le]

lemma surplus_searchOrder :
    index.searchOrder.surplus = (index.values.map fun s => s.size - 1).sum := by
  rw [SearchOrder.surplus, (index.perm_searchOrder.map _).sum_eq, OrderedMap.values, List.map_map,
    List.map_map]
  rfl

/-- The loop goes from stack to stack, showing its consumer the total mappings that it takes off.
Everything on a stack is a partial mapping of the first so many nodes, with the candidates that it
uses, and longer mappings lie on top of shorter ones.  Each partial mapping is taken off in exactly
one iteration, and after as many iterations as there are partial mappings the stack is empty.  It
never holds more than one mapping more than all nodes together have candidates beyond a first one,
even if some node has none at all. -/
theorem loop_takes_partialMappings_once :
    (∀ {σ ρ : Type} (visit : σ → Mapping → Visit σ ρ) (state : σ) (n : ℕ),
      index.forMappings visit state =
        (visitAll visit ((takenOff [.start index.searchOrder] n).filterMap Frame.total?)
          state).andThen (walk visit (index.stackAfter n))) ∧
    (∀ n, ∀ f ∈ index.stackAfter n,
      f.remaining = index.searchOrder.drop (index.depth f) ∧
        index.IsPartialMapping (index.depth f) f.chosen ∧
          ∀ t, t ∈ f.used ↔ t ∈ f.chosen.values) ∧
    (∀ n, (index.stackAfter n).Pairwise fun upper lower =>
      index.depth lower ≤ index.depth upper) ∧
    (∀ d m, index.IsPartialMapping d m →
      ∃! n, (index.stackAfter n).head?.map Frame.chosen = some m) ∧
    (∀ n, index.stackAfter n = [] ↔ {m | ∃ d, index.IsPartialMapping d m}.encard ≤ n) ∧
    ∀ n, (index.stackAfter n).length ≤ 1 + (index.values.map fun s => s.size - 1).sum := by
  refine ⟨fun visit state n => walk_eq_iterate visit _ state n,
    fun n f hf => index.isPartialMapping_of_mem_stackAfter hf, fun n => ?_, fun d m hm => ?_,
    index.stackAfter_eq_nil_iff, fun n => ?_⟩
  · exact (Stacked.iterate index.searchOrder n).pairwise.imp fun h => Nat.sub_le_sub_left h _
  · obtain ⟨n, hn, hnm⟩ := List.getElem_of_mem (mem_partialMappings.2 ⟨d, hm⟩)
    have hat : index.partialMappings[n]? = some m := hnm ▸ List.getElem?_eq_getElem hn
    refine ⟨n, (index.head?_stackAfter n).trans hat, fun k hk => ?_⟩
    have hk := (index.head?_stackAfter k).symm.trans hk
    exact ((List.getElem?_inj hn index.nodup_partialMappings).1 (hat.trans hk.symm)).symm
  · rw [← surplus_searchOrder]
    exact (Stacked.iterate index.searchOrder n).length_le

-- two nodes with two and three candidates; after two iterations no room is left
example : (stackAfter (.ofList [(.int 1, .ofList [.int 5, .int 6, .int 7]),
    (.int 2, .ofList [.int 8, .int 9])]) 2).length = 1 + (2 + 1) := by
  cbv

end CandidateIndex

end PropertyGraph
