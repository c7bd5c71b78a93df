/-
# Enumeration of mappings

A mapping gives every expected node one of its candidates, no candidate being given twice.  The
mappings are enumerated depth first: expected nodes with few candidates come first, candidates are
tried in their order, and a candidate already in use is passed over at once.  A candidate that is
listed twice is tried twice; the candidates of an index are sets, so there it does not happen.

The enumeration is a loop over a stack of partial mappings (`walk`), so that a consumer can stop it
at any mapping.  `mappings` is the list of all mappings by recursion over the expected nodes; it
says what the loop goes through.
-/
import PropertyGraph.Candidates

namespace PropertyGraph

/-- A mapping of expected nodes to actual nodes, in the order of the search. -/
abbrev Mapping := OrderedMap Ident Ident

/-- Expected nodes with their candidates, in the order in which they are mapped. -/
abbrev SearchOrder := List (Ident × List Ident)

/-- The order of a search among some candidates: few of them first, ties in the order of the
index. -/
def SearchOrder.ofCandidates (candidates : OrderedMap Ident (List Ident)) : SearchOrder :=
  candidates.entries.mergeSort fun a b => a.2.length ≤ b.2.length

/-- The order of a search among the candidates of an index. -/
def CandidateIndex.searchOrder (index : CandidateIndex) : SearchOrder :=
  .ofCandidates (index.mapEntries fun _ targets => targets.toList)

/-- A partial mapping on the stack. -/
structure Frame where
  /-- The expected nodes that are still to be mapped. -/
  remaining : SearchOrder
  /-- The mapping so far. -/
  chosen : Mapping
  /-- The actual nodes in use. -/
  used : List Ident

namespace Frame

/-- The empty mapping. -/
def start (order : SearchOrder) : Frame := ⟨order, .empty, []⟩

/-- The extensions of a partial mapping by the next expected node, one for each of its candidates
that is not in use. -/
def extensions (chosen : Mapping) (used : List Ident) (id : Ident) (targets : List Ident)
    (rest : SearchOrder) : List Frame :=
  (targets.filter fun t => t ∉ used).map fun t => ⟨rest, chosen.insert id t, t :: used⟩

end Frame

/-! ### Termination -/

/-- A bound on the number of partial mappings that extend one with these nodes still to map. -/
def SearchOrder.weight : SearchOrder → Nat
  | [] => 1
  | (_, targets) :: rest => 1 + targets.length * weight rest

/-- The bound, for all partial mappings on a stack together. -/
def stackWeight : List Frame → Nat
  | [] => 0
  | f :: stack => SearchOrder.weight f.remaining + stackWeight stack

@[simp] theorem stackWeight_cons (f : Frame) (stack : List Frame) :
    stackWeight (f :: stack) = SearchOrder.weight f.remaining + stackWeight stack := rfl

@[simp] theorem stackWeight_append (s t : List Frame) :
    stackWeight (s ++ t) = stackWeight s + stackWeight t := by
  induction s with
  | nil => simp [stackWeight]
  | cons f s ih => simp [ih, Nat.add_assoc]

/-- Partial mappings with the same nodes still to map weigh the same. -/
theorem stackWeight_of_remaining {rest : SearchOrder} {stack : List Frame}
    (h : ∀ f ∈ stack, f.remaining = rest) :
    stackWeight stack = stack.length * SearchOrder.weight rest := by
  induction stack with
  | nil => simp [stackWeight]
  | cons f stack ih =>
    simp only [stackWeight_cons, List.length_cons, Nat.add_mul, Nat.one_mul,
      ih fun g hg => h g (List.mem_cons_of_mem _ hg), h f List.mem_cons_self]
    exact Nat.add_comm _ _

/-- The extensions of a partial mapping weigh less than it does. -/
theorem stackWeight_extensions_lt (chosen : Mapping) (used : List Ident) (id : Ident)
    (targets : List Ident) (rest : SearchOrder) :
    stackWeight (Frame.extensions chosen used id targets rest) <
      SearchOrder.weight ((id, targets) :: rest) := by
  have hsum : stackWeight (Frame.extensions chosen used id targets rest) =
      (targets.filter fun t => t ∉ used).length * SearchOrder.weight rest := by
    have hrest : ∀ f ∈ Frame.extensions chosen used id targets rest, f.remaining = rest := by
      simp only [Frame.extensions, List.mem_map]
      rintro f ⟨t, -, rfl⟩
      rfl
    simpa [Frame.extensions] using stackWeight_of_remaining hrest
  have hle := Nat.mul_le_mul_right (SearchOrder.weight rest)
    (List.length_filter_le (fun t => decide (t ∉ used)) targets)
  simp only [SearchOrder.weight]
  omega

/-! ### The loop -/

/-- What a consumer of mappings does with one: go on with a new state, or stop with a result. -/
inductive Visit (σ ρ : Type)
  | next (state : σ)
  | stop (result : ρ)

/-- Takes partial mappings off the stack until it is empty or the consumer stops: a total mapping
is shown to the consumer, any other is replaced by its extensions, the first candidate on top. -/
def walk {σ ρ : Type} (visit : σ → Mapping → Visit σ ρ) (stack : List Frame) (state : σ) :
    Visit σ ρ :=
  match stack with
  | [] => .next state
  | ⟨[], chosen, _⟩ :: stack =>
    match visit state chosen with
    | .next state => walk visit stack state
    | .stop result => .stop result
  | ⟨(id, targets) :: rest, chosen, used⟩ :: stack =>
    walk visit (Frame.extensions chosen used id targets rest ++ stack) state
termination_by stackWeight stack
decreasing_by
  · simp [SearchOrder.weight]
  · simp only [stackWeight_append, stackWeight_cons]
    exact Nat.add_lt_add_right (stackWeight_extensions_lt chosen used id targets rest) _

namespace SearchOrder

/-- Shows the mappings of a search to a consumer, one after another. -/
def forMappings {σ ρ : Type} (order : SearchOrder) (visit : σ → Mapping → Visit σ ρ) (state : σ) :
    Visit σ ρ :=
  walk visit [.start order] state

/-- The number of mappings. -/
def countMappings (order : SearchOrder) : Nat :=
  match order.forMappings (ρ := Empty) (fun n _ => .next (n + 1)) 0 with
  | .next n => n

/-- The mappings, in order. -/
def allMappings (order : SearchOrder) : List Mapping :=
  match order.forMappings (ρ := Empty) (fun ms m => .next (m :: ms)) [] with
  | .next ms => ms.reverse

/-- Collects mappings, the latest first, and stops at the last of those that are still wanted. -/
def takeMapping (wanted : Nat × List Mapping) (m : Mapping) :
    Visit (Nat × List Mapping) (List Mapping) :=
  if wanted.1 ≤ 1 then .stop (m :: wanted.2) else .next (wanted.1 - 1, m :: wanted.2)

/-- The first `limit` mappings, in order; no mapping beyond them is looked for. -/
def firstMappings (order : SearchOrder) (limit : Nat) : List Mapping :=
  if limit = 0 then []
  else match order.forMappings takeMapping (limit, []) with
    | .next wanted => wanted.2.reverse
    | .stop ms => ms.reverse

end SearchOrder

namespace CandidateIndex

/-- Shows the mappings of an index to a consumer, one after another. -/
def forMappings {σ ρ : Type} (index : CandidateIndex) (visit : σ → Mapping → Visit σ ρ)
    (state : σ) : Visit σ ρ :=
  index.searchOrder.forMappings visit state

/-- The number of mappings. -/
def countMappings (index : CandidateIndex) : Nat := index.searchOrder.countMappings

/-- The mappings, in order. -/
def allMappings (index : CandidateIndex) : List Mapping := index.searchOrder.allMappings

/-- The first `limit` mappings, in order. -/
def firstMappings (index : CandidateIndex) (limit : Nat) : List Mapping :=
  index.searchOrder.firstMappings limit

end CandidateIndex

/-! ### The list of all mappings -/

/-- The total mappings that extend a partial one. -/
def completions : SearchOrder → Mapping → List Ident → List Mapping
  | [], chosen, _ => [chosen]
  | (id, targets) :: rest, chosen, used =>
    (targets.filter fun t => t ∉ used).flatMap fun t =>
      completions rest (chosen.insert id t) (t :: used)

/-- All mappings of an index. -/
def CandidateIndex.mappings (index : CandidateIndex) : List Mapping :=
  completions index.searchOrder .empty []

end PropertyGraph
