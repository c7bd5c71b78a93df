/-
# Choices in lexicographic order

A choice takes one member from each of several lists.  `choices` lists all choices, the member of
the first list varying slowest.  Nothing but choices is in the list and no choice is missing
(`mem_choices`); a choice stands before another exactly as the two compare at the first list where
they differ (`pairwise_choices`), so lists without repetitions give choices without repetitions.
-/
import Mathlib.Data.List.Forall2
import Mathlib.Data.List.Nodup
import Mathlib.Tactic.Lemma

namespace PropertyGraph

variable {α : Type}

/-- All choices of one member from each list; those that begin with the same member stand
together. -/
def choices : List (List α) → List (List α)
  | [] => [[]]
  | xs :: xss => xs.flatMap fun x => (choices xss).map (x :: ·)

@[simp] lemma choices_nil : choices ([] : List (List α)) = [[]] := rfl

@[simp] lemma choices_cons (xs : List α) (xss : List (List α)) :
    choices (xs :: xss) = xs.flatMap fun x => (choices xss).map (x :: ·) := rfl

/-- The choices are the lists that agree with the given lists member by member. -/
theorem mem_choices {xss : List (List α)} {s : List α} :
    s ∈ choices xss ↔ List.Forall₂ (fun xs x => x ∈ xs) xss s := by
  induction xss generalizing s with
  | nil => simp
  | cons xs xss ih =>
    simp only [choices_cons, List.mem_flatMap, List.mem_map, List.forall₂_cons_left_iff, ih]
    constructor
    · rintro ⟨x, hx, s, hs, rfl⟩
      exact ⟨x, s, hx, hs, rfl⟩
    · rintro ⟨x, s, hx, hs, rfl⟩
      exact ⟨x, hx, s, hs, rfl⟩

/-- A choice comes before another when, at the first list where the two differ, its member stands
before the member of the other. -/
inductive ChosenBefore : List (List α) → List α → List α → Prop
  /-- The choices differ at the first list. -/
  | head {xs : List α} {xss : List (List α)} {x y : α} (s t : List α) (h : [x, y].Sublist xs) :
    ChosenBefore (xs :: xss) (x :: s) (y :: t)
  /-- The choices agree at the first list. -/
  | tail {xss : List (List α)} {s t : List α} (xs : List α) (x : α) (h : ChosenBefore xss s t) :
    ChosenBefore (xs :: xss) (x :: s) (x :: t)

/-- In lists without repetitions a choice that comes before another differs from it. -/
lemma ChosenBefore.ne {xss : List (List α)} {s t : List α} (h : ChosenBefore xss s t)
    (hxss : ∀ xs ∈ xss, xs.Nodup) : s ≠ t := by
  induction h with
  | head s t hxy =>
    intro heq
    obtain ⟨rfl, -⟩ := List.cons.inj heq
    exact List.nodup_iff_sublist.1 (hxss _ List.mem_cons_self) _ hxy
  | tail xs x _ ih =>
    intro heq
    exact ih (fun ys hys => hxss ys (List.mem_cons_of_mem _ hys)) (List.cons.inj heq).2

/-- The choices are listed in lexicographic order. -/
theorem pairwise_choices (xss : List (List α)) : (choices xss).Pairwise (ChosenBefore xss) := by
  induction xss with
  | nil => simp
  | cons xs xss ih =>
    rw [choices_cons, List.pairwise_flatMap]
    constructor
    · intro x _
      exact ih.map _ fun s t h => .tail xs x h
    · refine List.pairwise_iff_forall_sublist.2 fun hxy => ?_
      simp only [List.mem_map]
      rintro _ ⟨s, -, rfl⟩ _ ⟨t, -, rfl⟩
      exact .head s t hxy

/-- Lists without repetitions give choices without repetitions. -/
theorem nodup_choices {xss : List (List α)} (hxss : ∀ xs ∈ xss, xs.Nodup) :
    (choices xss).Nodup :=
  (pairwise_choices xss).imp fun h => h.ne hxss

end PropertyGraph
