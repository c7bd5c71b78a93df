/-
# Labels between colons

A colon between two texts keeps their labels apart (`colonParts_append_colon`), and everything about
labels between colons follows from this one equation: colons at the ends of a text and colons next
to each other add nothing, so labels that are joined by colons are read back in their order, however
many colons there are besides (`colonParts_paddedJoin`).
-/
import Mathlib.Tactic.Lemma
import PropertyGraph.Network.Snapshot

namespace PropertyGraph

/-- A text of colons. -/
def colons (n : Nat) : String := String.ofList (List.replicate n ':')

/-- Names joined by colons, with more colons in front of each of them and at the end. -/
def paddedJoin (names : List (Nat × String)) (trailing : Nat) : String :=
  ":".intercalate (names.map fun p => colons p.1 ++ p.2) ++ colons trailing

lemma colons_succ (n : Nat) : colons (n + 1) = ":" ++ colons n := by
  rw [colons, List.replicate_succ, ← List.singleton_append, String.ofList_append]
  rfl

/-! ### Parts -/

lemma colonParts_empty : colonParts "" = [] := rfl

/-- A colon separates the labels on its two sides. -/
theorem colonParts_append_colon (s t : String) :
    colonParts (s ++ ":" ++ t) = colonParts s ++ colonParts t := by
  have hlist : (s ++ ":" ++ t).toList = s.toList ++ ':' :: t.toList := by
    simp
  rw [colonParts, hlist, List.splitOn, List.splitOnP_append_cons _ _ (by decide),
    List.filter_append, List.map_append]
  rfl

/-- A name without colons is its only label. -/
lemma colonParts_name {name : String} (h : name ≠ "" ∧ ':' ∉ name.toList) :
    colonParts name = [name] := by
  have hsplit : name.toList.splitOn ':' = [name.toList] := by
    refine List.splitOnP_eq_singleton fun c hc => beq_eq_false_iff_ne.2 ?_
    rintro rfl
    exact h.2 hc
  have hne : name.toList ≠ [] := by simpa using h.1
  rw [colonParts, hsplit, List.filter_cons_of_pos (by simpa using hne), List.filter_nil,
    List.map_singleton, String.ofList_toList]

/-- No part of a list that is split contains what it is split at. -/
lemma notMem_of_mem_splitOn {cs part : List Char} (h : part ∈ cs.splitOn ':') : ':' ∉ part := by
  induction cs generalizing part with
  | nil =>
    obtain rfl := List.mem_singleton.1 h
    exact List.not_mem_nil
  | cons c cs ih =>
    obtain ⟨first, parts, hparts⟩ := List.exists_cons_of_ne_nil
      (List.splitOnP_ne_nil (fun x => x == ':') cs)
    have hsplit : cs.splitOn ':' = first :: parts := hparts
    rw [hsplit] at ih
    rw [List.splitOn, List.splitOnP_cons_eq_if_modifyHead, hparts] at h
    split at h
    · rcases List.mem_cons.1 h with rfl | h
      · exact List.not_mem_nil
      · exact ih h
    · next hc =>
      -- the character goes to the first of the other parts
      rcases List.mem_cons.1 h with rfl | h
      · rw [List.mem_cons, not_or]
        exact ⟨fun heq => hc (beq_iff_eq.2 heq.symm), ih List.mem_cons_self⟩
      · exact ih (List.mem_cons_of_mem _ h)

/-- Labels are neither empty nor contain a colon. -/
theorem mem_colonParts {s name : String} (h : name ∈ colonParts s) :
    name ≠ "" ∧ ':' ∉ name.toList := by
  obtain ⟨part, hpart, rfl⟩ := List.mem_map.1 h
  obtain ⟨hpart, hne⟩ := List.mem_filter.1 hpart
  rw [String.toList_ofList]
  exact ⟨by simpa using hne, notMem_of_mem_splitOn hpart⟩

/-! ### Colons that add nothing -/

lemma colonParts_colons_append (n : Nat) (s : String) :
    colonParts (colons n ++ s) = colonParts s := by
  induction n with
  | zero => exact congrArg colonParts String.empty_append
  | succ n ih =>
    rw [colons_succ, String.append_assoc, ← String.empty_append (s := ":" ++ _),
      ← String.append_assoc, colonParts_append_colon, ih]
    rfl

lemma colonParts_append_colons (s : String) (n : Nat) :
    colonParts (s ++ colons n) = colonParts s := by
  have hcolons (n : Nat) : colonParts (colons n) = [] := by
    rw [← String.append_empty (s := colons n), colonParts_colons_append, colonParts_empty]
  cases n with
  | zero => exact congrArg colonParts String.append_empty
  | succ n =>
    rw [colons_succ, ← String.append_assoc, colonParts_append_colon, hcolons, List.append_nil]

/-! ### Joining -/

/-- Texts that are joined by colons have the labels of all of them, in order. -/
lemma colonParts_intercalate_eq_flatMap (ss : List String) :
    colonParts (":".intercalate ss) = ss.flatMap colonParts := by
  induction ss with
  | nil => rfl
  | cons s ss ih =>
    cases ss with
    | nil => rw [String.intercalate_singleton, List.flatMap_singleton]
    | cons t ss =>
      rw [String.intercalate_cons_cons, colonParts_append_colon, ih]
      rfl

/-- Names without colons are their own labels. -/
lemma flatMap_colonParts {names : List String} (h : ∀ s ∈ names, s ≠ "" ∧ ':' ∉ s.toList) :
    names.flatMap colonParts = names := by
  induction names with
  | nil => rfl
  | cons s names ih =>
    rw [List.forall_mem_cons] at h
    rw [List.flatMap_cons, colonParts_name h.1, ih h.2, List.singleton_append]

/-- Labels without colons come back from between colons. -/
lemma colonParts_intercalate {names : List String} (h : ∀ s ∈ names, s ≠ "" ∧ ':' ∉ s.toList) :
    colonParts (":".intercalate names) = names := by
  rw [colonParts_intercalate_eq_flatMap, flatMap_colonParts h]

/-- Labels joined by colons are read back, however many colons there are besides. -/
theorem colonParts_paddedJoin {names : List (Nat × String)}
    (h : ∀ p ∈ names, p.2 ≠ "" ∧ ':' ∉ p.2.toList) (trailing : Nat) :
    colonParts (paddedJoin names trailing) = names.map Prod.snd := by
  have hnames : ∀ s ∈ names.map Prod.snd, s ≠ "" ∧ ':' ∉ s.toList := List.forall_mem_map.2 h
  rw [paddedJoin, colonParts_append_colons, colonParts_intercalate_eq_flatMap, List.flatMap_map,
    ← flatMap_colonParts hnames, List.flatMap_map]
  simp only [colonParts_colons_append]

end PropertyGraph
