/-
# Finite sets of names

Labels, relationship types and property keys form finite sets of names.  A set is kept as the
ascending list of its members, so equal sets are equal lists and the members come out in order.
Names are ordered by the code points of their characters.
-/
namespace PropertyGraph

/-- A finite set of names. -/
structure NameSet where
  /-- The members in ascending order. -/
  toList : List String
  /-- The members ascend strictly. -/
  ascending : toList.Pairwise (· < ·)
deriving DecidableEq

namespace NameSet

/-- The set without members. -/
def empty : NameSet := ⟨[], .nil⟩

instance : Inhabited NameSet := ⟨empty⟩

instance : Membership String NameSet := ⟨fun s x => x ∈ s.toList⟩

instance (x : String) (s : NameSet) : Decidable (x ∈ s) :=
  inferInstanceAs (Decidable (x ∈ s.toList))

/-- A name put into its place in an ascending list; a name that is present stays single. -/
def insertSorted (x : String) : List String → List String
  | [] => [x]
  | y :: ys => if x < y then x :: y :: ys else if x = y then y :: ys else y :: insertSorted x ys

theorem mem_insertSorted {x z : String} {ys : List String} :
    z ∈ insertSorted x ys ↔ z = x ∨ z ∈ ys := by
  induction ys with
  | nil => simp [insertSorted]
  | cons y ys ih =>
    simp only [insertSorted]
    split
    · simp
    · split
      · subst_vars; simp
      · simp only [List.mem_cons, ih]
        exact or_left_comm

theorem pairwise_insertSorted {x : String} {ys : List String} (h : ys.Pairwise (· < ·)) :
    (insertSorted x ys).Pairwise (· < ·) := by
  induction ys with
  | nil => simp [insertSorted]
  | cons y ys ih =>
    have hy := List.pairwise_cons.1 h
    simp only [insertSorted]
    split
    · next hxy =>
      refine List.pairwise_cons.2 ⟨fun z hz => ?_, h⟩
      rcases List.mem_cons.1 hz with rfl | hz
      · exact hxy
      · exact String.lt_trans hxy (hy.1 z hz)
    · split
      · exact h
      · next hxy hne =>
        refine List.pairwise_cons.2 ⟨fun z hz => ?_, ih hy.2⟩
        rcases mem_insertSorted.1 hz with rfl | hz
        · exact Std.lt_of_le_of_ne (Std.not_lt.1 hxy) (Ne.symm hne)
        · exact hy.1 z hz

/-- A name put into a set. -/
def insert (s : NameSet) (x : String) : NameSet :=
  ⟨insertSorted x s.toList, pairwise_insertSorted s.ascending⟩

/-- The set of the names in a list. -/
def ofList (xs : List String) : NameSet := xs.foldl insert empty

/-- The number of members. -/
def size (s : NameSet) : Nat := s.toList.length

/-- The first member, unless the set is empty. -/
def first? (s : NameSet) : Option String := s.toList.head?

theorem mem_insert {s : NameSet} {x z : String} : z ∈ s.insert x ↔ z = x ∨ z ∈ s :=
  mem_insertSorted

/-- A set of names has the members of the list it was made from. -/
theorem mem_ofList {xs : List String} {z : String} : z ∈ ofList xs ↔ z ∈ xs := by
  suffices h : ∀ s : NameSet, z ∈ xs.foldl insert s ↔ z ∈ s ∨ z ∈ xs by
    exact (h empty).trans (or_iff_right List.not_mem_nil)
  induction xs with
  | nil => simp
  | cons x xs ih =>
    intro s
    simp only [List.foldl_cons, ih, mem_insert, List.mem_cons]
    exact or_assoc.trans or_left_comm

end NameSet

end PropertyGraph
