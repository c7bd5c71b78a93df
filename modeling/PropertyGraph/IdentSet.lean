/-
# Finite sets of identifiers

A finite set of identifiers that remembers the order in which its members were added; this is the
order in which a search tries them.
-/
import PropertyGraph.Element

namespace PropertyGraph

/-- A finite set of identifiers. -/
structure IdentSet where
  /-- The members, in the order in which they were added. -/
  toList : List Ident
  /-- Members occur once. -/
  nodup : toList.Nodup
deriving DecidableEq

namespace IdentSet

/-- The set without members. -/
def empty : IdentSet := ⟨[], .nil⟩

instance : Inhabited IdentSet := ⟨empty⟩

instance : Membership Ident IdentSet := ⟨fun s x => x ∈ s.toList⟩

instance (x : Ident) (s : IdentSet) : Decidable (x ∈ s) :=
  inferInstanceAs (Decidable (x ∈ s.toList))

/-- An identifier added at the end, unless it is a member already. -/
def insert (s : IdentSet) (x : Ident) : IdentSet :=
  if h : x ∈ s.toList then s
  else
    { toList := s.toList ++ [x]
      nodup := by
        refine List.nodup_append.2 ⟨s.nodup, by simp, ?_⟩
        rintro a ha b hb rfl
        exact h (List.mem_singleton.1 hb ▸ ha) }

/-- The set of the identifiers in a list. -/
def ofList (xs : List Ident) : IdentSet := xs.foldl insert empty

/-- The number of members. -/
def size (s : IdentSet) : Nat := s.toList.length

/-- The members in ascending order. -/
def sorted (s : IdentSet) : List Ident := s.toList.mergeSort Ident.before

theorem mem_insert {s : IdentSet} {x z : Ident} : z ∈ s.insert x ↔ z ∈ s ∨ z = x := by
  show z ∈ (s.insert x).toList ↔ z ∈ s.toList ∨ z = x
  unfold insert
  split
  · next hx => exact ⟨Or.inl, fun h => h.elim id fun hz => hz ▸ hx⟩
  · simp

/-- A set of identifiers has the members of the list it was made from. -/
theorem mem_ofList {xs : List Ident} {z : Ident} : z ∈ ofList xs ↔ z ∈ xs := by
  suffices h : ∀ s : IdentSet, z ∈ xs.foldl insert s ↔ z ∈ s ∨ z ∈ xs by
    exact (h empty).trans (or_iff_right List.not_mem_nil)
  induction xs with
  | nil => simp
  | cons x xs ih =>
    intro s
    simp only [List.foldl_cons, ih, mem_insert, List.mem_cons]
    exact or_assoc

end IdentSet

/-- An order in which the members of the set of every identifier are gone through.  It may depend on
the identifier and on the order in which the members were added. -/
structure Arrangement where
  /-- The set of an identifier with its members put in order. -/
  arrange : Ident → IdentSet → IdentSet
  /-- No member is lost or added. -/
  perm : ∀ id s, (arrange id s).toList.Perm s.toList

/-- Members are gone through in the order in which they were added. -/
def Arrangement.asAdded : Arrangement := ⟨fun _ s => s, fun _ _ => .refl _⟩

end PropertyGraph
