/-
# Maps in insertion order

A finite map kept as the list of its entries in the order in which their keys were first
inserted.  Writing to a key that is present replaces the value where it stands; a new key goes to
the end.  Keys are compared by `==`, which need not be equality: no two keys of a map are `==`,
and a map keeps the key it was first given.
-/
namespace PropertyGraph

/-- A finite map in insertion order. -/
structure OrderedMap (κ : Type) (α : Type) [BEq κ] where
  /-- The entries, the oldest key first. -/
  entries : List (κ × α)
  /-- Keys occur once. -/
  distinct : entries.Pairwise fun a b => (a.1 == b.1) = false

namespace OrderedMap

variable {κ α β : Type} [BEq κ]

instance [DecidableEq κ] [DecidableEq α] : DecidableEq (OrderedMap κ α) := fun m n =>
  if h : m.entries = n.entries then
    isTrue (by cases m; cases n; simp only at h; subst h; rfl)
  else isFalse fun hmn => h (congrArg OrderedMap.entries hmn)

/-- The map without entries. -/
def empty : OrderedMap κ α := ⟨[], .nil⟩

instance : Inhabited (OrderedMap κ α) := ⟨empty⟩

/-- The keys, the oldest first. -/
def keys (m : OrderedMap κ α) : List κ := m.entries.map Prod.fst

/-- The number of entries. -/
def size (m : OrderedMap κ α) : Nat := m.entries.length

/-- The value at a key. -/
def find? (m : OrderedMap κ α) (k : κ) : Option α :=
  (m.entries.find? fun e => e.1 == k).map Prod.snd

/-- Whether a key is present. -/
def contains (m : OrderedMap κ α) (k : κ) : Bool := m.entries.any fun e => e.1 == k

/-- Every value replaced, the keys staying as they are. -/
def mapEntries (m : OrderedMap κ α) (f : κ → α → β) : OrderedMap κ β where
  entries := m.entries.map fun e => (e.1, f e.1 e.2)
  distinct := m.distinct.map _ fun _ _ h => h

/-- A value written at a key. -/
def insert (m : OrderedMap κ α) (k : κ) (v : α) : OrderedMap κ α :=
  if h : m.contains k then m.mapEntries fun k' v' => if k' == k then v else v'
  else
    { entries := m.entries ++ [(k, v)]
      distinct := by
        refine List.pairwise_append.2 ⟨m.distinct, .cons (by simp) .nil, ?_⟩
        intro a ha b hb
        simp only [List.mem_singleton] at hb
        subst hb
        simp only [contains, List.any_eq_true, not_exists, not_and] at h
        exact Bool.eq_false_iff.2 (h a ha) }

/-- A key taken out. -/
def erase (m : OrderedMap κ α) (k : κ) : OrderedMap κ α where
  entries := m.entries.filter fun e => !(e.1 == k)
  distinct := m.distinct.filter _

/-- Entries written one after another. -/
def insertMany (m : OrderedMap κ α) (entries : List (κ × α)) : OrderedMap κ α :=
  entries.foldl (fun m e => m.insert e.1 e.2) m

/-- The map that a list of entries writes. -/
def ofList (entries : List (κ × α)) : OrderedMap κ α := empty.insertMany entries

/-- The entry that was inserted last, and the map without it. -/
def popLast (m : OrderedMap κ α) : Option (κ × α) × OrderedMap κ α :=
  (m.entries.getLast?, ⟨m.entries.dropLast, m.distinct.sublist (List.dropLast_sublist _)⟩)

@[simp] theorem entries_empty : (empty : OrderedMap κ α).entries = [] := rfl

@[simp] theorem entries_mapEntries (m : OrderedMap κ α) (f : κ → α → β) :
    (m.mapEntries f).entries = m.entries.map fun e => (e.1, f e.1 e.2) := rfl

@[simp] theorem keys_mapEntries (m : OrderedMap κ α) (f : κ → α → β) :
    (m.mapEntries f).keys = m.keys := by
  simp [keys, Function.comp_def]

/-- Writing to a key that is present keeps the keys; a new key goes to the end. -/
theorem keys_insert (m : OrderedMap κ α) (k : κ) (v : α) :
    (m.insert k v).keys = if m.contains k then m.keys else m.keys ++ [k] := by
  unfold insert
  split <;> simp_all [keys, Function.comp_def]

variable [LawfulBEq κ]

theorem contains_iff {m : OrderedMap κ α} {k : κ} : m.contains k = true ↔ k ∈ m.keys := by
  simp [contains, keys]

/-- Keys occur once. -/
theorem nodup_keys (m : OrderedMap κ α) : m.keys.Nodup :=
  List.pairwise_map.2 (m.distinct.imp fun h => ne_of_beq_false h)

/-- The entry that a search for a key finds has this key. -/
theorem key_of_find? {m : OrderedMap κ α} {k : κ} {e : κ × α}
    (h : m.entries.find? (fun e => e.1 == k) = some e) : e.1 = k := by
  have hk := List.find?_some h
  exact beq_iff_eq.1 hk

/-- A written value is found at its key, and all other keys find what they found before. -/
theorem find?_insert (m : OrderedMap κ α) (k j : κ) (v : α) :
    (m.insert k v).find? j = if k == j then some v else m.find? j := by
  unfold insert
  split
  · next hk =>
    simp only [find?, entries_mapEntries, List.find?_map, Function.comp_def, Option.map_map]
    by_cases hj : k = j
    · subst hj
      obtain ⟨e, he⟩ := Option.isSome_iff_exists.1 (List.find?_isSome.2 (List.any_eq_true.1 hk))
      simp [he, key_of_find? he]
    · cases he : m.entries.find? fun e => e.1 == j with
      | none => simp [hj]
      | some e => simp [hj, key_of_find? he, Ne.symm hj]
  · next hk =>
    simp only [find?, List.find?_append]
    by_cases hj : k = j
    · subst hj
      have hnone : (m.entries.find? fun e => e.1 == k) = none :=
        List.find?_eq_none.2 fun e he hek => hk (List.any_eq_true.2 ⟨e, he, hek⟩)
      simp [hnone]
    · cases m.entries.find? fun e => e.1 == j <;> simp [hj]

end OrderedMap

end PropertyGraph
