/-
# What values hold

A text may be given as it stands, as a scalar of a fixed width or as the bytes of its UTF-8 form
(`Value.decodeText?_eq_some_iff`).  A collection may be given as a list, as a tuple, as a set or as
an array that has a dimension (`Value.members?_eq_some_iff`).

The elements of an array stand in one list, the last dimension running fastest.  So along its first
dimension an array falls into consecutive parts of this list (`partsOf_eq_iff`), and when it is
turned into nested lists, this is done over and over, down to the single elements
(`Value.nested_eq_iff`).  All this is said of arrays that are full: they have as many elements as
their dimensions say.
-/
import Mathlib.Algebra.BigOperators.Group.List.Basic
import Mathlib.Data.List.Forall2
import Mathlib.Tactic.Lemma
import PropertyGraph.Value.Basic

namespace PropertyGraph

/-! ### Parts of a list -/

section Parts

variable {α : Type} {count size : Nat} {items : List α} {parts : List (List α)}

lemma Axis.sizeOf_cons (n : Nat) (shape : List Nat) : sizeOf (n :: shape) = n * sizeOf shape := by
  rw [sizeOf, sizeOf, ← List.prod_eq_foldl, ← List.prod_eq_foldl, List.prod_cons]

lemma partsOf_succ : partsOf (count + 1) size items =
    items.take size :: partsOf count size (items.drop size) := by
  rw [partsOf, List.range_succ_eq_map, List.map_cons, List.map_map, Nat.zero_mul, List.drop_zero,
    partsOf]
  congr 1
  refine List.map_congr_left fun i _ => ?_
  rw [Function.comp_apply, List.drop_drop, Nat.succ_mul, Nat.add_comm]

/-- Parts of the same length, put together, fall into these parts again. -/
lemma partsOf_flatten (h : ∀ p ∈ parts, p.length = size) :
    partsOf parts.length size parts.flatten = parts := by
  induction parts with
  | nil => rfl
  | cons p parts ih =>
    obtain ⟨hp, hparts⟩ := List.forall_mem_cons.1 h
    rw [List.length_cons, partsOf_succ, List.flatten_cons, List.take_left' hp,
      List.drop_left' hp, ih hparts]

/-- Consecutive parts of the same length are determined by how many they are. -/
theorem partsOf_eq_iff (h : items.length = count * size) : partsOf count size items = parts ↔
    parts.length = count ∧ (∀ p ∈ parts, p.length = size) ∧ parts.flatten = items := by
  constructor
  · rintro rfl
    induction count generalizing items with
    | zero =>
      have hnil : items = [] := List.length_eq_zero_iff.1 (by rw [h, Nat.zero_mul])
      exact ⟨rfl, by simp [partsOf], hnil.symm⟩
    | succ count ih =>
      rw [Nat.succ_mul] at h
      have hdrop : (items.drop size).length = count * size := by
        rw [List.length_drop]
        omega
      obtain ⟨hlength, hsizes, hflatten⟩ := ih hdrop
      rw [partsOf_succ]
      refine ⟨by rw [List.length_cons, hlength], List.forall_mem_cons.2 ⟨?_, hsizes⟩, ?_⟩
      · rw [List.length_take]
        omega
      · rw [List.flatten_cons, hflatten, List.take_append_drop]
  · rintro ⟨rfl, hsizes, rfl⟩
    exact partsOf_flatten hsizes

end Parts

namespace Value

/-! ### Texts -/

lemma asText?_eq_some_iff {v : Value} {s : String} :
    v.asText? = some s ↔ v = .text s ∨ v = .sized .text (.text s) := by
  unfold asText?
  split <;> simp_all

/-- The bytes of a text in UTF-8. -/
def utf8Of (s : String) : List UInt8 := s.toUTF8.data.toList

lemma fromUTF8?_eq_some_iff {bs : List UInt8} {s : String} :
    String.fromUTF8? (ByteArray.mk bs.toArray) = some s ↔ bs = utf8Of s := by
  unfold String.fromUTF8?
  constructor
  · intro h
    split at h
    · cases h
      rfl
    · cases h
  · rintro rfl
    have hbytes : ByteArray.mk (utf8Of s).toArray = s.toByteArray := by simp [utf8Of]
    rw [hbytes]
    exact dif_pos s.isValidUTF8

/-- A text is wanted, and it is there as it stands or as the bytes of its UTF-8 form, either of
them possibly as a scalar of a fixed width. -/
theorem decodeText?_eq_some_iff {v : Value} {s : String} : v.decodeText? = some s ↔
    v = .text s ∨ v = .sized .text (.text s) ∨ v = .bytes (utf8Of s) ∨
      v = .sized .bytes (.bytes (utf8Of s)) := by
  unfold decodeText?
  split
  · next bs => simp [fromUTF8?_eq_some_iff]
  · next bs => simp [fromUTF8?_eq_some_iff]
  · next hbytes hsized =>
    rw [asText?_eq_some_iff]
    constructor
    · rintro (rfl | rfl)
      · exact .inl rfl
      · exact .inr (.inl rfl)
    · rintro (rfl | rfl | rfl | rfl)
      · exact .inl rfl
      · exact .inr rfl
      · exact absurd rfl (hbytes _)
      · exact absurd rfl (hsized _)

/-! ### Collections -/

/-- An array has as many elements as its dimensions say; any other value is what it is. -/
def IsFull : Value → Prop
  | .array _ _ shape items => items.length = Axis.sizeOf shape
  | _ => True

/-- A value is a collection of some members.  Along its first dimension an array has as members what
it holds, each a scalar of the type of the array unless the array holds objects, or else arrays of
one dimension less. -/
inductive Lists : Value → List Value → Prop
  | list (items : List Value) : Lists (.list items) items
  | tuple (items : List Value) : Lists (.tuple items) items
  | set (items : List Value) : Lists (.set items) items
  | objects (room n : Nat) (items : List Value) : Lists (.array .object room [n] items) items
  | scalars (type : ScalarType) (room n : Nat) (items : List Value) (plain : type ≠ .object) :
    Lists (.array type room [n] items) (items.map (.sized type))
  | arrays (type : ScalarType) (room n : Nat) (shape : List Nat) (parts : List (List Value))
      (full : ∀ p ∈ parts, p.length = Axis.sizeOf (n :: shape)) :
    Lists (.array type room (parts.length :: n :: shape) parts.flatten)
      (parts.map (.array type room (n :: shape)))

lemma members?_row (type : ScalarType) (room n : Nat) (items : List Value) :
    (Value.array type room [n] items).members? =
      some (if type = .object then items else items.map (.sized type)) := by
  rw [members?, arrayElements?]
  split <;> simp

lemma members?_rows (type : ScalarType) (room count n : Nat) (shape : List Nat)
    (items : List Value) : (Value.array type room (count :: n :: shape) items).members? =
      some ((partsOf count (Axis.sizeOf (n :: shape)) items).map
        (.array type room (n :: shape))) :=
  rfl

lemma Lists.members?_eq {v : Value} {items : List Value} (h : v.Lists items) :
    v.members? = some items := by
  cases h with
  | list | tuple | set => rfl
  | objects => rw [members?_row, if_pos rfl]
  | scalars type room n items plain => rw [members?_row, if_neg plain]
  | arrays type room n shape parts full => rw [members?_rows, partsOf_flatten full]

/-- The collections are the lists, tuples and sets, and the arrays that have a dimension. -/
theorem members?_eq_some_iff {v : Value} (hv : v.IsFull) {items : List Value} :
    v.members? = some items ↔ v.Lists items := by
  refine ⟨fun h => ?_, Lists.members?_eq⟩
  unfold members? at h
  split at h
  · cases h
    exact .list _
  · cases h
    exact .tuple _
  · cases h
    exact .set _
  · next type room shape stored =>
    match shape, hv with
    | [], _ => cases h
    | [n], _ =>
      have hrow := members?_row type room n stored
      rw [members?, h, Option.some.injEq] at hrow
      rw [hrow]
      split
      · next hobject => exact hobject ▸ .objects room n stored
      · next hplain => exact .scalars type room n stored hplain
    | count :: n :: shape, hv =>
      cases h
      have hlength : stored.length = count * Axis.sizeOf (n :: shape) := by
        rw [← Axis.sizeOf_cons]
        exact hv
      obtain ⟨hcount, hsizes, hflatten⟩ := (partsOf_eq_iff hlength).1 rfl
      have hlists := Lists.arrays type room n shape _ hsizes
      rwa [hcount, hflatten] at hlists
  · cases h

/-! ### Arrays as nested lists -/

/-- A value is an array of some dimensions as nested lists: without dimensions the plain value of
the only element, otherwise a list of the arrays along the first dimension, the elements of one
standing after those of another. -/
def IsNested (type : ScalarType) : List Nat → List Value → Value → Prop
  | [], items, v => ∃ x, items = [x] ∧ v = type.unwrap x
  | n :: shape, items, v => ∃ parts vs, parts.length = n ∧
    (∀ p ∈ parts, p.length = Axis.sizeOf shape) ∧ parts.flatten = items ∧
    List.Forall₂ (IsNested type shape) parts vs ∧ v = .list vs

variable {type : ScalarType} {shape : List Nat} {items : List Value}

/-- The last dimension, which is turned into a list at once, is no exception. -/
lemma nested_cons {n : Nat} (h : items.length = n * Axis.sizeOf shape) :
    nested type (n :: shape) items =
      .list ((partsOf n (Axis.sizeOf shape) items).map (nested type shape)) := by
  cases shape with
  | cons => rfl
  | nil =>
    have hsingles : partsOf n 1 items = items.map fun x => [x] := by
      refine (partsOf_eq_iff h).2 ⟨?_, ?_, ?_⟩
      · rw [List.length_map, h, Axis.sizeOf, List.foldl_nil, Nat.mul_one]
      · exact List.forall_mem_map.2 fun x _ => rfl
      · simp [← List.flatMap_def]
    rw [show Axis.sizeOf [] = 1 from rfl, hsingles, List.map_map]
    rfl

/-- A full array is turned into nested lists. -/
theorem nested_eq_iff (h : items.length = Axis.sizeOf shape) {v : Value} :
    nested type shape items = v ↔ IsNested type shape items v := by
  -- the elements vary: each of the parts has its own
  induction shape generalizing items v with
  | nil =>
    obtain ⟨x, rfl⟩ := List.length_eq_one_iff.1 h
    simp [IsNested, nested, eq_comm]
  | cons n shape ih =>
    rw [Axis.sizeOf_cons] at h
    rw [nested_cons h]
    constructor
    · rintro rfl
      obtain ⟨hcount, hsizes, hflatten⟩ := (partsOf_eq_iff h).1 rfl
      refine ⟨_, _, hcount, hsizes, hflatten, ?_, rfl⟩
      rw [List.forall₂_map_right_iff, List.forall₂_same]
      exact fun p hp => (ih (hsizes p hp)).1 rfl
    · rintro ⟨parts, vs, rfl, hsizes, rfl, hvs, rfl⟩
      rw [partsOf_flatten hsizes]
      clear h
      congr 1
      induction hvs with
      | nil => rfl
      | cons hv _ ihvs =>
        obtain ⟨hp, hsizes⟩ := List.forall_mem_cons.1 hsizes
        rw [List.map_cons, (ih hp).2 hv, ihvs hsizes]

end Value

end PropertyGraph
