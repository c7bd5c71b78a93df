/-
# Equality of what is stored

The comparison of values asks for their kinds and fails on a value of no kind.  A stored property
has a kind, and so has every element of a stored array, so between stored properties the comparison
never fails and comes to equality of properties (`Value.equal?_toValue`).

Equality of properties is equality of contents, and so are the equality of property maps and the
equivalence of nodes and of relationships.  All of them are equivalence relations (`equality_laws`);
numbers are equal when they denote the same number, and never equal a truth value, and the order in
which properties are given plays no part.
-/
import PropertyGraph.Proofs.Property.Content

namespace PropertyGraph

/-! ### Kinds -/

lemma Scalar.asScalar?_toValue (s : Scalar) : s.toValue.asScalar? = some s := by
  cases s <;> rfl

lemma Scalar.scalarKind?_toValue (s : Scalar) : s.toValue.scalarKind? = .ok s.kind := by
  simp only [Value.scalarKind?, s.asScalar?_toValue]

lemma Scalar.propertyKind?_toValue (s : Scalar) :
    s.toValue.propertyKind? = .ok (.scalar s.kind) := by
  cases s <;> rfl

lemma Property.propertyKind?_toValue (p : Property) : p.toValue.propertyKind? = .ok p.kind := by
  cases p with
  | scalar s => exact s.propertyKind?_toValue
  | array items uniform => rfl

lemma Scalar.kind_eq_of_equal {s t : Scalar} (h : s.equal t = true) : s.kind = t.kind := by
  cases s <;> cases t <;> simp_all [equal, kind]

/-! ### The comparison of stored values -/

namespace Value

lemma equal?_of_scalar (s : Scalar) (w : Value) : equal? s.toValue w = (do
    if (← w.propertyKind?) ≠ .scalar s.kind then
      return false
    match some s, w.asScalar? with
    | some s, some t => return s.equal t
    | _, _ => return false) := by
  have hkind := s.scalarKind?_toValue
  have hscalar := s.asScalar?_toValue
  cases s <;> simp only [Scalar.toValue] at hkind hscalar ⊢ <;>
    simp only [equal?, hkind, hscalar] <;> rfl

lemma equal?_scalars (s t : Scalar) : equal? s.toValue t.toValue = .ok (s.equal t) := by
  rw [equal?_of_scalar, t.propertyKind?_toValue, t.asScalar?_toValue]
  by_cases hkind : t.kind = s.kind
  · simp [hkind, bind, Except.bind, pure, Except.pure]
  · -- scalars of different kinds are not equal
    have hne : s.equal t = false := by
      rw [Bool.eq_false_iff]
      intro h
      exact hkind (Scalar.kind_eq_of_equal h).symm
    simp [hkind, hne, bind, Except.bind, pure, Except.pure]

lemma equalTuples?_scalars {xs ys : List Scalar} (h : xs.length = ys.length) :
    equalTuples? (xs.map Scalar.toValue) (ys.map Scalar.toValue) = .ok (equalItems xs ys) := by
  induction xs generalizing ys with
  | nil =>
    obtain rfl : ys = [] := List.length_eq_zero_iff.1 h.symm
    rfl
  | cons x xs ih =>
    cases ys with
    | nil => simp at h
    | cons y ys =>
      have hrest := ih (by simpa using h)
      simp only [List.map_cons, equalTuples?, equalItems, equal?_scalars, bind, Except.bind]
      cases x.equal y with
      | true => simpa using hrest
      | false => rfl

lemma equalItems_eq_false_of_length_ne {xs ys : List Scalar} (h : xs.length ≠ ys.length) :
    equalItems xs ys = false := by
  rw [Bool.eq_false_iff]
  intro heq
  have hlength := congrArg List.length (equalItems_iff.1 heq)
  simp only [List.length_map] at hlength
  exact h hlength

/-- The comparison of stored values never fails, and it says whether the properties are equal. -/
theorem equal?_toValue (p q : Property) : equal? p.toValue q.toValue = .ok (p.equal q) := by
  cases p with
  | scalar s =>
    cases q with
    | scalar t => exact equal?_scalars s t
    | array ys hy =>
      rw [Property.toValue, equal?_of_scalar, Property.propertyKind?_toValue]
      rfl
  | array xs hx =>
    cases q with
    | scalar t =>
      simp only [Property.toValue, equal?, t.propertyKind?_toValue]
      rfl
    | array ys hy =>
      simp only [Property.toValue, equal?, propertyKind?, List.length_map, Property.equal]
      by_cases hlength : xs.length = ys.length
      · rw [if_pos hlength, equalTuples?_scalars hlength]
      · rw [if_neg hlength, equalItems_eq_false_of_length_ne hlength]

end Value

/-! ### Property maps -/

/-- Maps with the same entries in another order find the same. -/
lemma OrderedMap.find?_eq_of_perm {κ α : Type} [BEq κ] [LawfulBEq κ] {m n : OrderedMap κ α}
    (h : m.entries.Perm n.entries) (k : κ) : m.find? k = n.find? k := by
  ext v
  rw [find?_eq_some_iff, find?_eq_some_iff, h.mem_iff]

namespace Properties

variable {p q : Properties}

/-- Property maps are equal when they have the same keys, with equal properties under each. -/
theorem equal_iff_keys : p.equal q = true ↔ (∀ k, k ∈ p.keys ↔ k ∈ q.keys) ∧
    ∀ k v w, p.find? k = some v → q.find? k = some w → v.equal w = true := by
  rw [equal_iff]
  constructor
  · intro h
    refine ⟨fun k => mem_keys_of_content h, fun k v w hv hw => ?_⟩
    have hk := congrFun h k
    rw [content, content, hv, hw] at hk
    exact Property.equal_iff.2 (by simpa using hk)
  · rintro ⟨hkeys, hvalues⟩
    funext k
    cases hv : p.find? k with
    | none =>
      have hk : k ∉ q.keys := fun hk => OrderedMap.find?_eq_none_iff.1 hv ((hkeys k).2 hk)
      rw [content, content, hv, OrderedMap.find?_eq_none_iff.2 hk]
    | some v =>
      obtain ⟨w, hw⟩ := OrderedMap.mem_keys_iff.1 ((hkeys k).1 (OrderedMap.mem_keys_iff.2 ⟨v, hv⟩))
      rw [content, content, hv, hw, Option.map_some, Option.map_some,
        Property.equal_iff.1 (hvalues k v w hv hw)]

lemma content_eq_of_perm (h : p.entries.Perm q.entries) : p.content = q.content := by
  funext k
  rw [content, content, OrderedMap.find?_eq_of_perm h]

end Properties

/-! ### Equivalence relations -/

/-- To have the same image under a function is an equivalence relation. -/
lemma equivalence_of_iff_eq {α β : Type} {r : α → α → Prop} {f : α → β}
    (h : ∀ {a b}, r a b ↔ f a = f b) : Equivalence r where
  refl _ := h.2 rfl
  symm hab := h.2 (h.1 hab).symm
  trans hab hbc := h.2 ((h.1 hab).trans (h.1 hbc))

lemma equalItems_iff_forall₂ {xs ys : List Scalar} :
    equalItems xs ys = true ↔ List.Forall₂ (fun x y => x.equal y = true) xs ys := by
  induction xs generalizing ys with
  | nil => cases ys <;> simp [equalItems]
  | cons x xs ih => cases ys <;> simp [equalItems, ih]

/-- Equality of properties is an equivalence relation, and the comparison of stored values decides
it: numbers are equal when they denote the same number, exactly, and equal no truth value; arrays
are equal element by element.  Property maps are equal when they have the same keys, with equal
properties, in whatever order.  So their equality and the equivalence of nodes and of relationships
are equivalence relations too. -/
theorem equality_laws :
    (∀ p q : Property, Value.equal? p.toValue q.toValue = .ok (p.equal q)) ∧
    (Equivalence fun p q : Property => p.equal q = true) ∧
    (∀ m n : Number, (Scalar.number m).equal (.number n) = true ↔ m.denotation = n.denotation) ∧
    (∀ (b : Bool) (n : Number),
      (Scalar.bool b).equal (.number n) = false ∧ (Scalar.number n).equal (.bool b) = false) ∧
    (∀ s t : Scalar, (Property.scalar s).equal (.scalar t) = true ↔ s.equal t = true) ∧
    (∀ xs ys hx hy, (Property.array xs hx).equal (.array ys hy) = true ↔
      List.Forall₂ (fun x y => x.equal y = true) xs ys) ∧
    (∀ p q : Properties, p.equal q = true ↔ (∀ k, k ∈ p.keys ↔ k ∈ q.keys) ∧
      ∀ k v w, p.find? k = some v → q.find? k = some w → v.equal w = true) ∧
    (∀ p p' q q' : Properties, p.entries.Perm p'.entries → q.entries.Perm q'.entries →
      p.equal q = p'.equal q') ∧
    (Equivalence fun p q : Properties => p.equal q = true) ∧
    (Equivalence fun a b : Node => a.equivalent b = true) ∧
    (Equivalence fun a b : Relationship => a.equivalent b = true) := by
  have hnumbers (m n : Number) :
      (Scalar.number m).equal (.number n) = true ↔ m.denotation = n.denotation :=
    Number.equal_iff_denotation
  have horder (p p' q q' : Properties) (hp : p.entries.Perm p'.entries)
      (hq : q.entries.Perm q'.entries) : p.equal q = p'.equal q' := by
    rw [Bool.eq_iff_iff, Properties.equal_iff, Properties.equal_iff,
      Properties.content_eq_of_perm hp, Properties.content_eq_of_perm hq]
  exact ⟨Value.equal?_toValue, equivalence_of_iff_eq Property.equal_iff, hnumbers,
    fun _ _ => ⟨rfl, rfl⟩, fun _ _ => .rfl, fun _ _ _ _ => equalItems_iff_forall₂,
    fun _ _ => Properties.equal_iff_keys, horder, equivalence_of_iff_eq Properties.equal_iff,
    equivalence_of_iff_eq Node.equivalent_iff, equivalence_of_iff_eq Relationship.equivalent_iff⟩

/-- The whole number that a double would round to `2 ^ 53` is not equal to it. -/
example : (Scalar.number (.int 9007199254740993)).equal (.number (.double (.finite false 1 53))) =
    false := by
  decide

end PropertyGraph
