/-
# What can be stored

The values that can be stored as a property are the scalars and the flat lists and tuples of scalars
of one kind, an array counting as the nested lists of its elements (`Value.IsStorable`).  What is
stored are the scalars themselves, in their order (`Value.StoredAs`).  Reading does exactly this
(`Property.ofValue?_eq_ok_iff`), and what it gives is itself storable and stored as it is, so
reading is a projection onto the properties (`Property.ofValue?_projection`).
-/
import PropertyGraph.Proofs.Payload.Restated
import PropertyGraph.Proofs.Value.Contents

namespace PropertyGraph

/-! ### Scalars -/

namespace Value

/-- A value that is a scalar as it stands.  Among the scalars of a fixed width these are the doubles
and the texts. -/
inductive IsScalar : Value → Scalar → Prop
  | plain (s : Scalar) : IsScalar s.toValue s
  | double (n : Number) : IsScalar (.sized .float64 (.number n)) (.number n)
  | text (s : String) : IsScalar (.sized .text (.text s)) (.text s)

/-- A value that is a scalar, or a scalar of a fixed width around one. -/
def Holds (v : Value) (s : Scalar) : Prop := v.plain.IsScalar s

lemma asScalar?_eq_some_iff {v : Value} {s : Scalar} : v.asScalar? = some s ↔ v.IsScalar s := by
  constructor
  · intro h
    unfold asScalar? at h
    split at h
    · cases h
      exact .plain (.bool _)
    · cases h
      exact .plain (.number _)
    · cases h
      exact .double _
    · obtain ⟨t, ht, rfl⟩ := Option.map_eq_some_iff.1 h
      unfold asText? at ht
      split at ht
      · cases ht
        exact .plain (.text _)
      · cases ht
        exact .text _
      · cases ht
  · intro h
    cases h with
    | plain => cases s <;> rfl
    | double => rfl
    | text => rfl

end Value

lemma Scalar.ofValue?_eq_ok_iff {v : Value} {s : Scalar} :
    Scalar.ofValue? v = .ok s ↔ v.Holds s := by
  rw [Value.Holds, ← Value.asScalar?_eq_some_iff, ofValue?]
  cases v.plain.asScalar? <;> simp

/-! ### Properties -/

namespace Value

/-- An array as the nested lists of its elements; any other value stays. -/
def unpacked : Value → Value
  | .array type _ shape items => .nested type shape items
  | v => v

/-- The members of a list or a tuple. -/
inductive IsSequence : Value → List Value → Prop
  | list (items : List Value) : IsSequence (.list items) items
  | tuple (items : List Value) : IsSequence (.tuple items) items

/-- A scalar, or a list or tuple of scalars of one kind. -/
def IsStorable (v : Value) : Prop :=
  (∃ s, v.Holds s) ∨
    ∃ items kind, v.IsSequence items ∧ ∀ x ∈ items, ∃ s, x.Holds s ∧ s.kind = kind

/-- What is stored: the scalar that a value holds, or those that its members hold, in order. -/
inductive StoredAs (v : Value) : Property → Prop
  | scalar (s : Scalar) (holds : v.Holds s) : StoredAs v (.scalar s)
  | array (items : List Value) (scalars : List Scalar) (uniform : Uniform scalars)
      (members : v.IsSequence items) (holds : List.Forall₂ Holds items scalars) :
      StoredAs v (.array scalars uniform)

end Value

lemma Property.ofItems?_eq_ok_iff {items : List Value} {p : Property} :
    Property.ofItems? items = .ok p ↔
      ∃ scalars uniform, List.Forall₂ Value.Holds items scalars ∧ p = .array scalars uniform := by
  have hread {scalars : List Scalar} : items.mapM Scalar.ofValue? = .ok scalars ↔
      List.Forall₂ Value.Holds items scalars := by
    simp only [mapM_eq_ok_iff_forall₂, Scalar.ofValue?_eq_ok_iff]
  simp only [← hread, ofItems?]
  cases items.mapM Scalar.ofValue? with
  | error fault => simp [bind, Except.bind]
  | ok scalars =>
    by_cases huniform : Uniform scalars
    · simp [bind, Except.bind, pure, Except.pure, huniform, eq_comm]
    · simp [bind, Except.bind, throw, throwThe, MonadExceptOf.throw, huniform]

/-- Lists and tuples hold no scalar, so no value is stored in two ways. -/
lemma Value.IsSequence.not_holds {v : Value} {items : List Value} (h : v.IsSequence items)
    {s : Scalar} : ¬v.Holds s := by
  rw [← Scalar.ofValue?_eq_ok_iff]
  cases h with
  | list => simp [Scalar.ofValue?, Value.plain, Value.asScalar?, Value.asText?]
  | tuple => simp [Scalar.ofValue?, Value.plain, Value.asScalar?, Value.asText?]

lemma Value.IsSequence.storedAs_iff {v : Value} {items : List Value} (h : v.IsSequence items)
    {p : Property} : v.StoredAs p ↔
      ∃ scalars uniform, List.Forall₂ Value.Holds items scalars ∧ p = .array scalars uniform := by
  constructor
  · intro hp
    cases hp with
    | scalar s holds => exact absurd holds h.not_holds
    | array items' scalars uniform members holds =>
      obtain rfl : items' = items := by cases h <;> cases members <;> rfl
      exact ⟨scalars, uniform, holds, rfl⟩
  · rintro ⟨scalars, uniform, holds, rfl⟩
    exact .array items scalars uniform h holds

lemma Value.storedAs_iff_of_not_isSequence {v : Value} (h : ∀ items, ¬v.IsSequence items)
    {p : Property} : v.StoredAs p ↔ ∃ s, Scalar.ofValue? v = .ok s ∧ .scalar s = p := by
  simp only [Scalar.ofValue?_eq_ok_iff]
  constructor
  · intro hp
    cases hp with
    | scalar s holds => exact ⟨s, holds, rfl⟩
    | array items scalars uniform members => exact absurd members (h items)
  · rintro ⟨s, holds, rfl⟩
    exact .scalar s holds

lemma Property.ofPlainValue?_eq_ok_iff {v : Value} {p : Property} :
    Property.ofPlainValue? v = .ok p ↔ v.StoredAs p := by
  unfold ofPlainValue?
  split
  · next items => rw [(Value.IsSequence.list items).storedAs_iff, ofItems?_eq_ok_iff]
  · next items => rw [(Value.IsSequence.tuple items).storedAs_iff, ofItems?_eq_ok_iff]
  · rw [Value.storedAs_iff_of_not_isSequence (by rintro _ ⟨⟩)]
    simp [Scalar.ofValue?, Value.plain, Value.asScalar?, Value.asText?]
  · next hlist htuple _ =>
    have hno : ∀ items, ¬v.IsSequence items := by
      intro items h
      cases h with
      | list => exact hlist items rfl
      | tuple => exact htuple items rfl
    rw [Value.storedAs_iff_of_not_isSequence hno]
    cases Scalar.ofValue? v <;> simp [Functor.map, Except.map]

/-- What a value is stored as, once arrays are unpacked. -/
theorem Property.ofValue?_eq_ok_iff {v : Value} {p : Property} :
    Property.ofValue? v = .ok p ↔ v.unpacked.StoredAs p := by
  rw [← ofPlainValue?_eq_ok_iff]
  cases v <;> rfl

lemma uniform_iff_exists_kind {scalars : List Scalar} :
    Uniform scalars ↔ ∃ kind, ∀ s ∈ scalars, s.kind = kind := by
  constructor
  · intro h
    cases scalars with
    | nil => exact ⟨.boolean, by simp⟩
    | cons s scalars => exact ⟨s.kind, fun t ht => h t ht s List.mem_cons_self⟩
  · rintro ⟨kind, hkind⟩ s hs t ht
    rw [hkind s hs, hkind t ht]

/-- The storable values are those that are stored as something. -/
lemma Value.isStorable_iff {v : Value} : v.IsStorable ↔ ∃ p, v.StoredAs p := by
  constructor
  · rintro (⟨s, holds⟩ | ⟨items, kind, members, hkind⟩)
    · exact ⟨.scalar s, .scalar s holds⟩
    · have : Nonempty Scalar := ⟨.bool false⟩
      choose! content hcontent using hkind
      have huniform : Uniform (items.map content) :=
        uniform_iff_exists_kind.2 ⟨kind, List.forall_mem_map.2 fun x hx => (hcontent x hx).2⟩
      refine ⟨.array _ huniform, .array items _ huniform members ?_⟩
      rw [List.forall₂_map_right_iff, List.forall₂_same]
      exact fun x hx => (hcontent x hx).1
  · rintro ⟨p, hp⟩
    cases hp with
    | scalar s holds => exact .inl ⟨s, holds⟩
    | array items scalars uniform members holds =>
      obtain ⟨kind, hkind⟩ := uniform_iff_exists_kind.1 uniform
      refine .inr ⟨items, kind, members, fun x hx => ?_⟩
      obtain ⟨s, hs, hxs⟩ := exists_left_of_forall₂ holds.flip hx
      exact ⟨s, hxs, hkind s hs⟩

lemma Value.isStorable_list_iff {items : List Value} : (Value.list items).IsStorable ↔
    ∃ kind, ∀ x ∈ items, ∃ s, x.Holds s ∧ s.kind = kind := by
  constructor
  · rintro (⟨s, holds⟩ | ⟨items', kind, members, hkind⟩)
    · exact absurd holds (Value.IsSequence.list items).not_holds
    · cases members
      exact ⟨kind, hkind⟩
  · rintro ⟨kind, hkind⟩
    exact .inr ⟨items, kind, .list items, hkind⟩

/-- The arrays that can be stored: one element that can be stored, without dimensions; elements of
one kind along one dimension; and of the arrays of more dimensions, which have lists as their
members, those without members. -/
def Value.IsStorableArray (type : ScalarType) : List Nat → List Value → Prop
  | [], items => ∃ x, items = [x] ∧ (type.unwrap x).IsStorable
  | [_], items => ∃ kind, ∀ x ∈ items, ∃ s, (type.unwrap x).Holds s ∧ s.kind = kind
  | n :: _ :: _, _ => n = 0

theorem Value.isStorable_unpacked_array_iff {type : ScalarType} {room : Nat} {shape : List Nat}
    {items : List Value} (h : (Value.array type room shape items).IsFull) :
    (Value.array type room shape items).unpacked.IsStorable ↔
      IsStorableArray type shape items := by
  match shape, h with
  | [], h =>
    obtain ⟨x, rfl⟩ := List.length_eq_one_iff.1 h
    simp [unpacked, nested, IsStorableArray]
  | [_], _ =>
    simp only [unpacked, nested, isStorable_list_iff, List.forall_mem_map, IsStorableArray]
  | n :: m :: shape, h =>
    have hlength : items.length = n * Axis.sizeOf (m :: shape) := by
      rw [← Axis.sizeOf_cons]
      exact h
    obtain ⟨hcount, hsizes, -⟩ := (partsOf_eq_iff hlength).1 rfl
    simp only [unpacked, nested_cons hlength, isStorable_list_iff, List.forall_mem_map,
      IsStorableArray]
    constructor
    · rintro ⟨kind, hkind⟩
      -- a member would have to hold a scalar, but it is a list
      have hnone : partsOf n (Axis.sizeOf (m :: shape)) items = [] := by
        refine List.eq_nil_iff_forall_not_mem.2 fun p hp => ?_
        obtain ⟨s, hs, -⟩ := hkind p hp
        have hp' : p.length = m * Axis.sizeOf shape := by
          rw [← Axis.sizeOf_cons]
          exact hsizes p hp
        rw [nested_cons hp'] at hs
        exact (Value.IsSequence.list _).not_holds hs
      rw [← hcount, hnone, List.length_nil]
    · rintro rfl
      exact ⟨.boolean, fun p hp => absurd hp (by simp [partsOf])⟩

/-- What is stored is the scalar that the value holds, or a tuple of those that its members hold. -/
lemma Value.StoredAs.toValue_eq {v : Value} {p : Property} (h : v.StoredAs p) :
    (∃ s, v.Holds s ∧ p.toValue = s.toValue) ∨
      ∃ items scalars, v.IsSequence items ∧ List.Forall₂ Value.Holds items scalars ∧
        Uniform scalars ∧ p.toValue = .tuple (scalars.map Scalar.toValue) := by
  cases h with
  | scalar s holds => exact .inl ⟨s, holds, rfl⟩
  | array items scalars uniform members holds =>
    exact .inr ⟨items, scalars, members, holds, uniform, rfl⟩

/-- A value can be stored exactly if it is, once arrays are unpacked, a scalar or a list or tuple of
scalars of one kind.  What is stored is this scalar, or a tuple of these scalars in their order; the
fields of nodes and of relationships take it as it is, and so does another reading. -/
theorem Property.ofValue?_projection (v : Value) :
    ((∃ p, Property.ofValue? v = .ok p) ↔ v.unpacked.IsStorable) ∧
    ∀ p, Property.ofValue? v = .ok p →
      ((∃ s, v.unpacked.Holds s ∧ p.toValue = s.toValue) ∨
        ∃ items scalars, v.unpacked.IsSequence items ∧ List.Forall₂ Value.Holds items scalars ∧
          Uniform scalars ∧ p.toValue = .tuple (scalars.map Scalar.toValue)) ∧
      (∀ (n : Node) (key : String), n.properties.entries = [(key, p)] →
        n.toFields.get? "properties" = some (.map [(.text key, p.toValue)]) ∧
          Node.ofFields n.toFields = .ok n) ∧
      (∀ (r : Relationship) (key : String), r.properties.entries = [(key, p)] →
        r.toFields.get? "properties" = some (.map [(.text key, p.toValue)]) ∧
          Relationship.ofFields r.toFields = .ok r) ∧
      Property.ofValue? p.toValue = .ok p := by
  constructor
  · simp only [ofValue?_eq_ok_iff, Value.isStorable_iff]
  · intro p hp
    have hentries {ps : Properties} {key : String} (h : ps.entries = [(key, p)]) :
        ps.toValue = .map [(.text key, p.toValue)] := by
      rw [Properties.toValue, h]
      rfl
    refine ⟨(ofValue?_eq_ok_iff.1 hp).toValue_eq, fun n key h => ⟨?_, ?_⟩,
      fun r key h => ⟨?_, ?_⟩, p.ofValue?_toValue⟩
    · exact congrArg some (hentries h)
    · exact Node.ofFields_eq_ok n.describesNode_toFields
    · exact congrArg some (hentries h)
    · exact Relationship.ofFields_eq_ok r.describesRelationship_toFields

end PropertyGraph
