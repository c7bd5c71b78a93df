/-
# The content of a property

Two scalars are equal when they have the same content: the truth value, what the number denotes, or
the text.  This carries over to arrays, to the properties of an element, and to nodes and
relationships: each comparison of the library is equality of contents (`Properties.equal_iff`,
`Node.equivalent_iff`, `Relationship.equivalent_iff`), hence an equivalence relation.

The comparison of properties looks at their number and at the keys of one side only; that it sees
all keys of the other side is a matter of counting (`Properties.equal_iff`).
-/
import Mathlib.Data.List.Perm.Subperm
import PropertyGraph.Element
import PropertyGraph.Proofs.Number.Denotation
import PropertyGraph.Proofs.OrderedMap

namespace PropertyGraph

/-- The content of a scalar. -/
inductive ScalarContent
  | bool (b : Bool)
  | number (d : Denotation)
  | text (s : String)

/-- The content of a property. -/
inductive PropertyContent
  | scalar (c : ScalarContent)
  | array (items : List ScalarContent)

/-! ### Scalars and arrays -/

/-- The content of a scalar. -/
def Scalar.content : Scalar → ScalarContent
  | .bool b => .bool b
  | .number n => .number n.denotation
  | .text s => .text s

lemma Scalar.equal_iff {s t : Scalar} : s.equal t = true ↔ s.content = t.content := by
  cases s with
  | bool b => cases t <;> simp [equal, content]
  | number m =>
    cases t with
    | bool b => simp [equal, content]
    | number n =>
      rw [equal, Number.equal_iff_denotation, content, content, ScalarContent.number.injEq]
    | text s => simp [equal, content]
  | text s => cases t <;> simp [equal, content]

lemma equalItems_iff {xs ys : List Scalar} :
    equalItems xs ys = true ↔ xs.map Scalar.content = ys.map Scalar.content := by
  induction xs generalizing ys with
  | nil => cases ys <;> simp [equalItems]
  | cons x xs ih => cases ys <;> simp [equalItems, Scalar.equal_iff, ih]

/-- The content of a property. -/
def Property.content : Property → PropertyContent
  | .scalar s => .scalar s.content
  | .array items _ => .array (items.map Scalar.content)

lemma Property.equal_iff {p q : Property} : p.equal q = true ↔ p.content = q.content := by
  cases p with
  | scalar s => cases q <;> simp [equal, content, Scalar.equal_iff]
  | array xs _ => cases q <;> simp [equal, content, equalItems_iff]

/-! ### The properties of an element -/

namespace Properties

/-- What is stored under each key. -/
def content (p : Properties) (k : String) : Option PropertyContent :=
  (p.find? k).map Property.content

lemma isSome_content {p : Properties} {k : String} : (p.content k).isSome ↔ k ∈ p.keys := by
  simp [content, Option.isSome_iff_exists, OrderedMap.mem_keys_iff]

/-- The keys of properties with the same content are the same. -/
lemma mem_keys_of_content {p q : Properties} (h : p.content = q.content) {k : String} :
    k ∈ p.keys ↔ k ∈ q.keys := by
  rw [← isSome_content, ← isSome_content, h]

lemma equal_iff_forall {p q : Properties} : p.equal q = true ↔
    p.size = q.size ∧ ∀ k v, p.find? k = some v → q.content k = some v.content := by
  simp only [equal, Bool.and_eq_true, beq_iff_eq, List.all_eq_true]
  refine and_congr_right fun _ => ⟨fun h k v hv => ?_, fun h e he => ?_⟩
  · have hkv := h (k, v) (OrderedMap.find?_eq_some_iff.1 hv)
    cases hq : q.find? k with
    | none => simp [hq] at hkv
    | some w =>
      simp only [hq, Property.equal_iff] at hkv
      simp [content, hq, hkv]
  · have hc := h e.1 e.2 (OrderedMap.find?_eq_some_iff.2 he)
    obtain ⟨w, hw, hwv⟩ := Option.map_eq_some_iff.1 hc
    simp [hw, Property.equal_iff, hwv]

/-- Properties are equal when every key has the same content on both sides. -/
theorem equal_iff {p q : Properties} : p.equal q = true ↔ p.content = q.content := by
  rw [equal_iff_forall]
  constructor
  · rintro ⟨hsize, h⟩
    -- the keys of `p` are keys of `q`, and there are equally many
    have hsub : p.keys ⊆ q.keys := by
      intro k hk
      obtain ⟨v, hv⟩ := OrderedMap.mem_keys_iff.1 hk
      exact isSome_content.1 (Option.isSome_iff_exists.2 ⟨_, h k v hv⟩)
    have hperm : p.keys.Perm q.keys :=
      (List.subperm_of_subset p.nodup_keys hsub).perm_of_length_le
        (by rw [OrderedMap.length_keys, OrderedMap.length_keys, hsize])
    funext k
    cases hp : p.find? k with
    | none =>
      have hk : k ∉ q.keys := fun hk => OrderedMap.find?_eq_none_iff.1 hp (hperm.mem_iff.2 hk)
      rw [content, content, hp, OrderedMap.find?_eq_none_iff.2 hk]
    | some v => rw [h k v hp, content, hp, Option.map_some]
  · intro h
    have hperm : p.keys.Perm q.keys :=
      (List.perm_ext_iff_of_nodup p.nodup_keys q.nodup_keys).2 fun k => mem_keys_of_content h
    refine ⟨by simpa using hperm.length_eq, fun k v hv => ?_⟩
    rw [← h, content, hv, Option.map_some]

end Properties

/-! ### Nodes and relationships -/

namespace Node

variable {a b c : Node}

/-- What two equivalent nodes have in common. -/
def content (n : Node) : NameSet × (String → Option PropertyContent) :=
  (n.labels, n.properties.content)

theorem equivalent_iff : a.equivalent b = true ↔ a.content = b.content := by
  simp [equivalent, content, Properties.equal_iff]

lemma equivalent_refl (a : Node) : a.equivalent a = true := equivalent_iff.2 rfl

lemma equivalent_symm (h : a.equivalent b = true) : b.equivalent a = true :=
  equivalent_iff.2 (equivalent_iff.1 h).symm

lemma equivalent_trans (h : a.equivalent b = true) (h' : b.equivalent c = true) :
    a.equivalent c = true :=
  equivalent_iff.2 ((equivalent_iff.1 h).trans (equivalent_iff.1 h'))

lemma labels_eq_of_equivalent (h : a.equivalent b = true) : a.labels = b.labels :=
  congrArg Prod.fst (equivalent_iff.1 h)

lemma mem_keys_of_equivalent (h : a.equivalent b = true) {k : String} :
    k ∈ a.properties.keys ↔ k ∈ b.properties.keys :=
  Properties.mem_keys_of_content (congrArg Prod.snd (equivalent_iff.1 h))

end Node

namespace Relationship

variable {a b c : Relationship}

/-- What two equivalent relationships have in common. -/
def content (r : Relationship) : String × (String → Option PropertyContent) :=
  (r.type, r.properties.content)

theorem equivalent_iff : a.equivalent b = true ↔ a.content = b.content := by
  simp [equivalent, content, Properties.equal_iff]

lemma equivalent_refl (a : Relationship) : a.equivalent a = true := equivalent_iff.2 rfl

lemma equivalent_symm (h : a.equivalent b = true) : b.equivalent a = true :=
  equivalent_iff.2 (equivalent_iff.1 h).symm

lemma equivalent_trans (h : a.equivalent b = true) (h' : b.equivalent c = true) :
    a.equivalent c = true :=
  equivalent_iff.2 ((equivalent_iff.1 h).trans (equivalent_iff.1 h'))

lemma type_eq_of_equivalent (h : a.equivalent b = true) : a.type = b.type :=
  congrArg Prod.fst (equivalent_iff.1 h)

lemma mem_keys_of_equivalent (h : a.equivalent b = true) {k : String} :
    k ∈ a.properties.keys ↔ k ∈ b.properties.keys :=
  Properties.mem_keys_of_content (congrArg Prod.snd (equivalent_iff.1 h))

end Relationship

end PropertyGraph
