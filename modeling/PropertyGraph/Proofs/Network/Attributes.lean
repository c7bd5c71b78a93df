/-
# The names that elements have in a network

Identifiers name the vertices and edges of a rendered graph, and texts name their attributes.  As
keys such values are told apart exactly as the identifiers and the texts are
(`Ident.toValue_beq`), although among all values being the same key is not an equivalence.  So the
attributes of an element stand in the order in which they are given, its own one first, unless a
property has the same name as that one (`entries_attributesOf`).
-/
import PropertyGraph.Proofs.Foreign

namespace PropertyGraph

namespace Ident

/-- Identifiers are the same key exactly if they are the same. -/
lemma toValue_beq (i j : Ident) : (i.toValue == j.toValue) = decide (i = j) := by
  cases i with
  | int a =>
    cases j with
    | int b =>
      show (a == b) = _
      simp [Bool.beq_eq_decide_eq]
    | text t => rfl  -- a number and its text are different keys
  | text s =>
    cases j with
    | int b => rfl
    | text t =>
      show (s == t) = _
      rw [Bool.eq_iff_iff]
      simp

lemma isKey_toValue (i : Ident) : i.toValue.isKey = true := by
  cases i <;> rfl

end Ident

lemma Value.text_beq (s t : String) : (Value.text s == Value.text t) = (s == t) := rfl

/-! ### The attributes of an element -/

open Network

/-- The attributes of a node: its labels, then its properties. -/
def Node.attributeList (n : Node) : List (Value × Value) :=
  attributesOf labelsKey (.list (n.labels.toList.map .text)) n.properties

/-- The attributes of a relationship: its type, then its properties. -/
def Relationship.attributeList (r : Relationship) : List (Value × Value) :=
  attributesOf typeKey (.text r.type) r.properties

namespace Network

variable {key : String} {value : Value} {ps : Properties}

/-- The attributes of an element are distinct unless a property takes the name of its own one. -/
lemma pairwise_attributesOf (h : key ∉ ps.keys) :
    (attributesOf key value ps).Pairwise fun a b => (a.1 == b.1) = false := by
  rw [attributesOf, List.pairwise_cons, List.forall_mem_map, List.pairwise_map]
  refine ⟨fun e he => ?_, ps.distinct.imp fun hab => hab⟩
  have hne : key ≠ e.1 := fun heq => h (heq ▸ List.mem_map_of_mem he)
  show (key == e.1) = false
  exact beq_eq_false_iff_ne.2 hne

lemma entries_attributesOf (h : key ∉ ps.keys) :
    (OrderedMap.ofList (attributesOf key value ps)).entries = attributesOf key value ps :=
  OrderedMap.entries_ofList_of_pairwise (pairwise_attributesOf h)

/-- The own attribute of an element is found under its name. -/
lemma find?_attributesOf (h : key ∉ ps.keys) :
    (OrderedMap.ofList (attributesOf key value ps)).find? (.text key) = some value := by
  rw [OrderedMap.find?, entries_attributesOf h, attributesOf, List.find?_cons_of_pos]
  · rfl
  · exact beq_self_eq_true key

/-- What is left without the own attribute are the properties. -/
lemma erase_attributesOf (h : key ∉ ps.keys) :
    ((OrderedMap.ofList (attributesOf key value ps)).erase (.text key)).entries =
      ps.entries.map fun e => (.text e.1, e.2.toValue) := by
  rw [OrderedMap.entries_erase, entries_attributesOf h, attributesOf, List.filter_cons_of_neg,
    List.filter_eq_self]
  · rw [List.forall_mem_map]
    intro e he
    have hne : e.1 ≠ key := fun heq => h (heq ▸ List.mem_map_of_mem he)
    simp [Value.text_beq, hne]
  · simp [Value.text_beq]

end Network

end PropertyGraph
