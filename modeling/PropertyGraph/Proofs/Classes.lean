/-
# Classes of equivalent nodes

Equivalence sorts nodes into classes, and it does so for the nodes of all graphs together.  A
placement is an injection that keeps the class.  So there are as many placements as the falling
factorials of the classes say, multiplied (`card_placement`), and there is none exactly if some
class has more expected nodes than actual ones (`searchSize_eq_zero_iff`).
-/
import PropertyGraph.Proofs.Keys
import PropertyGraph.Proofs.Placement

namespace PropertyGraph

/-! ### Classes -/

instance Node.setoid : Setoid Node where
  r a b := a.equivalent b = true
  iseqv := ⟨Node.equivalent_refl, Node.equivalent_symm, Node.equivalent_trans⟩

instance (a b : Node) : Decidable (a ≈ b) :=
  inferInstanceAs (Decidable (a.equivalent b = true))

/-- A class of equivalent nodes. -/
abbrev NodeClass : Type := Quotient Node.setoid

/-- The class of a node. -/
def Node.toClass (n : Node) : NodeClass := Quotient.mk Node.setoid n

lemma Node.toClass_eq_iff {a b : Node} : a.toClass = b.toClass ↔ a.equivalent b = true :=
  Quotient.eq

namespace Snapshot

/-- The classes that occur in a graph. -/
def classes (g : Snapshot) : Finset NodeClass := (g.nodes.map Node.toClass).toFinset

/-- How many nodes of a class a graph has. -/
def inClass (g : Snapshot) (c : NodeClass) : Nat := g.nodes.countP fun n => n.toClass = c

lemma mem_classes {g : Snapshot} {c : NodeClass} :
    c ∈ g.classes ↔ ∃ n ∈ g.nodes, n.toClass = c := by
  rw [classes, List.mem_toFinset, List.mem_map]

lemma inClass_eq_card (g : Snapshot) (c : NodeClass) :
    g.inClass c = Nat.card {n : g.NodeIn // n.1.toClass = c} := by
  rw [inClass, countP_eq_card g.nodup_nodes]
  simp only [decide_eq_true_eq]

end Snapshot

/-! ### The number of placements -/

/-- In how many ways the expected nodes of every class can be sent to distinct actual nodes of the
class. -/
def searchSize (actual expected : Snapshot) : Nat :=
  ∏ c ∈ expected.classes, (actual.inClass c).descFactorial (expected.inClass c)

theorem card_placement (actual expected : Snapshot) :
    Nat.card (Placement actual expected) = searchSize actual expected := by
  let f (n : expected.NodeIn) : NodeClass := n.1.toClass
  let g (c : actual.NodeIn) : NodeClass := c.1.toClass
  have hs (n : expected.NodeIn) : f n ∈ expected.classes := Snapshot.mem_classes.2 ⟨n.1, n.2, rfl⟩
  have hkeeps (p : expected.NodeIn ↪ actual.NodeIn) :
      (∀ n : expected.NodeIn, n.1.equivalent (p n).1 = true) ↔ ∀ n, g (p n) = f n :=
    forall_congr' fun n => Node.toClass_eq_iff.symm.trans eq_comm
  rw [Nat.card_congr (Equiv.subtypeEquivRight hkeeps), card_embeddings_eq_prod hs, searchSize]
  simp only [Snapshot.inClass_eq_card, f, g]

/-- The number is zero exactly if some class has more expected nodes than actual ones. -/
theorem searchSize_eq_zero_iff {actual expected : Snapshot} :
    searchSize actual expected = 0 ↔ ∃ c, actual.inClass c < expected.inClass c := by
  rw [searchSize, Finset.prod_eq_zero_iff]
  simp only [Nat.descFactorial_eq_zero_iff_lt]
  constructor
  · rintro ⟨c, -, hc⟩
    exact ⟨c, hc⟩
  · rintro ⟨c, hc⟩
    obtain ⟨n, hn, hnc⟩ := List.countP_pos_iff.1 (Nat.zero_lt_of_lt hc)
    exact ⟨c, Snapshot.mem_classes.2 ⟨n, hn, of_decide_eq_true hnc⟩, hc⟩

end PropertyGraph
