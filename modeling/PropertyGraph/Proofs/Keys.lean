/-
# Injections that keep keys

The elements of two types are compared under a key, and an injection keeps it.  What it does under
one key has nothing to do with what it does under another one (`embeddingsByKey`).  So there is such
an injection if under every key there are enough elements to go to
(`exists_embedding_of_fibers_le`), and to count them one counts under each key and multiplies
(`card_embeddings_eq_prod`).

Expected nodes and relationships are matched with actual ones in this way: the key of a node is its
class, that of a relationship consists of its ends and its content.
-/
import Mathlib.Algebra.BigOperators.GroupWithZero.Finset
import Mathlib.Data.Fintype.CardEmbedding
import Mathlib.SetTheory.Cardinal.NatCard

namespace PropertyGraph

variable {α β κ : Type} {f : α → κ} {g : β → κ}

/-- An injection that keeps keys consists of an injection between the elements of each key. -/
def embeddingsByKey :
    {e : α ↪ β // ∀ a, g (e a) = f a} ≃ ∀ k, {a // f a = k} ↪ {b // g b = k} where
  toFun e k := e.1.subtypeMap fun a ha => (e.2 a).trans ha
  -- the elements of a type are the elements under all keys together
  invFun p :=
    ⟨(Equiv.sigmaFiberEquiv f).symm.toEmbedding.trans
      ((Function.Embedding.sigmaMap (.refl κ) p).trans (Equiv.sigmaFiberEquiv g).toEmbedding),
      fun a => (p (f a) ⟨a, rfl⟩).2⟩
  left_inv _ := rfl
  right_inv p := by
    funext k
    refine Function.Embedding.ext ?_
    rintro ⟨a, rfl⟩
    rfl

variable [Finite α] [Finite β]

lemma card_embedding (α β : Type) [Finite α] [Finite β] :
    Nat.card (α ↪ β) = (Nat.card β).descFactorial (Nat.card α) := by
  classical
  have := Fintype.ofFinite α
  have := Fintype.ofFinite β
  rw [Nat.card_eq_fintype_card, Nat.card_eq_fintype_card, Nat.card_eq_fintype_card,
    Fintype.card_embedding_eq]

/-- If no key of `f` has more elements on the left than on the right, the elements on the left are
told apart by elements with the same keys on the right. -/
lemma exists_embedding_of_fibers_le
    (hfib : ∀ a, Nat.card {a' // f a' = f a} ≤ Nat.card {b // g b = f a}) :
    ∃ e : α ↪ β, ∀ a, g (e a) = f a := by
  have hkey (k : κ) : Nonempty ({a // f a = k} ↪ {b // g b = k}) := by
    by_cases h : ∃ a, f a = k
    · obtain ⟨a, rfl⟩ := h
      have := Fintype.ofFinite {a' // f a' = f a}
      have := Fintype.ofFinite {b // g b = f a}
      refine Function.Embedding.nonempty_of_card_le ?_
      rw [← Nat.card_eq_fintype_card, ← Nat.card_eq_fintype_card]
      exact hfib a
    · have : IsEmpty {a // f a = k} := ⟨fun a => h ⟨a.1, a.2⟩⟩
      exact ⟨.ofIsEmpty⟩
  obtain ⟨e, he⟩ := embeddingsByKey.symm fun k => (hkey k).some
  exact ⟨e, he⟩

/-- Injections that keep keys are counted key by key; keys that do not occur on the left can be left
out. -/
theorem card_embeddings_eq_prod {s : Finset κ} (hs : ∀ a, f a ∈ s) :
    Nat.card {e : α ↪ β // ∀ a, g (e a) = f a} =
      ∏ k ∈ s, (Nat.card {b // g b = k}).descFactorial (Nat.card {a // f a = k}) := by
  classical
  have hempty (k : {k // k ∉ s}) : IsEmpty {a // f a = k.1} := ⟨fun a => k.2 (a.2 ▸ hs a.1)⟩
  have hunique : Nat.card (∀ k : {k // k ∉ s}, {a // f a = k.1} ↪ {b // g b = k.1}) = 1 :=
    Nat.card_unique
  calc Nat.card {e : α ↪ β // ∀ a, g (e a) = f a}
      = Nat.card (∀ k, {a // f a = k} ↪ {b // g b = k}) := Nat.card_congr embeddingsByKey
    _ = Nat.card (∀ k : s, {a // f a = k.1} ↪ {b // g b = k.1}) := by
      rw [Nat.card_congr (Equiv.piEquivPiSubtypeProd (· ∈ s) _), Nat.card_prod, hunique,
        Nat.mul_one]
    _ = ∏ k : s, (Nat.card {b // g b = k.1}).descFactorial (Nat.card {a // f a = k.1}) := by
      simp only [Nat.card_pi, card_embedding]
    _ = ∏ k ∈ s, (Nat.card {b // g b = k}).descFactorial (Nat.card {a // f a = k}) :=
      Finset.prod_coe_sort s fun k =>
        (Nat.card {b // g b = k}).descFactorial (Nat.card {a // f a = k})

end PropertyGraph
