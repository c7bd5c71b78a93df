/-
# Being a subgraph is a preorder

Every graph embeds in itself, and one embedding after another is an embedding (`IsEmbedding.trans`),
though one relationship may stand for several on the way.  The search is sound and complete, so what
holds of embeddings holds of its verdicts and of the mappings that it returns
(`isSubgraph_preorder`).
-/
import PropertyGraph.Proofs.Comparison.SameGraph

namespace PropertyGraph

/-- Every graph is a subgraph of itself, and a subgraph of a subgraph is a subgraph, whatever the
settings are and in whatever order candidates are tried.  The mappings that searches return can be
applied one after another. -/
theorem isSubgraph_preorder (a₁ a₂ a₃ : Arrangement) (s₁ s₂ s₃ : Settings)
    (large middle small : Snapshot) :
    (isSubgraphArranged a₁ large large s₁).run.result = .ok true ∧
    ((isSubgraphArranged a₁ large middle s₁).run.result = .ok true →
      (isSubgraphArranged a₂ middle small s₂).run.result = .ok true →
      (isSubgraphArranged a₃ large small s₃).run.result = .ok true) ∧
    ∀ m m', (findEmbeddingArranged a₂ middle small s₂).run.result = .ok (some m) →
      (findEmbeddingArranged a₁ large middle s₁).run.result = .ok (some m') →
      IsEmbedding large small (m.andThen m') ∧
        Mapping.embeds large small (m.andThen m') = .ok true := by
  refine ⟨?_, ?_, ?_⟩
  · obtain ⟨m, hm, -⟩ := (Isomorphism.refl large).exists_isEmbedding
    exact isSubgraph_eq_ok_true_iff.2 ⟨m, hm⟩
  · intro h h'
    obtain ⟨m', hm'⟩ := isSubgraph_eq_ok_true_iff.1 h
    obtain ⟨m, hm⟩ := isSubgraph_eq_ok_true_iff.1 h'
    exact isSubgraph_eq_ok_true_iff.2 ⟨m.andThen m', hm.trans hm'⟩
  · intro m m' h h'
    have hm := isEmbedding_of_firstEmbedding? (findEmbedding_eq_ok_some_iff.1 h)
    have hm' := isEmbedding_of_firstEmbedding? (findEmbedding_eq_ok_some_iff.1 h')
    have hcomposite : IsEmbedding large small (m.andThen m') := hm.trans hm'
    exact ⟨hcomposite, Mapping.embeds_eq_ok_true.2 hcomposite.relationships⟩

/-- The nodes of `doubled`, connected once. -/
def single : Snapshot where
  nodes := doubled.nodes
  relationships := doubled.relationships.take 1
  consistent := ⟨doubled.consistent.nodeIds, by decide, by decide⟩

/-- Two parallel relationships are carried over to one, and that one to a graph in which no
relationships are parallel. -/
theorem isSubgraph_preorder_parallel :
    (findEmbeddingArranged .asAdded single doubled {}).run.result = .ok (some crossing) ∧
    (findEmbeddingArranged .asAdded crossed single {}).run.result = .ok (some crossing) ∧
    (isSubgraphArranged .asAdded crossed doubled {}).run.result = .ok true ∧
    IsEmbedding crossed doubled (crossing.andThen crossing) := by
  have hsmall : (findEmbeddingArranged .asAdded single doubled {}).run.result =
      .ok (some crossing) := by cbv
  have hlarge : (findEmbeddingArranged .asAdded crossed single {}).run.result =
      .ok (some crossing) := by cbv
  have hyes : (isSubgraphArranged .asAdded single doubled {}).run.result = .ok true := by cbv
  have hyes' : (isSubgraphArranged .asAdded crossed single {}).run.result = .ok true := by cbv
  obtain ⟨-, htrans, hcomposite⟩ :=
    isSubgraph_preorder .asAdded .asAdded .asAdded {} {} {} crossed single doubled
  exact ⟨hsmall, hlarge, htrans hyes' hyes, (hcomposite crossing crossing hsmall hlarge).1⟩

end PropertyGraph
