/-
# What graphs that pass for the same have in common

Before the search only numbers are compared, and an embedding goes one way.  Together they say more:
what occurs in the expected graph occurs in the actual one, and there is nothing else in the actual
graph, since there is not more of it.  So graphs that pass for the same have the same labels, the
same relationship types and the same property keys, and as many nodes of every class
(`sameGraph_vocabulary`).  They need not be isomorphic, as `doubled` and `crossed` show.
-/
import PropertyGraph.Proofs.Classes
import PropertyGraph.Proofs.Comparison.SameGraph

namespace PropertyGraph

/-- A set of names that contains another one of no smaller size is the same. -/
lemma NameSet.eq_of_subset_of_size_le {s t : NameSet} (hsub : ∀ x, x ∈ s → x ∈ t)
    (hsize : t.size ≤ s.size) : s = t := by
  have hperm : s.toList.Perm t.toList :=
    (List.subperm_of_subset s.nodup_toList hsub).perm_of_length_le hsize
  exact NameSet.ext_mem fun _ => hperm.mem_iff

section Common

variable {actual expected : Snapshot} {m : Mapping}

/-- Where there are no more actual nodes than expected ones, an embedding leaves as many of each
class. -/
lemma IsEmbedding.inClass_eq (h : IsEmbedding actual expected m)
    (hlen : actual.nodes.length ≤ expected.nodes.length) (c : NodeClass) :
    actual.inClass c = expected.inClass c :=
  h.countP_nodes_eq hlen fun a b hab => by rw [Node.toClass_eq_iff.2 hab]

/-- If a comparison for sameness succeeds, the mapping that it returns takes the expected nodes onto
the actual ones, there are as many actual nodes of every class as expected ones, and the same
labels, relationship types and property keys occur in both graphs. -/
theorem sameGraph_vocabulary {arrangement : Arrangement} {settings : Settings}
    (h : (assertSameGraphArranged arrangement actual expected settings).run.result = .ok m) :
    m.keys.Perm expected.nodeIds ∧ m.values.Perm actual.nodeIds ∧
    (∀ c, actual.inClass c = expected.inClass c) ∧
    actual.labels = expected.labels ∧
    actual.relationshipTypes = expected.relationshipTypes ∧
    actual.propertyKeys = expected.propertyKeys := by
  obtain ⟨hcounts, hm⟩ := assertSameGraph_eq_ok_iff.1 h
  have hemb := isEmbedding_of_firstEmbedding? hm
  have hnodes : actual.nodes.length ≤ expected.nodes.length :=
    Nat.le_of_eq (congrArg Counts.nodes hcounts)
  have hlabels : expected.labels = actual.labels :=
    NameSet.eq_of_subset_of_size_le (fun _ => hemb.mem_labels)
      (Nat.le_of_eq (congrArg Counts.labels hcounts))
  have htypes : expected.relationshipTypes = actual.relationshipTypes :=
    NameSet.eq_of_subset_of_size_le (fun _ => hemb.mem_relationshipTypes)
      (Nat.le_of_eq (congrArg Counts.relationshipTypes hcounts))
  have hkeys : expected.propertyKeys = actual.propertyKeys :=
    NameSet.eq_of_subset_of_size_le (fun _ => hemb.mem_propertyKeys)
      (Nat.le_of_eq (congrArg Counts.propertyKeys hcounts))
  exact ⟨hemb.keys, hemb.perm_values hnodes, hemb.inClass_eq hnodes, hlabels.symm, htypes.symm,
    hkeys.symm⟩

end Common

/-- A relationship of `doubled` or `crossed` with a weight. -/
def weighted (r : Relationship) (weight : Int) : Relationship :=
  { r with properties := .ofList [("weight", .scalar (.number (.int weight)))] }

/-- The graph `doubled`, both relationships of the same weight, a node with a name and a weight. -/
def weightedDouble : Snapshot where
  nodes := [⟨.int 1, .ofList ["A"], .ofList [("name", .scalar (.text "a"))]⟩,
    ⟨.int 2, .ofList ["B"], .ofList [("weight", .scalar (.bool true))]⟩]
  relationships := doubled.relationships.map (weighted · 1)
  consistent := ⟨by decide, by decide, by decide⟩

/-- The same nodes, connected once in each direction, with different weights. -/
def weightedCross : Snapshot where
  nodes := weightedDouble.nodes
  relationships := List.zipWith weighted crossed.relationships [1, 2]
  consistent := ⟨by decide, by decide, by decide⟩

/-- Two parallel relationships stand against two of which only one is equivalent to them. -/
theorem sameGraph_vocabulary_weighted :
    (assertSameGraphArranged .asAdded weightedCross weightedDouble {}).run.result = .ok crossing ∧
    weightedCross.relationshipTypes = weightedDouble.relationshipTypes ∧
    weightedCross.propertyKeys = weightedDouble.propertyKeys := by
  have h : (assertSameGraphArranged .asAdded weightedCross weightedDouble {}).run.result =
      .ok crossing := by
    cbv
  obtain ⟨-, -, -, -, htypes, hkeys⟩ := sameGraph_vocabulary h
  exact ⟨h, htypes, hkeys⟩

end PropertyGraph
