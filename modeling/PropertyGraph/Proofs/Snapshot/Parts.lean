/-
# Elements and graphs from their parts

Networks and tables give an element as its parts, the properties as they are found.  The element is
made of these parts exactly if its properties can be read and its type is not empty, and the
elements are a graph exactly if they fit together.
-/
import PropertyGraph.Network.Snapshot
import PropertyGraph.Proofs.Property.Reading
import PropertyGraph.Proofs.Snapshot.Integrity

namespace PropertyGraph

lemma Node.ofParts?_eq_ok_iff {id : Ident} {labels : List String} {es : List (Value × Value)}
    {n : Node} : Node.ofParts? id labels es = .ok n ↔
      ∃ ps, readProperties (.map es) = .ok ps ∧ ⟨id, .ofList labels, ps⟩ = n := by
  rw [Node.ofParts?]
  cases readProperties (.map es) <;> simp [Checked.under, Except.map, Except.mapError]

lemma Relationship.ofParts?_eq_ok_iff {id source target : Ident} {type : String}
    {es : List (Value × Value)} {r : Relationship} :
    Relationship.ofParts? id type source target es = .ok r ↔
      ∃ t ps, readType (.text type) = .ok t ∧ readProperties (.map es) = .ok ps ∧
        Relationship.ofType id t source target ps = r := by
  rw [Relationship.ofParts?]
  cases readType (.text type) <;> cases readProperties (.map es) <;>
    simp [Checked.both, Checked.under, Except.map, Except.mapError]

lemma Snapshot.ofParts?_eq_ok_iff {nodes : List Node} {relationships : List Relationship}
    {g : Snapshot} : Snapshot.ofParts? nodes relationships = .ok g ↔
      g.nodes = nodes ∧ g.relationships = relationships := by
  rw [← Snapshot.ofElements?_eq_ok_iff, ofParts?]
  cases Snapshot.ofElements? nodes relationships <;> simp [Except.mapError]

end PropertyGraph
