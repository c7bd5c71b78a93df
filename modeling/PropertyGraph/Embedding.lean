/-
# Embeddings

A mapping of the expected nodes embeds the expected graph when it carries every expected
relationship over to an equivalent relationship of the actual graph.  Actual relationships are not
used up: one of them may stand for several expected ones.
-/
import PropertyGraph.Mapping.Enumeration

namespace PropertyGraph

/-- Whether some actual relationship runs between the images of the ends of an expected one and is
equivalent to it.  An end that the mapping does not cover is named instead, the source before the
target. -/
def Relationship.carriedBy (groups : Index) (m : Mapping) (r : Relationship) :
    Except Ident Bool :=
  match m.find? r.source, m.find? r.target with
  | none, _ => .error r.source
  | some _, none => .error r.target
  | some source, some target =>
    .ok ((groups.outgoing source).any fun c => c.target == target && c.equivalent r)

/-- Whether all relationships of a list are carried over; the first that is not ends the check. -/
def carriesAll (groups : Index) (m : Mapping) : List Relationship → Except Ident Bool
  | [] => .ok true
  | r :: rs =>
    match r.carriedBy groups m with
    | .error id => .error id
    | .ok false => .ok false
    | .ok true => carriesAll groups m rs

/-- Whether a mapping embeds the relationships of the expected graph in the actual graph. -/
def Mapping.embeds (actual expected : Snapshot) (m : Mapping) : Except Ident Bool :=
  carriesAll actual.index m expected.relationships

end PropertyGraph
