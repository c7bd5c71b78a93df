/-
# Asking questions of a graph

A reader answers questions about a graph.  Questions about single nodes look into a grouping of the
graph, and so may a comparison that has the graph as its actual one.  All three groupings are built
when a question looks into one that is not there, and kept for the later ones.  An answer never
shows whether they had been built before.
-/
import PropertyGraph.Comparison
import PropertyGraph.Value.Key

namespace PropertyGraph

/-! ### Comparisons as questions -/

/-- The comparisons of an actual with an expected graph. -/
inductive Comparison
  | findEmbedding
  | assertSubgraph
  | assertSameGraph
  | isSubgraph
  | isSameGraph

/-- What a comparison that does not fail comes to. -/
inductive Finding
  /-- An embedding, if there is one. -/
  | embedding (m : Option Mapping)
  /-- The embedding that was insisted on. -/
  | witness (m : Mapping)
  /-- A plain answer. -/
  | verdict (holds : Bool)

/-- The embedding that a search has found; that it has found none is a mismatch. -/
def insist (search : Attempt ComparisonFailure (Option Mapping × Nat)) :
    Attempt ComparisonFailure Mapping := do
  match ← search with
  | (some m, _) => return m
  | (none, checked) => throw (.mismatch (.noEmbedding checked))

/-- What a comparison makes of a search for an embedding. -/
def Comparison.conclude (c : Comparison) (actual expected : Snapshot)
    (search : Attempt ComparisonFailure (Option Mapping × Nat)) :
    Attempt ComparisonFailure Finding :=
  match c with
  | .findEmbedding => .embedding <$> Prod.fst <$> search
  | .assertSubgraph => .witness <$> insist search
  | .assertSameGraph => .witness <$> (do assertSameCounts actual expected; insist search)
  | .isSubgraph => .verdict <$> verdict (insist search)
  | .isSameGraph => .verdict <$> verdict (do assertSameCounts actual expected; insist search)

/-! ### What a comparison looks up -/

/-- Which groupings of the actual graph are looked into. -/
structure LookUps where
  /-- Whether nodes are looked up by their labels. -/
  labels : Bool
  /-- Whether relationships are looked up by their sources. -/
  sources : Bool
deriving DecidableEq

/-- The nodes for which candidates are looked for, up to the first without one. -/
def scannedNodes (candidates : Node → IdentSet) : List Node → List Node
  | [] => []
  | node :: nodes =>
    if (candidates node).size = 0 then [node] else node :: scannedNodes candidates nodes

/-- Whether an index allows a mapping at all. -/
def CandidateIndex.hasMapping (index : CandidateIndex) : Bool :=
  match index.forMappings (fun _ _ => .stop ()) () with
  | .next () => false
  | .stop () => true

/-- What a search for an embedding looks up: with pruning, nodes by label if it scans for a node
with labels; and relationships by source if it checks a mapping of the ends of some relationship. -/
def searchLookUps (groups : Index) (arrangement : Arrangement) (actual expected : Snapshot)
    (settings : Settings) : LookUps where
  labels :=
    let pool := candidatePool actual groups settings.labelPruning
    settings.labelPruning &&
      (scannedNodes (fun node => candidatesIn (pool node) node) expected.nodes).any fun node =>
        node.labels.first?.isSome
  sources := match CandidateIndex.buildFrom groups actual expected settings.labelPruning with
    | .error _ => false
    | .ok index =>
      !expected.relationships.isEmpty && (arrangedIndex arrangement index).hasMapping

/-- What a comparison looks up: nothing if it ends at a difference of counts, otherwise what its
search does. -/
def Comparison.lookUps (c : Comparison) (groups : Index) (arrangement : Arrangement)
    (actual expected : Snapshot) (settings : Settings) : LookUps :=
  let search := searchLookUps groups arrangement actual expected settings
  match c with
  | .assertSameGraph | .isSameGraph =>
    match firstCountMismatch? actual.counts expected.counts with
    | some _ => ⟨false, false⟩
    | none => search
  | .findEmbedding | .assertSubgraph | .isSubgraph => search

/-! ### Readers -/

/-- A graph under questioning, with its groupings once they have been built. -/
structure Reader where
  /-- The graph. -/
  graph : Snapshot
  /-- The nodes by identifier. -/
  byId? : Option (OrderedMap Ident Node)
  /-- The relationships by source. -/
  bySource? : Option (OrderedMap Ident (List Relationship))
  /-- The nodes by label. -/
  byLabel? : Option (OrderedMap String (List Node))

/-- A question about a graph.  Nodes and labels are named by values, which may be no keys. -/
inductive Query
  /-- The node with an identifier. -/
  | node (key : Value)
  /-- The relationships that start at a node. -/
  | outgoing (key : Value)
  /-- The nodes that carry a label. -/
  | nodesWithLabel (key : Value)
  | labels
  | relationshipTypes
  | propertyKeys
  | counts
  /-- A comparison of this graph with an expected one. -/
  | comparedWith (c : Comparison) (arrangement : Arrangement) (expected : Snapshot)
    (settings : Settings)
  /-- A comparison of an actual graph with this one. -/
  | expectedIn (c : Comparison) (arrangement : Arrangement) (actual : Snapshot)
    (settings : Settings)

/-- An answer to a question. -/
inductive Answer
  | node (n : Node)
  /-- No node has this identifier. -/
  | absent (key : Value)
  /-- The value cannot be a key. -/
  | notKey (key : Value)
  | relationships (rs : List Relationship)
  | nodes (ns : List Node)
  | names (ns : NameSet)
  | counts (c : Counts)
  /-- The outcome of a comparison. -/
  | embedding (outcome : Attempt ComparisonFailure Finding)

namespace Reader

/-- A graph of which nothing has been asked yet. -/
def ofSnapshot (g : Snapshot) : Reader := ⟨g, none, none, none⟩

/-- A reader that has built all its groupings. -/
def build (r : Reader) : Reader :=
  let groups := r.graph.index
  ⟨r.graph, some groups.byId, some groups.bySource, some groups.byLabel⟩

/-- A reader that is about to look into a grouping; if it is not kept, all are built. -/
def lookingInto (r : Reader) (kept : Bool) : Reader := if kept then r else r.build

/-- A reader that has looked into some of its groupings, first by label and then by source. -/
def after (r : Reader) (l : LookUps) : Reader :=
  let r := if l.labels then r.lookingInto r.byLabel?.isSome else r
  if l.sources then r.lookingInto r.bySource?.isSome else r

/-- The groupings as they are looked into, each being kept or else built. -/
def groups (r : Reader) : Index where
  byId := r.byId?.getD r.graph.index.byId
  bySource := r.bySource?.getD r.graph.index.bySource
  byLabel := r.byLabel?.getD r.graph.index.byLabel

/-- An answer that depends on a key, which may be no key. -/
def answerTo (key : Value) (answer : Answer) : Answer := if key.isKey then answer else .notKey key

/-- The node that a key finds. -/
def nodeAnswer (r : Reader) (key : Value) : Answer :=
  match (Ident.ofKey? key).bind r.groups.node? with
  | some n => .node n
  | none => .absent key

/-- The answer to a question, and the reader for the next one. -/
def ask (r : Reader) : Query → Answer × Reader
  | .node key =>
    let r := r.lookingInto r.byId?.isSome
    (answerTo key (r.nodeAnswer key), r)
  | .outgoing key =>
    let r := r.lookingInto r.bySource?.isSome
    (answerTo key (.relationships (((Ident.ofKey? key).map r.groups.outgoing).getD [])), r)
  | .nodesWithLabel key =>
    let r := r.lookingInto r.byLabel?.isSome
    (answerTo key (.nodes ((key.asText?.map r.groups.nodesWithLabel).getD [])), r)
  | .labels => (.names r.graph.labels, r)
  | .relationshipTypes => (.names r.graph.relationshipTypes, r)
  | .propertyKeys => (.names r.graph.propertyKeys, r)
  | .counts => (.counts r.graph.counts, r)
  | .comparedWith c arrangement expected settings =>
    (.embedding (c.conclude r.graph expected
      (searchFrom r.groups arrangement r.graph expected settings)),
      r.after (c.lookUps r.groups arrangement r.graph expected settings))
  | .expectedIn c arrangement actual settings =>
    (.embedding (c.conclude actual r.graph (searchArranged arrangement actual r.graph settings)), r)

/-- The answers to questions asked one after another, and the reader after them. -/
def askAll (r : Reader) : List Query → List Answer × Reader
  | [] => ([], r)
  | q :: qs =>
    let (answer, r) := r.ask q
    let (answers, r) := r.askAll qs
    (answer :: answers, r)

end Reader

end PropertyGraph
