/-
# Events

What happens on the way of a comparison is reported as events.  An event has a severity, a name and
fields; a receiver keeps the events from some severity on.  `Report` is a result together with the
events that led to it, in order.
-/
import PropertyGraph.Snapshot.Basic
import PropertyGraph.Value.Interchange

namespace PropertyGraph

/-- How grave an event is. -/
inductive Severity
  | debug
  | info
  | warning
  | error
  | critical
deriving DecidableEq, Repr

namespace Severity

/-- All severities, the least grave first. -/
def all : List Severity := [.debug, .info, .warning, .error, .critical]

/-- The name of a severity. -/
def name : Severity → String
  | .debug => "debug"
  | .info => "info"
  | .warning => "warning"
  | .error => "error"
  | .critical => "critical"

/-- Severities are ordered by their numbers. -/
def number : Severity → Nat
  | .debug => 10
  | .info => 20
  | .warning => 30
  | .error => 40
  | .critical => 50

end Severity

/-- The sorts of elements whose numbers two equal graphs have in common, in the order in which
they are compared. -/
inductive Counted
  | nodes
  | labels
  | propertyKeys
  | relationships
  | relationshipTypes
deriving DecidableEq, Repr

namespace Counted

/-- All sorts, in the order in which they are compared. -/
def all : List Counted := [.nodes, .labels, .propertyKeys, .relationships, .relationshipTypes]

/-- The name of the sort as a field. -/
def fieldName : Counted → String
  | .nodes => "nodes"
  | .labels => "labels"
  | .propertyKeys => "property_keys"
  | .relationships => "relationships"
  | .relationshipTypes => "relationship_types"

/-- The name of the sort in a sentence. -/
def noun : Counted → String
  | .nodes => "nodes"
  | .labels => "labels"
  | .propertyKeys => "property keys"
  | .relationships => "relationships"
  | .relationshipTypes => "relationship types"

/-- The number of elements of a sort. -/
def count : Counted → Counts → Nat
  | .nodes, c => c.nodes
  | .labels, c => c.labels
  | .propertyKeys, c => c.propertyKeys
  | .relationships, c => c.relationships
  | .relationshipTypes, c => c.relationshipTypes

end Counted

/-- Something that happened. -/
inductive Event
  /-- The search for an embedding begins. -/
  | started (actualNodes expectedNodes expectedRelationships : Nat)
  /-- An expected node has no counterpart. -/
  | noCandidate (node : Node)
  /-- Every expected node has candidates; an ambiguous one has several. -/
  | indexBuilt (expectedNodes ambiguousNodes : Nat)
  /-- So many mappings have been checked in vain so far. -/
  | progress (checked : Nat)
  /-- The last of so many mappings is an embedding. -/
  | completed (checked : Nat)
  /-- None of so many mappings is an embedding. -/
  | exhausted (checked : Nat)
  /-- The graphs differ in the number of some sort of elements. -/
  | countMismatch (of : Counted) (actual expected : Nat)
  /-- A network was read as a graph. -/
  | networkRead (nodes relationships : Nat) (directed : Bool)
  /-- Tables were read as a graph. -/
  | tablesRead (nodes relationships : Nat)
  /-- An event of a caller. -/
  | custom (severity : Severity) (name : String) (fields : List (String × Value))

namespace Event

/-- The severity of an event: a negative verdict is worth knowing, everything else is detail. -/
def severity : Event → Severity
  | .noCandidate _ | .exhausted _ | .countMismatch _ _ _ => .info
  | .custom s _ _ => s
  | _ => .debug

/-- The name of an event. -/
def name : Event → String
  | .started _ _ _ => "graph_compare_start"
  | .noCandidate _ => "no_candidate_for_node"
  | .indexBuilt _ _ => "candidate_index_built"
  | .progress _ => "mapping_search_progress"
  | .completed _ => "graph_compare_complete"
  | .exhausted _ => "graph_compare_failed"
  | .countMismatch _ _ _ => "graph_count_mismatch"
  | .networkRead _ _ _ => "snapshot_from_networkx"
  | .tablesRead _ _ => "snapshot_from_frames"
  | .custom _ name _ => name

/-- The fields of an event. -/
def fields : Event → List (String × Value)
  | .started a e r =>
    [("actual_nodes", .int a), ("expected_nodes", .int e), ("expected_relationships", .int r)]
  | .noCandidate n => [("node", .text n.written)]
  | .indexBuilt e a => [("expected_nodes", .int e), ("ambiguous_nodes", .int a)]
  | .progress c => [("mappings_checked", .int c)]
  | .completed c => [("mappings_checked", .int c)]
  | .exhausted c => [("reason", .text "no_valid_mapping"), ("mappings_checked", .int c)]
  | .countMismatch of a e =>
    [("element", .text of.fieldName), ("actual", .int a), ("expected", .int e)]
  | .networkRead n r d => [("nodes", .int n), ("relationships", .int r), ("directed", .bool d)]
  | .tablesRead n r => [("nodes", .int n), ("relationships", .int r)]
  | .custom _ _ fields => fields

/-- The fields of an event as data for other programs. -/
def dataFields (e : Event) : List (String × Value) := e.fields.map fun f => (f.1, f.2.interchanged)

/-- The events from a severity on, given by its number. -/
def atLeast (threshold : Nat) (events : List Event) : List Event :=
  events.filter fun e => threshold ≤ e.severity.number

end Event

/-- A result, with the events that led to it. -/
structure Report (α : Type) where
  /-- The events, in order. -/
  events : List Event
  /-- The result. -/
  result : α

namespace Report

variable {α β : Type}

instance : Monad Report where
  pure a := ⟨[], a⟩
  bind x f := ⟨x.events ++ (f x.result).events, (f x.result).result⟩

/-- A single event. -/
def log (e : Event) : Report Unit := ⟨[e], ()⟩

@[simp] theorem events_pure (a : α) : (pure a : Report α).events = [] := rfl

@[simp] theorem result_pure (a : α) : (pure a : Report α).result = a := rfl

@[simp] theorem events_bind (x : Report α) (f : α → Report β) :
    (x >>= f).events = x.events ++ (f x.result).events := rfl

@[simp] theorem result_bind (x : Report α) (f : α → Report β) :
    (x >>= f).result = (f x.result).result := rfl

end Report

/-- A report of a result or of a failure; the events up to the failure are kept. -/
abbrev Attempt (ε α : Type) := ExceptT ε Report α

namespace Attempt

variable {ε α : Type}

/-- A single event. -/
def log (e : Event) : Attempt ε Unit := ExceptT.lift (Report.log e)

/-- An outcome without events. -/
def ofExcept (x : Except ε α) : Attempt ε α := ExceptT.mk (pure x)

/-- An outcome whose failure is put in other terms. -/
def withFailure {ε' : Type} (f : ε → ε') (x : Attempt ε α) : Attempt ε' α :=
  ExceptT.mk ⟨x.run.events, x.run.result.mapError f⟩

end Attempt

end PropertyGraph
