/-
# Settings

What can be set: from which severity on events are kept and in which form, whether candidate scans
are pruned, and how often a search reports progress.
-/
import PropertyGraph.Event

namespace PropertyGraph

/-- The names of severity thresholds.  Some thresholds have two names. -/
inductive Level
  | critical
  | fatal
  | error
  | warning
  | warn
  | info
  | debug
  | notset
deriving DecidableEq, Repr

namespace Level

/-- All names of thresholds. -/
def all : List Level := [.critical, .fatal, .error, .warning, .warn, .info, .debug, .notset]

/-- The spelling of a name. -/
def name : Level → String
  | .critical => "CRITICAL"
  | .fatal => "FATAL"
  | .error => "ERROR"
  | .warning => "WARNING"
  | .warn => "WARN"
  | .info => "INFO"
  | .debug => "DEBUG"
  | .notset => "NOTSET"

/-- The threshold that a name stands for. -/
def number : Level → Nat
  | .critical | .fatal => 50
  | .error => 40
  | .warning | .warn => 30
  | .info => 20
  | .debug => 10
  | .notset => 0

end Level

/-- The settings. -/
structure Settings where
  /-- Events below this threshold are dropped. -/
  logLevel : Level := .warning
  /-- Whether kept events show their fields. -/
  logJson : Bool := false
  /-- Whether candidate scans look only at nodes that share a label with the expected node. -/
  labelPruning : Bool := true
  /-- After how many rejected mappings a search reports progress; never for 0.  The sign does not
  matter. -/
  progressEvery : Int := 10000
deriving DecidableEq, Repr

/-- The events that are kept under the settings. -/
def Settings.keep (s : Settings) (events : List Event) : List Event :=
  Event.atLeast s.logLevel.number events

end PropertyGraph
