import MeshTelemetry.Store

/-!
# MeshTelemetry.Host

What the program acts on: its files, its meters and its log.

* `Meter` — what is counted, and `Meter.key`; `Meters.count` — how often.
* `Event` — an entry of the log.
* `Host.tally`, `Host.log` — count and log something.
-/

namespace MeshTelemetry

/-- What is counted: sources by kind, records by success, renamed endpoints by service, and
measured latencies. -/
inductive Meter
  | sources (kind : SourceKind)
  | records (success : Bool)
  | renamed (service : String)
  | latency
  deriving DecidableEq, Repr

namespace Meter

def labelled (name label value : String) : String :=
  name ++ "\x7b" ++ label ++ "=" ++ value ++ "\x7d"

def key : Meter → String
  | .sources kind => labelled "mesh_sources_emitted_total" "kind" kind.name
  | .records success =>
    labelled "mesh_metrics_processed_total" "status" (if success then "success" else "failure")
  | .renamed service => labelled "mesh_endpoint_renamed_total" "service" service
  | .latency => "mesh_analysis_latency"

end Meter

abbrev Meters := List (Meter × Nat)

namespace Meters

def bump (meter : Meter) : Meters → Meters
  | [] => [(meter, 1)]
  | (m, n) :: rest => if m = meter then (m, n + 1) :: rest else (m, n) :: bump meter rest

def count (meters : Meters) (meter : Meter) : Nat := (meters.lookup meter).getD 0

end Meters

/-- Levels of the log, from the most to the least verbose. -/
inductive Level
  | trace
  | debug
  | info
  | warn
  | error
  deriving DecidableEq, Repr

namespace Level

def name : Level → String
  | .trace => "TRACE"
  | .debug => "DEBUG"
  | .info => "INFO"
  | .warn => "WARN"
  | .error => "ERROR"

def severity : Level → Nat
  | .trace => 0
  | .debug => 1
  | .info => 2
  | .warn => 3
  | .error => 4

end Level

/-- The parts of the program that make entries of the log. -/
inductive Component
  | program
  | logging
  | processCommand
  | validateCommand
  | infoCommand
  | replay
  | dispatcher
  | normalizer
  | receiverSet
  | logReceiver
  | fileReceiver
  deriving DecidableEq, Repr

namespace Component

/-- The name by which a filter of the log selects a component: the names of the parts that it lies
in, from the outermost. -/
def path (c : Component) : String :=
  "::".intercalate <|
    match c with
    | .program => ["mesh_analyzer"]
    | .logging => ["observability"]
    | .processCommand => ["mesh_analyzer", "commands", "process"]
    | .validateCommand => ["mesh_analyzer", "commands", "validate"]
    | .infoCommand => ["mesh_analyzer", "commands", "info"]
    | .replay => ["mesh_analyzer", "pipeline", "processor"]
    | .dispatcher => ["dispatcher", "dispatcher"]
    | .normalizer => ["dispatcher", "normalizer"]
    | .receiverSet => ["dispatcher", "receivers", "set"]
    | .logReceiver => ["dispatcher", "receivers", "log"]
    | .fileReceiver => ["dispatcher", "receivers", "file"]

end Component

/-- An entry of the log. -/
structure Event where
  level : Level
  component : Component
  message : String
  fields : List (String × String)
  deriving DecidableEq, Repr

/-- The log has its last entry first. -/
structure Host where
  store : Store
  meters : Meters
  events : List Event

namespace Host

def withStore (store : Store) : Host := ⟨store, [], []⟩

def tally (h : Host) (meter : Meter) : Host := { h with meters := h.meters.bump meter }

def log (h : Host) (level : Level) (component : Component) (message : String)
    (fields : List (String × String)) : Host :=
  { h with events := ⟨level, component, message, fields⟩ :: h.events }

end Host

end MeshTelemetry
