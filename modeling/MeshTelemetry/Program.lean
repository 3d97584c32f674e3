import MeshTelemetry.Command.Info
import MeshTelemetry.Command.Process
import MeshTelemetry.Command.Validate
import MeshTelemetry.Environment.File
import MeshTelemetry.Log.Filter

/-!
# MeshTelemetry.Program

The program as a whole: what a command line, the environment and the files lead to.

* `Command.start`, `Stage.conclude` — the two steps of a command.
* `Invocation.start`, `Ending.ofStage` — those of a run of the program, which says what it does and
  ends with an exit code.
* `Invocation.filter` — which entries of the log are written.
-/

namespace MeshTelemetry

/-- Where a command stands after its first step: it is through, or has replayed. -/
inductive Stage
  | through (result : Except CommandFault Unit) (output : String)
  | replayed (outcome : Replayed)

namespace Stage

/-- The second step, some nanoseconds after the beginning of a replay. -/
def conclude (s : Stage) (nanos : Nat) (h : Host) : Outcome CommandFault Unit × String × Host :=
  match s with
  | .through (.ok ()) output => (.done (), output, h)
  | .through (.error e) output => (.failed e, output, h)
  | .replayed outcome => outcome.conclude nanos h

end Stage

namespace Command

/-- The first step of a command. -/
def start (c : Command) (stdin : Bytes) (isStopped : Nat → Bool) (h : Host) : Stage × Host :=
  match c with
  | .validate o =>
    match o.run h with
    | (result, output, h) => (.through result output, h)
  | .info o =>
    match o.run h with
    | (result, output, h) => (.through result output, h)
  | .process o =>
    match o.start stdin isStopped h with
    | (.error e, h) => (.through (.error e) "", h)
    | (.ok (.inl output), h) => (.through (.ok ()) output, h)
    | (.ok (.inr outcome), h) => (.replayed outcome, h)

end Command

def programVersion : String := "0.1.0"

namespace Invocation

/-- The least severe level that is logged if the environment does not say it. -/
def level (i : Invocation) : Level :=
  if i.quiet then .warn
  else
    match i.verbosity with
    | 0 => .info
    | 1 => .debug
    | _ => .trace

/-- The filter of the variable, unless the run is quiet or the variable holds none. -/
def filter (i : Invocation) (env : Environment) : LogFilter :=
  match if i.quiet then none else (List.lookup "RUST_LOG" env).bind LogFilter.parse? with
  | some f => f
  | none => .ofLevel i.level

/-- The first step of a run. -/
def start (i : Invocation) (stdin : Bytes) (isStopped : Nat → Bool) (h : Host) : Stage × Host :=
  let h := h.log .info .logging "Observability initialized"
    [("log_format", i.logFormat.name), ("metrics_port", "None")]
  let h := h.log .info .program "Mesh Analyzer CLI starting" [("version", programVersion)]
  i.command.start stdin isStopped h

end Invocation

/-- How a run ends: with an exit code, a text for standard output, and one for the failure. -/
structure Ending where
  exitCode : Nat
  output : String
  failure : List String
  host : Host

namespace Ending

def crashCode : Nat := 101

def ofStage (s : Stage) (nanos : Nat) (h : Host) : Ending :=
  match s.conclude nanos h with
  | (.done (), output, h) => ⟨0, output, [], h⟩
  | (.failed e, output, h) =>
    ⟨1, output, e.chain, h.log .error .program "Command failed" [("error", e.message)]⟩
  | (.crashed m, output, h) => ⟨crashCode, output, [m], h⟩

/-- The entries of the log that are written, from the first. -/
def entries (e : Ending) (f : LogFilter) : List Event := e.host.events.reverse.filter f.allows

end Ending

end MeshTelemetry
