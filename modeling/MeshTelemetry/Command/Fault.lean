import MeshTelemetry.Config.Load
import MeshTelemetry.Replay

/-!
# MeshTelemetry.Command.Fault

Why a command fails, and loading the configuration that a command was given.
-/

namespace MeshTelemetry

inductive CommandFault
  | noConfig (path : String)
  | noInput (path : String)
  | unloadable (path : String) (cause : Fault)
  | invalid
  | replay (cause : ReplayFault)
  deriving DecidableEq, Repr

namespace CommandFault

def message : CommandFault → String
  | .noConfig path => "Configuration file not found: " ++ path
  | .noInput path => "Input file not found: " ++ path
  | .unloadable path _ => "Failed to load config from " ++ path
  | .invalid => "Configuration validation failed"
  | .replay _ => "Processing failed"

/-- The message, and behind it those of its causes. -/
def chain (f : CommandFault) : List String :=
  match f with
  | .unloadable _ cause => f.message :: cause.chain
  | .replay cause => f.message :: cause.chain
  | _ => [f.message]

end CommandFault

/-- Loads the configuration from a file that must exist. -/
def Config.loadExisting (s : Store) (path : String) : Except CommandFault Config :=
  if s.isPresent path then (Config.loadFile s path).mapError (.unloadable path)
  else .error (.noConfig path)

end MeshTelemetry
