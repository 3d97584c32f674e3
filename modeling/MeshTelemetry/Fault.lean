import MeshTelemetry.Config.Violation
import MeshTelemetry.Document
import MeshTelemetry.Source

/-!
# MeshTelemetry.Fault

What can go wrong, as causes. Each kind of fault has its message.

* `IoFault` — a file cannot be used as asked.
* `ConfigFault` — a text is no configuration.
* `Fault` — the faults of all parts; `DispatchFault` — those of dispatching a record.
* `Outcome` — a call returns, fails or crashes.
-/

namespace MeshTelemetry

/-- A file cannot be used as asked. A `badLine` has bytes at `index` that are no character;
`length` is the number of those bytes, if more follow. -/
inductive IoFault
  | notFound
  | alreadyExists
  | notDirectory
  | isDirectory
  | noSpace
  | nameTooLong
  | nulInName
  | notText
  | badLine (index : Nat) (length : Option Nat)
  deriving DecidableEq, Repr

namespace IoFault

def message : IoFault → String
  | .notFound => "No such file or directory (os error 2)"
  | .alreadyExists => "File exists (os error 17)"
  | .notDirectory => "Not a directory (os error 20)"
  | .isDirectory => "Is a directory (os error 21)"
  | .noSpace => "No space left on device (os error 28)"
  | .nameTooLong => "File name too long (os error 36)"
  | .nulInName => "file name contained an unexpected NUL byte"
  | .notText => "stream did not contain valid UTF-8"
  | .badLine index (some length) =>
    "invalid utf-8 sequence of " ++ toString length ++ " bytes from index " ++ toString index
  | .badLine index none => "incomplete utf-8 byte sequence from index " ++ toString index

end IoFault

namespace DecodeError

def message : DecodeError → String
  | .malformed => "malformed text"
  | .misfit cause => cause.message

end DecodeError

/-- Why there is no configuration. -/
inductive ConfigFault
  | noExtension
  | unknownExtension (extension : String)
  | toml (cause : DecodeError)
  | json (cause : DecodeError)
  deriving DecidableEq, Repr

namespace ConfigFault

def message : ConfigFault → String
  | .noExtension => "cannot determine file format from extension"
  | .unknownExtension extension => "unsupported config format: ." ++ extension
  | .toml cause => "TOML parse error: " ++ cause.message
  | .json cause => "JSON parse error: " ++ cause.message

end ConfigFault

inductive Fault
  | config (cause : ConfigFault)
  | violation (cause : Violation)
  | receiver (name message : String)
  | identity (service message : String)
  | endpoint (service message : String)
  | timeBucket (millis : Int64)
  | io (cause : IoFault)
  | other (message : String)
  deriving DecidableEq, Repr

namespace Fault

def message : Fault → String
  | .config cause => "config parse error: " ++ cause.message
  | .violation cause =>
    "config validation error at '" ++ cause.field ++ "': " ++ cause.reason
  | .receiver name message => "receiver '" ++ name ++ "' error: " ++ message
  | .identity service message =>
    "identity encoding error for service '" ++ service ++ "': " ++ message
  | .endpoint service message =>
    "endpoint format error for service '" ++ service ++ "': " ++ message
  | .timeBucket millis =>
    "time bucket error: timestamp " ++ toString millis.toInt ++ "ms is out of range"
  | .io cause => "io error: " ++ cause.message
  | .other message => message

/-- The message, and behind it those of the causes that have a message of their own. -/
def chain (f : Fault) : List String :=
  match f with
  | .io cause => [f.message, cause.message]
  | _ => [f.message]

end Fault

/-- A receiver that cannot be opened. -/
structure OpenFault where
  receiver : String
  cause : IoFault
  deriving DecidableEq, Repr

def OpenFault.message (f : OpenFault) : String :=
  "failed to create receiver '" ++ f.receiver ++ "': " ++ f.cause.message

/-- A record that is not dispatched as a whole. -/
inductive DispatchFault
  | refused (kind : SourceKind) (cause : Fault)
  | collaborator (cause : Fault)
  deriving DecidableEq, Repr

namespace DispatchFault

def message : DispatchFault → String
  | .refused kind cause => "failed to forward '" ++ kind.name ++ "' source: " ++ cause.message
  | .collaborator cause => "collaborator error: " ++ cause.message

end DispatchFault

/-- What comes of a call. -/
inductive Outcome (ε α : Type)
  | done (value : α)
  | failed (cause : ε)
  | crashed (message : String)
  deriving DecidableEq, Repr

end MeshTelemetry
