import MeshTelemetry.Config
import MeshTelemetry.Config.Violation

/-!
# MeshTelemetry.Config.Validation

Which configurations are valid: the names of services and of receivers are not empty and occur
once, rules have a name and a pattern that compiles, and a file receiver has a path.

* `Config.validate` — the first violation, first of the services, then of the rules, then of the
  receivers.
-/

namespace MeshTelemetry
namespace Config

/-- The names seen so far are in `seen`; `index` is the place of the first service given. -/
def checkServices : Nat → List String → List ServiceRules → Except Violation Unit
  | _, _, [] => .ok ()
  | index, seen, s :: rest =>
    if s.service.isEmpty then .error (.emptyService index)
    else if seen.contains s.service then .error (.repeatedService s.service)
    else checkServices (index + 1) (s.service :: seen) rest

def checkRules (service : String) : Nat → List NamingRule → Except Violation Unit
  | _, [] => .ok ()
  | index, r :: rest =>
    if r.name.isEmpty then .error (.emptyRule service index)
    else
      match Regex.compileFullMatch r.pattern with
      | .error e => .error (.invalidPattern service r.name r.pattern e)
      | .ok _ => checkRules service (index + 1) rest

def checkAllRules : List ServiceRules → Except Violation Unit
  | [] => .ok ()
  | s :: rest =>
    match checkRules s.service 0 s.rules with
    | .error e => .error e
    | .ok () => checkAllRules rest

def lacksPath (r : ReceiverSettings) : Bool :=
  r.type = .file && (r.params.lookup "path").all String.isEmpty

def checkReceivers : Nat → List String → List ReceiverSettings → Except Violation Unit
  | _, _, [] => .ok ()
  | index, seen, r :: rest =>
    if r.name.isEmpty then .error (.emptyReceiver index)
    else if seen.contains r.name then .error (.repeatedReceiver r.name)
    else if lacksPath r then .error (.missingPath r.name)
    else checkReceivers (index + 1) (r.name :: seen) rest

/-- The first violation, if there is one. -/
def validate (c : Config) : Except Violation Unit :=
  match checkServices 0 [] c.services with
  | .error e => .error e
  | .ok () =>
    match checkAllRules c.services with
    | .error e => .error e
    | .ok () => checkReceivers 0 [] c.receivers

end Config
end MeshTelemetry
