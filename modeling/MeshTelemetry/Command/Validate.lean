import MeshTelemetry.CommandLine
import MeshTelemetry.Command.Fault

/-!
# MeshTelemetry.Command.Validate

Validating a configuration file: whether it can be loaded, what is in it, and what is odd about it.

* `Validation.ofFile` — looks at a file.
* `Validation.toJson`, `Validation.shown` — the two reports on it.
* `ValidateOptions.run` — the command.
-/

namespace MeshTelemetry

inductive ValidationFault
  | notFound (path : String)
  | unloadable (cause : Fault)
  deriving DecidableEq, Repr

def ValidationFault.message : ValidationFault → String
  | .notFound path => "File not found: " ++ path
  | .unloadable cause => cause.message

/-- The configuration that a file holds, or what is wrong with the file. -/
structure Validation where
  path : String
  loaded : Except ValidationFault Config

namespace Validation

def ofFile (s : Store) (path : String) : Validation where
  path := path
  loaded :=
    if s.isPresent path then (Config.loadFile s path).mapError .unloadable
    else .error (.notFound path)

def isValid (v : Validation) : Bool :=
  match v.loaded with
  | .ok _ => true
  | .error _ => false

def ruleWarning? (s : ServiceRules) : Option String :=
  if s.rules.isEmpty then
    some ("Service '" ++ s.service ++ "' has no naming rules configured")
  else none

def warnings (c : Config) : List String :=
  (if c.receivers.isEmpty then ["No receivers configured - sources will only be logged"] else []) ++
    c.services.filterMap ruleWarning?

def summaryJson (c : Config) : Json :=
  .object
    [ ("version", .text c.version.name),
      ("naming_service_count", .int c.services.length),
      ("naming_rule_count", .int (Config.ruleCount c.services)),
      ("receiver_count", .int c.receivers.length) ]

def warningsJson (c : Config) : List (String × Json) :=
  if (warnings c).isEmpty then [] else [("warnings", .list ((warnings c).map .text))]

def toJson (v : Validation) : Json :=
  .object <|
    [("valid", .bool v.isValid), ("config_path", .text v.path)] ++
      match v.loaded with
      | .error e => [("error", .text e.message)]
      | .ok c => warningsJson c ++ [("summary", summaryJson c)]

def summaryText (c : Config) : String :=
  "\n  Version: " ++ c.version.name ++ "\n" ++
  "  Naming services: " ++ toString c.services.length ++ "\n" ++
  "  Naming rules: " ++ toString (Config.ruleCount c.services) ++ "\n" ++
  "  Receivers: " ++ toString c.receivers.length ++ "\n"

def warningsText (c : Config) : String :=
  if (warnings c).isEmpty then ""
  else "\n⚠ Warnings:\n" ++ String.join ((warnings c).map fun w => "  - " ++ w ++ "\n")

def shown (v : Validation) : String :=
  match v.loaded with
  | .ok c => "✓ Configuration is valid: " ++ v.path ++ "\n" ++ summaryText c ++ warningsText c
  | .error e =>
    "✗ Configuration is invalid: " ++ v.path ++ "\n" ++ "\n  Error: " ++ e.message ++ "\n"

end Validation

namespace ValidateOptions

/-- Reports on a configuration file; fails if the configuration is not valid. -/
def run (o : ValidateOptions) (h : Host) : Except CommandFault Unit × String × Host :=
  let h := h.log .info .validateCommand "Validating configuration" [("config", o.config)]
  let v := Validation.ofFile h.store o.config
  let output := if o.json then v.toJson.indented ++ "\n" else v.shown
  (if v.isValid then .ok () else .error .invalid, output, h)

end ValidateOptions

end MeshTelemetry
