import MeshTelemetry.Config
import MeshTelemetry.Config.Violation
import MeshTelemetry.Pairs

/-!
# MeshTelemetry.Naming

Endpoint names. Each service has rules of its own, in order; an endpoint gets the name of the
first rule whose pattern matches it as a whole, and keeps its own if there is none.

* `RuleGroup.rename?` — the name that a list of rules gives to an endpoint.
* `Naming.add`, `Naming.ofServices` — rules by service; `Naming.rename?`.
-/

namespace MeshTelemetry

/-- A rule with its compiled pattern. -/
structure CompiledRule where
  name : String
  regex : Regex
  deriving DecidableEq

/-- The rules of one service. -/
abbrev RuleGroup := List CompiledRule

namespace RuleGroup

/-- The group with a rule more, if its pattern compiles. -/
def add (group : RuleGroup) (name pattern : String) : Except RegexError RuleGroup :=
  match Regex.compileFullMatch pattern with
  | .error e => .error e
  | .ok regex => .ok (group ++ [⟨name, regex⟩])

/-- The name of the first rule that matches. -/
def rename? : RuleGroup → String → Option String
  | [], _ => none
  | rule :: rest, endpoint =>
    if rule.regex.isMatch endpoint then some rule.name else rename? rest endpoint

end RuleGroup

/-- Groups by service; no service occurs twice. -/
structure Naming where
  groups : List (String × RuleGroup)

namespace Naming

def empty : Naming := ⟨[]⟩

/-- The rules of a service; none, if it has no group. -/
def groupOf (n : Naming) (service : String) : RuleGroup := (n.groups.lookup service).getD []

/-- Adds a rule. The service has a group from then on, even if the pattern does not compile. -/
def add (n : Naming) (service name pattern : String) : Except RegexError Unit × Naming :=
  match (n.groupOf service).add name pattern with
  | .error e => (.error e, ⟨Pairs.assign service (n.groupOf service) n.groups⟩)
  | .ok group => (.ok (), ⟨Pairs.assign service group n.groups⟩)

/-- Adds the rules of one service, up to the first whose pattern does not compile. -/
def addRules (service : String) : List NamingRule → Naming → Except Violation Naming
  | [], n => .ok n
  | rule :: rest, n =>
    match n.add service rule.name rule.pattern with
    | (.error e, _) => .error (.uncompiledPattern service rule.name e)
    | (.ok (), n) => addRules service rest n

def addServices : List ServiceRules → Naming → Except Violation Naming
  | [], n => .ok n
  | s :: rest, n =>
    match addRules s.service s.rules n with
    | .error e => .error e
    | .ok n => addServices rest n

def ofServices (services : List ServiceRules) : Except Violation Naming :=
  addServices services empty

def serviceCount (n : Naming) : Nat := n.groups.length

def ruleCount (n : Naming) : Nat := (n.groups.flatMap fun (_, group) => group).length

def rename? (n : Naming) (service endpoint : String) : Option String :=
  (n.groupOf service).rename? endpoint

end Naming

end MeshTelemetry
