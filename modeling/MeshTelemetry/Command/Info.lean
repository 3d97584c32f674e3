import MeshTelemetry.CommandLine
import MeshTelemetry.Command.Fault

/-!
# MeshTelemetry.Command.Info

Showing a configuration: how much it holds, and, if asked for, its rules and receivers.

* `InfoOptions.toJson`, `InfoOptions.shown` — the two forms.
* `InfoOptions.run` — the command.
-/

namespace MeshTelemetry
namespace InfoOptions

def receiverJson (r : ReceiverSettings) : Json :=
  .object <|
    [("name", .text r.name), ("receiver_type", .text r.type.shown)] ++
      if r.params.isEmpty then []
      else [("params", .object (r.params.map fun (key, value) => (key, .text value)))]

/-- A member with a list; none, if the list is empty. -/
def listMember (name : String) (items : List Json) : List (String × Json) :=
  if items.isEmpty then [] else [(name, .list items)]

def toJson (o : InfoOptions) (c : Config) : Json :=
  .object <|
    [ ("version", .text c.version.name),
      ("naming_rule_count", .int (Config.ruleCount c.services)) ] ++
      listMember "naming" (if o.rules then c.services.map ServiceRules.toJson else []) ++
      [("receiver_count", .int c.receivers.length)] ++
      listMember "receivers" (if o.receivers then c.receivers.map receiverJson else [])

/-- Draws a list as branches of a tree. Each item is drawn behind its branch, with what is left of
its children; the last branch ends the stem. -/
def tree (draw : String → String → α → String) : List α → String
  | [] => ""
  | [last] => draw "└─" "   " last
  | item :: rest => draw "├─" "│  " item ++ tree draw rest

def ruleText (stem : String) (branch : String) (_ : String) (r : NamingRule) : String :=
  "   " ++ stem ++ "  " ++ branch ++ " " ++ r.name ++ " <- " ++ r.pattern ++ "\n"

def serviceText (o : InfoOptions) (branch stem : String) (s : ServiceRules) : String :=
  "   " ++ branch ++ " " ++ s.service ++ "\n" ++
    if o.rules then tree (ruleText stem) s.rules
    else "   " ++ stem ++ "  └─ " ++ toString s.rules.length ++ " rules\n"

def paramText : String × String → String
  | (key, value) => "        " ++ key ++ " = " ++ value ++ "\n"

def sortedParams (r : ReceiverSettings) : List (String × String) :=
  r.params.mergeSort fun a b => decide (a.1 < b.1 ∨ a.1 = b.1)

/-- A receiver with its parameters, if they are asked for. -/
def receiverText (o : InfoOptions) (branch _stem : String) (r : ReceiverSettings) : String :=
  "   " ++ branch ++ " " ++ r.name ++ " (" ++ r.type.shown ++ ")\n" ++
    if o.receivers then String.join ((sortedParams r).map paramText) else ""

def shown (o : InfoOptions) (c : Config) : String :=
  "=== Mesh Analyzer Configuration ===\n\n" ++
  "Version: " ++ c.version.name ++ "\n" ++
  "\nEndpoint naming (" ++ toString c.services.length ++ " services, " ++
    toString (Config.ruleCount c.services) ++ " rules)\n" ++
  tree o.serviceText c.services ++
  "\nReceivers (" ++ toString c.receivers.length ++ ")\n" ++
  tree o.receiverText c.receivers ++
  "\n"

def run (o : InfoOptions) (h : Host) : Except CommandFault Unit × String × Host :=
  let h := h.log .info .infoCommand "Loading configuration info" [("config", o.config)]
  match Config.loadExisting h.store o.config with
  | .error e => (.error e, "", h)
  | .ok c => (.ok (), if o.json then (o.toJson c).indented ++ "\n" else o.shown c, h)

end InfoOptions
end MeshTelemetry
