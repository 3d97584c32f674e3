/-!
# MeshTelemetry.Config

Configurations: the naming rules of services, and the receivers that sources go to.
-/

namespace MeshTelemetry

/-- The version of the configuration format. -/
inductive ConfigVersion
  | v1
  deriving DecidableEq, Repr

/-- An endpoint whose whole name matches the pattern gets the name of the rule. -/
structure NamingRule where
  name : String
  pattern : String
  deriving DecidableEq, Repr

/-- The rules of one service, the first matching one of which counts. -/
structure ServiceRules where
  service : String
  rules : List NamingRule
  deriving DecidableEq, Repr

inductive ReceiverType
  | log
  | file
  deriving DecidableEq, Repr

/-- A receiver to be opened. No key occurs twice among the parameters. -/
structure ReceiverSettings where
  name : String
  type : ReceiverType
  params : List (String × String)
  deriving DecidableEq, Repr

structure Config where
  version : ConfigVersion
  services : List ServiceRules
  receivers : List ReceiverSettings
  deriving DecidableEq, Repr

namespace Config

def empty : Config := ⟨.v1, [], []⟩

def ruleCount (services : List ServiceRules) : Nat :=
  (services.flatMap fun s => s.rules).length

end Config

end MeshTelemetry
