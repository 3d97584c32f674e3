import MeshTelemetry.Config.Codec
import MeshTelemetry.Toml.Text

/-!
# MeshTelemetry.Config.Toml

Configurations as TOML text. Lists that hold anything are written as arrays of tables; the empty
ones come first, as values.
-/

namespace MeshTelemetry

namespace NamingRule

def toToml (r : NamingRule) : String :=
  "\n[[endpoint_naming.services.rules]]\n" ++
  "name = " ++ Toml.quoted r.name ++ "\npattern = " ++ Toml.quoted r.pattern ++ "\n"

end NamingRule

namespace ServiceRules

def toToml (s : ServiceRules) : String :=
  "\n[[endpoint_naming.services]]\nservice = " ++ Toml.quoted s.service ++ "\n" ++
  (if s.rules.isEmpty then "rules = []\n" else String.join (s.rules.map NamingRule.toToml))

end ServiceRules

namespace ReceiverSettings

def paramToToml (param : String × String) : String :=
  Toml.key param.1 ++ " = " ++ Toml.quoted param.2 ++ "\n"

def toToml (r : ReceiverSettings) : String :=
  "\n[[receivers]]\nname = " ++ Toml.quoted r.name ++ "\nreceiver_type = " ++
  Toml.quoted r.type.name ++ "\n\n[receivers.params]\n" ++ String.join (r.params.map paramToToml)

end ReceiverSettings

namespace Config

def toToml (c : Config) : String :=
  "version = " ++ Toml.quoted c.version.name ++ "\n" ++
  (if c.receivers.isEmpty then "receivers = []\n" else "") ++
  (if c.services.isEmpty then "\n[endpoint_naming]\nservices = []\n"
    else String.join (c.services.map ServiceRules.toToml)) ++
  String.join (c.receivers.map ReceiverSettings.toToml)

end Config

end MeshTelemetry
