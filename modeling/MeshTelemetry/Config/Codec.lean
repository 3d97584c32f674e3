import MeshTelemetry.Config
import MeshTelemetry.Document.Record
import MeshTelemetry.Json.Reader
import MeshTelemetry.Json.Text

/-!
# MeshTelemetry.Config.Codec

Configurations as documents, which may come from JSON or from TOML, and as JSON values. Whatever
has a default may be left out.

* `Config.decoder` — configurations; `NamingRule.decoder` and others — their parts.
* `Config.toJson` — the value a configuration is written as.
-/

namespace MeshTelemetry

namespace ConfigVersion

def name : ConfigVersion → String
  | .v1 => "V1"

def names : Decoder.Names ConfigVersion where
  known := [("V1", .v1)]
  listed := ["V1"]
  otherwise := none

end ConfigVersion

namespace ReceiverType

def name : ReceiverType → String
  | .log => "log"
  | .file => "file"

def shown : ReceiverType → String
  | .log => "Log"
  | .file => "File"

def names : Decoder.Names ReceiverType where
  known := [("log", .log), ("file", .file)]
  listed := ["log", "file"]
  otherwise := none

end ReceiverType

namespace NamingRule

def fields : List Field :=
  [⟨"name", String, Decoder.text, none⟩, ⟨"pattern", String, Decoder.text, none⟩]

def ofValues : Record.Values fields → NamingRule
  | (name, pattern, ()) => { name, pattern }

def decoder (dialect : Dialect) : Decoder NamingRule := fun d =>
  (Record.decode dialect "struct NamingRule" fields d).map ofValues

def toJson (r : NamingRule) : Json :=
  .object [("name", .text r.name), ("pattern", .text r.pattern)]

end NamingRule

namespace ServiceRules

def fields (dialect : Dialect) : List Field :=
  [ ⟨"service", String, Decoder.text, none⟩,
    ⟨"rules", List NamingRule, Decoder.list (NamingRule.decoder dialect), some []⟩ ]

def ofValues {dialect : Dialect} : Record.Values (fields dialect) → ServiceRules
  | (service, rules, ()) => { service, rules }

def decoder (dialect : Dialect) : Decoder ServiceRules := fun d =>
  (Record.decode dialect "struct ServiceNamingRules" (fields dialect) d).map ofValues

def toJson (s : ServiceRules) : Json :=
  .object [("service", .text s.service), ("rules", .list (s.rules.map NamingRule.toJson))]

end ServiceRules

namespace ReceiverSettings

def fields (dialect : Dialect) : List Field :=
  [ ⟨"name", String, Decoder.text, none⟩,
    ⟨"receiver_type", ReceiverType, Decoder.named dialect ReceiverType.names, none⟩,
    ⟨"params", List (String × String), Decoder.texts, some []⟩ ]

def ofValues {dialect : Dialect} : Record.Values (fields dialect) → ReceiverSettings
  | (name, type, params, ()) => { name, type, params }

def decoder (dialect : Dialect) : Decoder ReceiverSettings := fun d =>
  (Record.decode dialect "struct ReceiverConfig" (fields dialect) d).map ofValues

def toJson (r : ReceiverSettings) : Json :=
  .object
    [ ("name", .text r.name), ("receiver_type", .text r.type.name),
      ("params", .object (r.params.map fun (k, v) => (k, .text v))) ]

end ReceiverSettings

namespace Config

def namingFields (dialect : Dialect) : List Field :=
  [⟨"services", List ServiceRules, Decoder.list (ServiceRules.decoder dialect), some []⟩]

def namingDecoder (dialect : Dialect) : Decoder (List ServiceRules) := fun d =>
  (Record.decode dialect "struct EndpointNamingConfig" (namingFields dialect) d).map (·.1)

def fields (dialect : Dialect) : List Field :=
  [ ⟨"version", ConfigVersion, Decoder.named dialect ConfigVersion.names, some .v1⟩,
    ⟨"endpoint_naming", List ServiceRules, namingDecoder dialect, some []⟩,
    ⟨"receivers", List ReceiverSettings, Decoder.list (ReceiverSettings.decoder dialect),
      some []⟩ ]

def ofValues {dialect : Dialect} : Record.Values (fields dialect) → Config
  | (version, services, receivers, ()) => { version, services, receivers }

def decoder (dialect : Dialect) : Decoder Config := fun d =>
  (Record.decode dialect "struct MeshAnalysisConfig" (fields dialect) d).map ofValues

def toJson (c : Config) : Json :=
  .object
    [ ("version", .text c.version.name),
      ("endpoint_naming", .object [("services", .list (c.services.map ServiceRules.toJson))]),
      ("receivers", .list (c.receivers.map ReceiverSettings.toJson)) ]

end Config

end MeshTelemetry
