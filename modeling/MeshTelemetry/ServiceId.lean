import MeshTelemetry.Source
import MeshTelemetry.Text.Base64
import MeshTelemetry.Text.Bytes

/-!
# MeshTelemetry.ServiceId

Identities of services. The id of a service is the base64 text of its name, a dot, and the number
of its node type; no dot occurs in base64.
-/

namespace MeshTelemetry
namespace ServiceId

def ofService (name : String) (type : NodeType) : String :=
  String.ofList (Text.Base64.encode (Text.encode name)) ++ "." ++ toString type.value

end ServiceId
end MeshTelemetry
