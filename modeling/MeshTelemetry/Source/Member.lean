import MeshTelemetry.Json.Text
import MeshTelemetry.Source
import MeshTelemetry.Text.Quoted

/-!
# MeshTelemetry.Source.Member

The members of a source, in the order in which they are written. Both texts of a source are
written from them.

* `Source.toJson` — the value that stands for a source in a file, with its kind as first member.
* `Source.shown` — the text that stands for a source in a log.
-/

namespace MeshTelemetry

namespace RequestType

def name : RequestType → String
  | .rpc => "Rpc"
  | .database => "Database"
  | .http => "Http"
  | .grpc => "Grpc"
  | .mq => "Mq"
  | .logic => "Logic"

end RequestType

namespace NodeType

def name : NodeType → String
  | .normal => "Normal"
  | .database => "Database"
  | .rpc => "Rpc"
  | .user => "User"
  | .mq => "Mq"
  | .http => "Http"
  | .browser => "Browser"
  | .unrecognized => "Unrecognized"

end NodeType

namespace DetectPoint

def name : DetectPoint → String
  | .client => "CLIENT"
  | .server => "SERVER"
  | .proxy => "PROXY"

def shown : DetectPoint → String
  | .client => "Client"
  | .server => "Server"
  | .proxy => "Proxy"

end DetectPoint

/-- The value of a member. -/
inductive MemberValue
  | text (value : String)
  | number (value : Int)
  | flag (value : Bool)
  | nodeType (value : NodeType)
  | requestType (value : RequestType)
  | detectPoint (value : DetectPoint)

namespace MemberValue

def toJson : MemberValue → Json
  | .text s => .text s
  | .number z => .int z
  | .flag b => .bool b
  | .nodeType t => .text t.name
  | .requestType t => .text t.name
  | .detectPoint p => .text p.name

def shown : MemberValue → String
  | .text s => Text.quoted s
  | .number z => toString z
  | .flag b => if b then "true" else "false"
  | .nodeType t => t.name
  | .requestType t => t.name
  | .detectPoint p => p.shown

end MemberValue

def Call.members (c : Call) : List (String × MemberValue) :=
  [ ("latency", .number c.latency.toInt), ("status", .flag c.status),
    ("response_code", .number c.responseCode.toInt), ("request_type", .requestType c.requestType) ]

def Relation.members (r : Relation) : List (String × MemberValue) :=
  [ ("time_bucket", .number r.timeBucket.toInt),
    ("source_service_name", .text r.source.serviceName),
    ("source_service_node_type", .nodeType r.source.nodeType),
    ("source_service_instance_name", .text r.source.instanceName),
    ("dest_service_name", .text r.dest.serviceName),
    ("dest_service_node_type", .nodeType r.dest.nodeType),
    ("dest_service_instance_name", .text r.dest.instanceName),
    ("endpoint", .text r.endpoint) ] ++ r.call.members ++
  [ ("component_id", .number r.componentId.toInt), ("detect_point", .detectPoint r.detectPoint) ]

namespace SourceKind

def shown : SourceKind → String
  | .instanceUpdate => "ServiceInstanceUpdate"
  | .all => "All"
  | .service => "Service"
  | .serviceInstance => "ServiceInstance"
  | .endpoint => "Endpoint"
  | .serviceRelation => "ServiceRelation"
  | .instanceRelation => "ServiceInstanceRelation"

end SourceKind

namespace Source

def members : Source → List (String × MemberValue)
  | .instanceUpdate s =>
    [ ("service_id", .text s.serviceId), ("name", .text s.name),
      ("time_bucket", .number s.timeBucket.toInt) ]
  | .all s =>
    [ ("time_bucket", .number s.timeBucket.toInt), ("name", .text s.name),
      ("service_instance_name", .text s.instanceName),
      ("endpoint_name", .text s.endpointName) ] ++ s.call.members
  | .service s =>
    [ ("time_bucket", .number s.timeBucket.toInt), ("name", .text s.name),
      ("node_type", .nodeType s.nodeType), ("service_instance_name", .text s.instanceName),
      ("endpoint_name", .text s.endpointName) ] ++ s.call.members
  | .serviceInstance s =>
    [ ("time_bucket", .number s.timeBucket.toInt), ("name", .text s.name),
      ("service_name", .text s.serviceName), ("node_type", .nodeType s.nodeType),
      ("endpoint_name", .text s.endpointName) ] ++ s.call.members
  | .endpoint s =>
    [ ("time_bucket", .number s.timeBucket.toInt), ("name", .text s.name),
      ("service_name", .text s.serviceName), ("service_node_type", .nodeType s.serviceNodeType),
      ("service_instance_name", .text s.instanceName) ] ++ s.call.members
  | .serviceRelation r => r.members
  | .instanceRelation r => r.members

/-- A source with its kind as first member. -/
def toJson (s : Source) : Json :=
  .object (("kind", .text s.kind.name) :: s.members.map fun (k, v) => (k, v.toJson))

def line (s : Source) : String := s.toJson.compact

def shown (s : Source) : String :=
  let members := ", ".intercalate (s.members.map fun (k, v) => k ++ ": " ++ v.shown)
  s.kind.shown ++ "(" ++ s.kind.shown ++ " \x7b " ++ members ++ " \x7d)"

end Source

end MeshTelemetry
