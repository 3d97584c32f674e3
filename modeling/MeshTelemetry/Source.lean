/-!
# MeshTelemetry.Source

Sources: the events that one metric record gives rise to. A source refreshes a service instance,
describes the traffic of a node of the mesh, or describes an edge between two of them.
-/

namespace MeshTelemetry

inductive RequestType
  | rpc
  | database
  | http
  | grpc
  | mq
  | logic
  deriving DecidableEq, Repr

/-- The side of a call on which it was observed. -/
inductive DetectPoint
  | client
  | server
  | proxy
  deriving DecidableEq, Repr

inductive NodeType
  | normal
  | database
  | rpc
  | user
  | mq
  | http
  | browser
  | unrecognized
  deriving DecidableEq, Repr

def NodeType.value : NodeType → Nat
  | .normal => 0
  | .database => 1
  | .rpc => 2
  | .user => 3
  | .mq => 4
  | .http => 5
  | .browser => 6
  | .unrecognized => 7

/-- How an observed call went. -/
structure Call where
  latency : Int32
  status : Bool
  responseCode : Int32
  requestType : RequestType
  deriving DecidableEq, Repr

/-- A service instance is alive. -/
structure InstanceUpdate where
  serviceId : String
  name : String
  timeBucket : Int64
  deriving DecidableEq, Repr

/-- Traffic of the whole mesh, under the name of the service called. -/
structure AllTraffic where
  timeBucket : Int64
  name : String
  instanceName : String
  endpointName : String
  call : Call
  deriving DecidableEq, Repr

structure ServiceTraffic where
  timeBucket : Int64
  name : String
  nodeType : NodeType
  instanceName : String
  endpointName : String
  call : Call
  deriving DecidableEq, Repr

structure InstanceTraffic where
  timeBucket : Int64
  name : String
  serviceName : String
  nodeType : NodeType
  endpointName : String
  call : Call
  deriving DecidableEq, Repr

structure EndpointTraffic where
  timeBucket : Int64
  name : String
  serviceName : String
  serviceNodeType : NodeType
  instanceName : String
  call : Call
  deriving DecidableEq, Repr

/-- One end of an edge. -/
structure Party where
  serviceName : String
  nodeType : NodeType
  instanceName : String
  deriving DecidableEq, Repr

/-- An edge between two services or between two of their instances. -/
structure Relation where
  timeBucket : Int64
  source : Party
  dest : Party
  endpoint : String
  call : Call
  componentId : Int32
  detectPoint : DetectPoint
  deriving DecidableEq, Repr

inductive Source
  | instanceUpdate (update : InstanceUpdate)
  | all (traffic : AllTraffic)
  | service (traffic : ServiceTraffic)
  | serviceInstance (traffic : InstanceTraffic)
  | endpoint (traffic : EndpointTraffic)
  | serviceRelation (relation : Relation)
  | instanceRelation (relation : Relation)
  deriving DecidableEq, Repr

inductive SourceKind
  | instanceUpdate
  | all
  | service
  | serviceInstance
  | endpoint
  | serviceRelation
  | instanceRelation
  deriving DecidableEq, Repr

namespace SourceKind

/-- The kinds in the order in which reports list them. -/
def every : List SourceKind :=
  [.instanceUpdate, .all, .service, .serviceInstance, .endpoint, .serviceRelation,
    .instanceRelation]

def name : SourceKind → String
  | .instanceUpdate => "service_instance_update"
  | .all => "all"
  | .service => "service"
  | .serviceInstance => "service_instance"
  | .endpoint => "endpoint"
  | .serviceRelation => "service_relation"
  | .instanceRelation => "service_instance_relation"

/-- Whether sources of the kind describe the traffic of one node. -/
def isNode : SourceKind → Bool
  | .all | .service | .serviceInstance | .endpoint => true
  | _ => false

def isRelation : SourceKind → Bool
  | .serviceRelation | .instanceRelation => true
  | _ => false

end SourceKind

namespace Source

def kind : Source → SourceKind
  | .instanceUpdate _ => .instanceUpdate
  | .all _ => .all
  | .service _ => .service
  | .serviceInstance _ => .serviceInstance
  | .endpoint _ => .endpoint
  | .serviceRelation _ => .serviceRelation
  | .instanceRelation _ => .instanceRelation

def timeBucket : Source → Int64
  | .instanceUpdate s => s.timeBucket
  | .all s => s.timeBucket
  | .service s => s.timeBucket
  | .serviceInstance s => s.timeBucket
  | .endpoint s => s.timeBucket
  | .serviceRelation s => s.timeBucket
  | .instanceRelation s => s.timeBucket

end Source

end MeshTelemetry
