import MeshTelemetry.Metric
import MeshTelemetry.Source

/-!
# MeshTelemetry.Fanout

The sources that one metric record gives rise to, without those that refresh instances: what was
reported by the server's side describes the traffic of four nodes, and a known caller gives two
edges.

* `Fanout.nodes`, `Fanout.relations` — the sources of a record in a time bucket.
-/

namespace MeshTelemetry

namespace Protocol

def requestType : Protocol → RequestType
  | .grpc => .grpc
  | .http => .http
  | .unrecognized => .rpc

/-- The number under which the component that speaks a protocol is registered. -/
def component : Protocol → Int32
  | .grpc => 23
  | .http => 49
  | .unrecognized => 50

end Protocol

/-- The side of the call; whoever is neither the client nor a proxy is the server. -/
def ReportSide.detectPoint : ReportSide → DetectPoint
  | .client => .client
  | .proxy => .proxy
  | .server => .server
  | .unrecognized => .server

def Metric.call (m : Metric) : Call :=
  ⟨m.latency, m.status, m.responseCode, m.protocol.requestType⟩

namespace Fanout

def allTraffic (m : Metric) (bucket : Int64) : Source :=
  .all
    { timeBucket := bucket
      name := m.destService
      instanceName := m.destInstance
      endpointName := m.endpoint
      call := m.call }

def serviceTraffic (m : Metric) (bucket : Int64) : Source :=
  .service
    { timeBucket := bucket
      name := m.destService
      nodeType := .normal
      instanceName := m.destInstance
      endpointName := m.endpoint
      call := m.call }

def instanceTraffic (m : Metric) (bucket : Int64) : Source :=
  .serviceInstance
    { timeBucket := bucket
      name := m.destInstance
      serviceName := m.destService
      nodeType := .normal
      endpointName := m.endpoint
      call := m.call }

def endpointTraffic (m : Metric) (bucket : Int64) : Source :=
  .endpoint
    { timeBucket := bucket
      name := m.endpoint
      serviceName := m.destService
      serviceNodeType := .normal
      instanceName := m.destInstance
      call := m.call }

def relation (m : Metric) (bucket : Int64) : Relation where
  timeBucket := bucket
  source := ⟨m.sourceService, .normal, m.sourceInstance⟩
  dest := ⟨m.destService, .normal, m.destInstance⟩
  endpoint := m.endpoint
  call := m.call
  componentId := m.protocol.component
  detectPoint := m.side.detectPoint

/-- Only the server's side describes nodes, since otherwise a call that both sides report would
count twice. -/
def nodes (m : Metric) (bucket : Int64) : List Source :=
  if m.side = .server then
    [allTraffic m bucket, serviceTraffic m bucket, instanceTraffic m bucket,
      endpointTraffic m bucket]
  else []

/-- A caller without a name has no edges. -/
def relations (m : Metric) (bucket : Int64) : List Source :=
  if m.sourceService.isEmpty then []
  else [.serviceRelation (relation m bucket), .instanceRelation (relation m bucket)]

end Fanout

end MeshTelemetry
