/-!
# MeshTelemetry.Metric

Metric records: one observed remote call each, as a sidecar of the mesh reports it.
-/

namespace MeshTelemetry

/-- The protocol of the call. -/
inductive Protocol
  | http
  | grpc
  | unrecognized
  deriving DecidableEq, Repr

/-- The side of the call that made the report, as the report says. -/
inductive ReportSide
  | client
  | server
  | proxy
  | unrecognized
  deriving DecidableEq, Repr

/-- A metric record. An empty name stands for one that was not reported. The start time counts
milliseconds from 1970-01-01T00:00. -/
structure Metric where
  startTime : Int64
  sourceService : String
  sourceInstance : String
  destService : String
  destInstance : String
  endpoint : String
  latency : Int32
  status : Bool
  responseCode : Int32
  protocol : Protocol
  side : ReportSide
  deriving DecidableEq, Repr

def Protocol.ofWire (n : Int32) : Protocol :=
  if n = 0 then .http else if n = 1 then .grpc else .unrecognized

def ReportSide.ofWire (n : Int32) : ReportSide :=
  if n = 0 then .client else if n = 1 then .server else if n = 2 then .proxy else .unrecognized

end MeshTelemetry
