import MeshTelemetry.Document.Record
import MeshTelemetry.Json.Reader
import MeshTelemetry.Json.Text
import MeshTelemetry.Metric

/-!
# MeshTelemetry.Metric.Codec

Metric records as JSON text. Every member but the start time may be missing; a protocol or side
that is not known is read as `unrecognized`.

* `Metric.decode` — the record of a text; `Metric.toJson` — the value a record is written as.
-/

namespace MeshTelemetry

namespace Protocol

def name : Protocol → String
  | .http => "HTTP"
  | .grpc => "gRPC"
  | .unrecognized => "Unrecognized"

def names : Decoder.Names Protocol where
  known := [("HTTP", .http), ("http", .http), ("gRPC", .grpc), ("grpc", .grpc), ("GRPC", .grpc)]
  listed := []
  otherwise := some .unrecognized

end Protocol

namespace ReportSide

def name : ReportSide → String
  | .client => "client"
  | .server => "server"
  | .proxy => "proxy"
  | .unrecognized => "unrecognized"

def names : Decoder.Names ReportSide where
  known := [("client", .client), ("server", .server), ("proxy", .proxy)]
  listed := []
  otherwise := some .unrecognized

end ReportSide

namespace Metric

/-- The members of a record in the order in which they are written. -/
def fields : List Field :=
  [ ⟨"start_time", Int64, Decoder.int64, none⟩,
    ⟨"source_service_name", String, Decoder.text, some ""⟩,
    ⟨"source_service_instance", String, Decoder.text, some ""⟩,
    ⟨"dest_service_name", String, Decoder.text, some ""⟩,
    ⟨"dest_service_instance", String, Decoder.text, some ""⟩,
    ⟨"endpoint", String, Decoder.text, some ""⟩,
    ⟨"latency", Int32, Decoder.int32, some 0⟩,
    ⟨"status", Bool, Decoder.flag, some false⟩,
    ⟨"response_code", Int32, Decoder.int32, some 0⟩,
    ⟨"protocol", Protocol, Decoder.named .json Protocol.names, some .unrecognized⟩,
    ⟨"detect_point", ReportSide, Decoder.named .json ReportSide.names, some .unrecognized⟩ ]

def ofValues : Record.Values fields → Metric
  | (startTime, sourceService, sourceInstance, destService, destInstance, endpoint, latency,
      status, responseCode, protocol, side, ()) =>
    { startTime, sourceService, sourceInstance, destService, destInstance, endpoint, latency,
      status, responseCode, protocol, side }

def decoder : Decoder Metric := fun d =>
  (Record.decode .json "struct ServiceMeshMetric" fields d).map ofValues

def decode (text : String) : Except DecodeError Metric := Json.decode decoder text

def toJson (m : Metric) : Json :=
  .object
    [ ("start_time", .int m.startTime.toInt),
      ("source_service_name", .text m.sourceService),
      ("source_service_instance", .text m.sourceInstance),
      ("dest_service_name", .text m.destService),
      ("dest_service_instance", .text m.destInstance),
      ("endpoint", .text m.endpoint),
      ("latency", .int m.latency.toInt),
      ("status", .bool m.status),
      ("response_code", .int m.responseCode.toInt),
      ("protocol", .text m.protocol.name),
      ("detect_point", .text m.side.name) ]

end Metric

end MeshTelemetry
