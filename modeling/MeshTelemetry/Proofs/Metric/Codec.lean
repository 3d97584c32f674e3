import MeshTelemetry.Metric.Codec
import MeshTelemetry.Proofs.Source.Codec

/-!
# MeshTelemetry.Proofs.Metric.Codec

The text that a metric record is written as is read as this record, so the written text is a normal
form of all the texts that are read as the record.

* `Metric.encodes_members`, `Metric.decoder_document`: the members of a record are decoded as it.
* `Metric.decode_written`: reading and writing go back and forth without loss.
-/

namespace MeshTelemetry

namespace Decoder

/-- A protocol that was not known is written under a name that is not known either. -/
theorem named_protocol (p : Protocol) : named .json Protocol.names (.text p.name) = .ok p := by
  cases p <;> rfl

theorem named_side (s : ReportSide) : named .json ReportSide.names (.text s.name) = .ok s := by
  cases s <;> rfl

end Decoder

namespace Metric

open Record (Encodes)

theorem fits_toJson (m : Metric) : m.toJson.Fits := by
  simp [toJson, Json.Fits, Json.MembersFit, Json.inRange_int64, Json.inRange_int32]

/-- The values of the fields, in the order in which they are written. -/
def values (m : Metric) : Record.Values fields :=
  (m.startTime, m.sourceService, m.sourceInstance, m.destService, m.destInstance, m.endpoint,
    m.latency, m.status, m.responseCode, m.protocol, m.side, ())

theorem ofValues_values (m : Metric) : ofValues m.values = m := rfl

theorem ofValues_eq_iff {vs : Record.Values fields} {m : Metric} :
    ofValues vs = m ↔ vs = m.values := by
  constructor
  · rintro rfl
    rfl
  · rintro rfl
    rfl

/-- The members of a record, as a reader finds them. -/
def memberDocuments (m : Metric) : List (Option String × Document) :=
  [ (some "start_time", .int m.startTime.toInt),
    (some "source_service_name", .text m.sourceService),
    (some "source_service_instance", .text m.sourceInstance),
    (some "dest_service_name", .text m.destService),
    (some "dest_service_instance", .text m.destInstance),
    (some "endpoint", .text m.endpoint),
    (some "latency", .int m.latency.toInt),
    (some "status", .bool m.status),
    (some "response_code", .int m.responseCode.toInt),
    (some "protocol", .text m.protocol.name),
    (some "detect_point", .text m.side.name) ]

theorem document_toJson (m : Metric) : m.toJson.document = .map m.memberDocuments true := rfl

theorem encodes_members (m : Metric) : Encodes fields m.values m.memberDocuments :=
  .cons (Decoder.int64_toInt _) <| .cons rfl <| .cons rfl <| .cons rfl <| .cons rfl <| .cons rfl <|
    .cons (Decoder.int32_toInt _) <| .cons rfl <| .cons (Decoder.int32_toInt _) <|
    .cons (Decoder.named_protocol _) <| .cons (Decoder.named_side _) .nil

theorem fields_distinct : (fields.map Field.name).Nodup := by decide

theorem decoder_document (m : Metric) : decoder m.toJson.document = .ok m := by
  rw [document_toJson, decoder,
    Record.decode_members m.encodes_members fields_distinct .json "struct ServiceMeshMetric",
    Except.map, ofValues_values]

theorem decode_toJson (m : Metric) : decode m.toJson.compact = .ok m :=
  Json.decode_compact m.fits_toJson m.decoder_document

/-- A record is read from the text it is written as; writing the record of a text and reading it
again is the same as reading the text; and different records are written as different texts. -/
theorem decode_written :
    (∀ m : Metric, decode m.toJson.compact = .ok m) ∧
      (∀ text, (decode text).bind (fun m => decode m.toJson.compact) = decode text) ∧
      ∀ m m' : Metric, m.toJson.compact = m'.toJson.compact ↔ m = m' := by
  refine ⟨decode_toJson, fun text => ?_, fun m m' => ⟨fun heq => ?_, fun heq => heq ▸ rfl⟩⟩
  · cases decode text with
    | error e => rfl
    | ok m => rw [Except.bind, decode_toJson]
  · have hsame : Except.ok m = (Except.ok m' : Except DecodeError Metric) := by
      rw [← m.decode_toJson, ← m'.decode_toJson, heq]
    exact Except.ok.inj hsame

/-- The order of the members, members that are not known and the form of the record are not kept. -/
example :
    (decode "\x7b\"more\":[],\"latency\":0,\"start_time\":1\x7d").toOption =
      (decode "[1]").toOption := by
  decide +kernel

end Metric
end MeshTelemetry
