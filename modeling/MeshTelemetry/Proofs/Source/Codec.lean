import MeshTelemetry.Proofs.Document.Decoder
import MeshTelemetry.Proofs.Document.Record
import MeshTelemetry.Proofs.Json.Printable
import MeshTelemetry.Proofs.Json.Spelling
import MeshTelemetry.Source.Codec

/-!
# MeshTelemetry.Proofs.Source.Codec

The line that a source is written as is one line of text, and is read as this source.

* `Source.decoder_document`: the members of a source are decoded as this source.
* `Source.read_line`, `Source.decode_line`, `Source.lineBreak_notMem_line`.
* `Source.line_faithful`: a source and its line tell the same.
-/

namespace MeshTelemetry

namespace Decoder

theorem named_nodeType (t : NodeType) : named .buffered NodeType.names (.text t.name) = .ok t := by
  cases t <;> rfl

theorem named_requestType (t : RequestType) :
    named .buffered RequestType.names (.text t.name) = .ok t := by
  cases t <;> rfl

theorem named_detectPoint (p : DetectPoint) :
    named .buffered DetectPoint.names (.text p.name) = .ok p := by
  cases p <;> rfl

end Decoder

namespace Source

open Record (Encodes)

/-- The members of a source beside its kind, as a reader finds them. -/
def memberDocuments (s : Source) : List (Option String × Document) :=
  s.members.map fun (k, v) => (some k, v.toJson.document)

theorem document_toJson (s : Source) :
    s.toJson.document = .map ((some "kind", .text s.kind.name) :: s.memberDocuments) true := by
  rw [toJson, Json.document, Json.memberDocuments, Json.memberDocuments_map]
  rfl

theorem fits_toJson (s : Source) : s.toJson.Fits := by
  cases s <;>
    simp [toJson, members, Call.members, Relation.members, MemberValue.toJson, Json.Fits,
      Json.MembersFit, Json.inRange_int64, Json.inRange_int32]

theorem kindDecoder_name (k : SourceKind) : kindDecoder (.text k.name) = .ok k := by
  cases k <;> rfl

/-- Members that are not the kind are kept until the kind is known. -/
theorem splitMembers_others (kind : Option SourceKind) (list : List (String × MemberValue))
    (hkeys : ∀ member ∈ list, member.1 ≠ "kind") :
    splitMembers kind (list.map fun (k, v) => (some k, v.toJson.document)) =
      .ok (kind, list.map fun (k, v) => (some k, v.toJson.document)) := by
  induction list with
  | nil => rfl
  | cons member list ih =>
    obtain ⟨key, v⟩ := member
    rw [List.forall_mem_cons] at hkeys
    have hkept : isKept (depthLimit - 1) v.toJson.document = true := by
      cases v <;> rfl
    simp only [List.map_cons, splitMembers, Document.key?, if_neg hkeys.1, if_pos hkept,
      ih hkeys.2]

theorem members_ne_kind (s : Source) : ∀ member ∈ s.members, member.1 ≠ "kind" := by
  cases s <;> simp [members, Call.members, Relation.members]

section Body

variable {fields : List Field} {vs : Record.Values fields}
  {members : List (Option String × Document)}

theorem encodes_text (name value : String) (h : Encodes fields vs members) :
    Encodes (textField name :: fields) (value, vs) ((some name, .text value) :: members) :=
  .cons rfl h

theorem encodes_bucket (bucket : Int64) (h : Encodes fields vs members) :
    Encodes (bucketField :: fields) (bucket, vs)
      ((some "time_bucket", .int bucket.toInt) :: members) :=
  .cons (Decoder.int64_toInt bucket) h

theorem encodes_nodeType (name : String) (t : NodeType) (h : Encodes fields vs members) :
    Encodes (nodeTypeField name :: fields) (t, vs) ((some name, .text t.name) :: members) :=
  .cons (Decoder.named_nodeType t) h

theorem encodes_call (call : Call) (h : Encodes fields vs members) :
    Encodes (latencyField :: statusField :: responseCodeField :: requestTypeField :: fields)
      (call.latency, call.status, call.responseCode, call.requestType, vs)
      (call.members.map (fun (k, v) => (some k, v.toJson.document)) ++ members) :=
  .cons (Decoder.int32_toInt _) (.cons rfl (.cons (Decoder.int32_toInt _)
    (.cons (Decoder.named_requestType _) h)))

theorem encodes_relation (r : Relation) :
    Encodes relationFields
      (r.timeBucket, r.source.serviceName, r.source.nodeType, r.source.instanceName,
        r.dest.serviceName, r.dest.nodeType, r.dest.instanceName, r.endpoint, r.call.latency,
        r.call.status, r.call.responseCode, r.call.requestType, r.componentId, r.detectPoint, ())
      (r.members.map fun (k, v) => (some k, v.toJson.document)) :=
  encodes_bucket _ <| encodes_text _ _ <| encodes_nodeType _ _ <| encodes_text _ _ <|
    encodes_text _ _ <| encodes_nodeType _ _ <| encodes_text _ _ <| encodes_text _ _ <|
    encodes_call r.call <| .cons (Decoder.int32_toInt _) <|
    .cons (Decoder.named_detectPoint _) .nil

/-- What a source holds beside its kind is decoded as this source. -/
theorem bodyDecoder_members (s : Source) :
    bodyDecoder s.kind (.map s.memberDocuments true) = .ok s := by
  cases s with
  | instanceUpdate s =>
    have hvalues := encodes_text "service_id" s.serviceId <| encodes_text "name" s.name <|
      encodes_bucket s.timeBucket .nil
    exact congrArg (Except.map _)
      (Record.decode_members hvalues (by decide) .buffered "struct ServiceInstanceUpdate")
  | all s =>
    have hvalues := encodes_bucket s.timeBucket <| encodes_text "name" s.name <|
      encodes_text "service_instance_name" s.instanceName <|
      encodes_text "endpoint_name" s.endpointName <| encodes_call s.call .nil
    exact congrArg (Except.map _)
      (Record.decode_members hvalues (by decide) .buffered "struct All")
  | service s =>
    have hvalues := encodes_bucket s.timeBucket <| encodes_text "name" s.name <|
      encodes_nodeType "node_type" s.nodeType <|
      encodes_text "service_instance_name" s.instanceName <|
      encodes_text "endpoint_name" s.endpointName <| encodes_call s.call .nil
    exact congrArg (Except.map _)
      (Record.decode_members hvalues (by decide) .buffered "struct Service")
  | serviceInstance s =>
    have hvalues := encodes_bucket s.timeBucket <| encodes_text "name" s.name <|
      encodes_text "service_name" s.serviceName <| encodes_nodeType "node_type" s.nodeType <|
      encodes_text "endpoint_name" s.endpointName <| encodes_call s.call .nil
    exact congrArg (Except.map _)
      (Record.decode_members hvalues (by decide) .buffered "struct ServiceInstance")
  | endpoint s =>
    have hvalues := encodes_bucket s.timeBucket <| encodes_text "name" s.name <|
      encodes_text "service_name" s.serviceName <|
      encodes_nodeType "service_node_type" s.serviceNodeType <|
      encodes_text "service_instance_name" s.instanceName <| encodes_call s.call .nil
    exact congrArg (Except.map _)
      (Record.decode_members hvalues (by decide) .buffered "struct Endpoint")
  | serviceRelation r =>
    exact congrArg (Except.map _)
      (Record.decode_members (encodes_relation r) (by decide) .buffered "struct ServiceRelation")
  | instanceRelation r =>
    exact congrArg (Except.map _)
      (Record.decode_members (encodes_relation r) (by decide) .buffered
        "struct ServiceInstanceRelation")

end Body

theorem decoder_document (s : Source) : decoder s.toJson.document = .ok s := by
  have hsplit := splitMembers_others (some s.kind) s.members s.members_ne_kind
  rw [document_toJson, decoder, splitMembers]
  simp only [Document.key?, if_true, kindDecoder_name, memberDocuments, hsplit]
  exact bodyDecoder_members s

/-- The line that a source is written as is read as this source. -/
theorem decode_line (s : Source) : decode s.line = .ok s :=
  Json.decode_compact s.fits_toJson s.decoder_document

theorem lineBreak_notMem_line (s : Source) : '\n' ∉ s.line.toList :=
  Json.lineBreak_notMem_compact s.toJson

/-- What is found in the line of a source: one object, in which the kind stands first. -/
theorem read_line (s : Source) :
    Json.read s.line = (.map ((some "kind", .text s.kind.name) :: s.memberDocuments) true, true) := by
  rw [line, Json.read_compact s.fits_toJson, document_toJson]

theorem memberDocuments_ne_kind (s : Source) :
    ∀ member ∈ s.memberDocuments, member.1 ≠ some "kind" := by
  intro member hmember heq
  obtain ⟨⟨key, v⟩, hmem, rfl⟩ := List.mem_map.mp hmember
  exact s.members_ne_kind _ hmem (Option.some.inj heq)

/-- The line of a source is an object without control characters, whose one member `kind` is the
name of the source's kind. It is read as this source, and no other source has the same line. -/
theorem line_faithful (s : Source) :
    (∀ c ∈ s.line.toList, 0x20 ≤ c.toNat) ∧
      (∃ others,
        Json.read s.line = (.map ((some "kind", .text s.kind.name) :: others) true, true) ∧
          ∀ member ∈ others, member.1 ≠ some "kind") ∧
      decode s.line = .ok s ∧ ∀ s', s'.line = s.line ↔ s' = s := by
  refine ⟨Json.compact_printable s.toJson, ⟨_, s.read_line, s.memberDocuments_ne_kind⟩,
    s.decode_line, fun s' => ⟨fun heq => ?_, congrArg line⟩⟩
  have hsame : Except.ok s' = (Except.ok s : Except DecodeError Source) := by
    rw [← s'.decode_line, ← s.decode_line, heq]
  exact Except.ok.inj hsame

/-- Quotes, line breaks and other control characters are written as escapes; what is not ASCII
stands for itself. -/
def awkward : Source := .instanceUpdate ⟨"\"\\\n\x01", "😀", Int64.minValue⟩

theorem line_faithful_awkward :
    awkward.line = "\x7b\"kind\":\"service_instance_update\",\"service_id\":\"" ++
      "\\\"\\\\\\n\\u0001\",\"name\":\"😀\",\"time_bucket\":-9223372036854775808\x7d" ∧
    '\\' ∈ awkward.line.toList ∧ 0x20 ≤ '\\'.toNat ∧ decode awkward.line = .ok awkward := by
  obtain ⟨hprintable, -, hdecode, -⟩ := line_faithful awkward
  have hline : '\\' ∈ awkward.line.toList := by decide +kernel
  exact ⟨by decide +kernel, hline, hprintable _ hline, hdecode⟩

end Source
end MeshTelemetry
