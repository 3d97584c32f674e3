import MeshTelemetry.Document.Record
import MeshTelemetry.Json.Reader
import MeshTelemetry.Source.Member

/-!
# MeshTelemetry.Source.Codec

Sources read from JSON text. The member `kind`, wherever it stands, says which members the others
must be; they are therefore kept as they are until the whole source has been read. A source may
also be written as a sequence, its kind first.
-/

namespace MeshTelemetry

namespace RequestType

def names : Decoder.Names RequestType :=
  let known := [.rpc, .database, .http, .grpc, .mq, .logic].map fun t => (name t, t)
  { known, listed := known.map (·.1), otherwise := none }

end RequestType

namespace NodeType

def names : Decoder.Names NodeType :=
  let known :=
    [.normal, .database, .rpc, .user, .mq, .http, .browser, .unrecognized].map fun t => (name t, t)
  { known, listed := known.map (·.1), otherwise := none }

end NodeType

namespace DetectPoint

def names : Decoder.Names DetectPoint :=
  let known := [.client, .server, .proxy].map fun p => (name p, p)
  { known, listed := known.map (·.1), otherwise := none }

end DetectPoint

namespace SourceKind

def names : Decoder.Names SourceKind :=
  let known := every.map fun k => (name k, k)
  { known, listed := known.map (·.1), otherwise := none }

end SourceKind

namespace Source

def textField (name : String) : Field := ⟨name, String, Decoder.text, none⟩

def bucketField : Field := ⟨"time_bucket", Int64, Decoder.int64, none⟩

def nodeTypeField (name : String) : Field :=
  ⟨name, NodeType, Decoder.named .buffered NodeType.names, none⟩

def latencyField : Field := ⟨"latency", Int32, Decoder.int32, none⟩

def statusField : Field := ⟨"status", Bool, Decoder.flag, none⟩

def responseCodeField : Field := ⟨"response_code", Int32, Decoder.int32, none⟩

def requestTypeField : Field :=
  ⟨"request_type", RequestType, Decoder.named .buffered RequestType.names, none⟩

def relationFields : List Field :=
  [ bucketField, textField "source_service_name", nodeTypeField "source_service_node_type",
    textField "source_service_instance_name", textField "dest_service_name",
    nodeTypeField "dest_service_node_type", textField "dest_service_instance_name",
    textField "endpoint", latencyField, statusField, responseCodeField, requestTypeField,
    ⟨"component_id", Int32, Decoder.int32, none⟩,
    ⟨"detect_point", DetectPoint, Decoder.named .buffered DetectPoint.names, none⟩ ]

def relationOfValues : Record.Values relationFields → Relation
  | (timeBucket, sourceService, sourceType, sourceInstance, destService, destType, destInstance,
      endpointName, latency, status, responseCode, requestType, componentId, detectPoint, ()) =>
    { timeBucket
      source := ⟨sourceService, sourceType, sourceInstance⟩
      dest := ⟨destService, destType, destInstance⟩
      endpoint := endpointName
      call := ⟨latency, status, responseCode, requestType⟩
      componentId
      detectPoint }

/-- The decoder of what a source of a kind holds beside its kind. -/
def bodyDecoder : SourceKind → Decoder Source
  | .instanceUpdate => fun d =>
    (Record.decode .buffered "struct ServiceInstanceUpdate"
      [textField "service_id", textField "name", bucketField] d).map
      fun (serviceId, name, timeBucket, ()) => .instanceUpdate { serviceId, name, timeBucket }
  | .all => fun d =>
    (Record.decode .buffered "struct All"
      [ bucketField, textField "name", textField "service_instance_name",
        textField "endpoint_name", latencyField, statusField, responseCodeField,
        requestTypeField ] d).map
      fun (timeBucket, name, instanceName, endpointName, latency, status, responseCode,
          requestType, ()) =>
        .all { timeBucket, name, instanceName, endpointName,
               call := ⟨latency, status, responseCode, requestType⟩ }
  | .service => fun d =>
    (Record.decode .buffered "struct Service"
      [ bucketField, textField "name", nodeTypeField "node_type",
        textField "service_instance_name", textField "endpoint_name", latencyField, statusField,
        responseCodeField, requestTypeField ] d).map
      fun (timeBucket, name, nodeType, instanceName, endpointName, latency, status, responseCode,
          requestType, ()) =>
        .service { timeBucket, name, nodeType, instanceName, endpointName,
                   call := ⟨latency, status, responseCode, requestType⟩ }
  | .serviceInstance => fun d =>
    (Record.decode .buffered "struct ServiceInstance"
      [ bucketField, textField "name", textField "service_name", nodeTypeField "node_type",
        textField "endpoint_name", latencyField, statusField, responseCodeField,
        requestTypeField ] d).map
      fun (timeBucket, name, serviceName, nodeType, endpointName, latency, status, responseCode,
          requestType, ()) =>
        .serviceInstance { timeBucket, name, serviceName, nodeType, endpointName,
                           call := ⟨latency, status, responseCode, requestType⟩ }
  | .endpoint => fun d =>
    (Record.decode .buffered "struct Endpoint"
      [ bucketField, textField "name", textField "service_name",
        nodeTypeField "service_node_type", textField "service_instance_name", latencyField,
        statusField, responseCodeField, requestTypeField ] d).map
      fun (timeBucket, name, serviceName, serviceNodeType, instanceName, latency, status,
          responseCode, requestType, ()) =>
        .endpoint { timeBucket, name, serviceName, serviceNodeType, instanceName,
                    call := ⟨latency, status, responseCode, requestType⟩ }
  | .serviceRelation => fun d =>
    (Record.decode .buffered "struct ServiceRelation" relationFields d).map
      (.serviceRelation <| relationOfValues ·)
  | .instanceRelation => fun d =>
    (Record.decode .buffered "struct ServiceInstanceRelation" relationFields d).map
      (.instanceRelation <| relationOfValues ·)

/-- How many containers may be open at once in a text that is kept as a whole. -/
def depthLimit : Nat := 127

mutual

/-- Whether a value can be kept until the kind is known: it was read to its end, no scalar in it
is flawed, and at most `depth` containers are open at once in it. -/
def isKept : Nat → Document → Bool
  | 0, .seq _ _ => false
  | 0, .map _ _ => false
  | depth + 1, .seq items whole => areKept depth items && whole
  | depth + 1, .map members whole => membersKept depth members && whole
  | _, .flawed => false
  | _, .cut => false
  | _, _ => true

def areKept : Nat → List Document → Bool
  | _, [] => true
  | depth, d :: rest => isKept depth d && areKept depth rest

def membersKept : Nat → List (Option String × Document) → Bool
  | _, [] => true
  | depth, (key, d) :: rest => key.isSome && isKept depth d && membersKept depth rest

end

def kindDecoder : Decoder SourceKind
  | .text name => SourceKind.names.find name
  | d => .error (d.mistyped "variant identifier")

/-- Splits members into the kind and the others, from left to right. -/
def splitMembers : Option SourceKind → List (Option String × Document) →
    Except DecodeError (Option SourceKind × List (Option String × Document))
  | kind, [] => .ok (kind, [])
  | kind, (key, d) :: rest =>
    match Document.key? key with
    | .error e => .error e
    | .ok k =>
      if k = "kind" then
        match kind with
        | some _ => .error (.misfit (.duplicateField "kind"))
        | none =>
          match kindDecoder d with
          | .error e => .error e
          | .ok kind => splitMembers (some kind) rest
      else if isKept (depthLimit - 1) d then
        match splitMembers kind rest with
        | .error e => .error e
        | .ok (kind, others) => .ok (kind, (some k, d) :: others)
      else .error .malformed

def decoder : Decoder Source
  | .map members whole =>
    match splitMembers none members with
    | .error e => .error e
    | .ok (kind, others) =>
      if whole then
        match kind with
        | none => .error (.misfit (.missingField "kind"))
        | some kind => bodyDecoder kind (.map others true)
      else .error .malformed
  | .seq [] whole =>
    if whole then .error (.misfit (.missingField "kind")) else .error .malformed
  | .seq (d :: rest) whole =>
    match kindDecoder d with
    | .error e => .error e
    | .ok kind =>
      if areKept (depthLimit - 1) rest && whole then bodyDecoder kind (.seq rest true)
      else .error .malformed
  | d => .error (d.mistyped "internally tagged enum Source")

def decode (text : String) : Except DecodeError Source := Json.decode decoder text

end Source

end MeshTelemetry
