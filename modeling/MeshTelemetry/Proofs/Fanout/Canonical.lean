import MeshTelemetry.Dispatcher

/-!
# MeshTelemetry.Proofs.Fanout.Canonical

The canonical list of the sources of a record: eight places in a fixed order, each with the
condition under which a source stands there. The dispatcher determines this list before it offers
anything.

* `Fanout.canonical`: the list, written out place by place.
* `Dispatcher.sources_eq_canonical`: what the dispatcher determines when its collaborators answer.
* `Dispatcher.normalize_done`: the record that is dispatched.
-/

namespace MeshTelemetry

/-- The record with the name that its endpoint gets, if it gets one. -/
def Metric.withName (m : Metric) (name? : Option String) : Metric :=
  { m with endpoint := name?.getD m.endpoint }

namespace Fanout

/-- The edge of a record, of which the relations of services and of instances both tell. -/
def edge (m : Metric) (bucket : Int64) : Relation where
  timeBucket := bucket
  source := ⟨m.sourceService, .normal, m.sourceInstance⟩
  dest := ⟨m.destService, .normal, m.destInstance⟩
  endpoint := m.endpoint
  call := ⟨m.latency, m.status, m.responseCode, m.protocol.requestType⟩
  componentId := m.protocol.component
  detectPoint := m.side.detectPoint

/-- The places of the list. `sourceId` and `destId` are the identities of the two services. -/
def places (m : Metric) (bucket : Int64) (sourceId destId : String) : List (Bool × Source) :=
  let call : Call := ⟨m.latency, m.status, m.responseCode, m.protocol.requestType⟩
  [ (m.sourceService ≠ "" ∧ m.sourceInstance ≠ "",
      .instanceUpdate ⟨sourceId, m.sourceInstance, bucket⟩),
    (m.destService ≠ "" ∧ m.destInstance ≠ "",
      .instanceUpdate ⟨destId, m.destInstance, bucket⟩),
    (m.side = .server, .all ⟨bucket, m.destService, m.destInstance, m.endpoint, call⟩),
    (m.side = .server,
      .service ⟨bucket, m.destService, .normal, m.destInstance, m.endpoint, call⟩),
    (m.side = .server,
      .serviceInstance ⟨bucket, m.destInstance, m.destService, .normal, m.endpoint, call⟩),
    (m.side = .server,
      .endpoint ⟨bucket, m.endpoint, m.destService, .normal, m.destInstance, call⟩),
    (m.sourceService ≠ "", .serviceRelation (edge m bucket)),
    (m.sourceService ≠ "", .instanceRelation (edge m bucket)) ]

/-- The sources of a record in a time bucket. -/
def canonical (m : Metric) (bucket : Int64) (sourceId destId : String) : List Source :=
  ((places m bucket sourceId destId).filter (·.1)).map (·.2)

end Fanout

namespace Dispatcher

open Fanout

theorem isEmpty_eq_decide (s : String) : s.isEmpty = decide (s = "") := by
  rw [Bool.eq_iff_iff, decide_eq_true_iff, String.isEmpty_iff]

/-- One side's refresh: the encoder is asked only if both names are there. -/
theorem heartbeat_done {c : Collaborators} {service name id : String} (bucket : Int64)
    (h : service ≠ "" → name ≠ "" → c.identify service .normal = .done id) :
    heartbeat c service name bucket =
      .done (if service ≠ "" ∧ name ≠ "" then [⟨id, name, bucket⟩] else []) := by
  unfold heartbeat
  simp only [isEmpty_eq_decide, Bool.or_eq_true, decide_eq_true_eq]
  by_cases hs : service = ""
  · simp [hs]
  · by_cases hn : name = ""
    · simp [hn]
    · simp [hs, hn, h hs hn]

theorem sources_eq_canonical {c : Collaborators} {m : Metric} {bucket : Int64}
    {sourceId destId : String} (hb : c.bucket m.startTime = .done bucket)
    (hs : m.sourceService ≠ "" → m.sourceInstance ≠ "" →
      c.identify m.sourceService .normal = .done sourceId)
    (hd : m.destService ≠ "" → m.destInstance ≠ "" →
      c.identify m.destService .normal = .done destId) :
    sources c m = .done (bucket, canonical m bucket sourceId destId) := by
  have hsource := heartbeat_done bucket hs
  have hdest := heartbeat_done bucket hd
  simp only [sources, hb, heartbeats, hsource, hdest]
  by_cases h1 : m.sourceService = "" <;> by_cases h2 : m.sourceInstance = "" <;>
    by_cases h3 : m.destService = "" <;> by_cases h4 : m.destInstance = "" <;>
    by_cases h5 : m.side = .server <;>
    simp [canonical, places, nodes, relations, edge, relation, allTraffic, serviceTraffic,
      instanceTraffic, endpointTraffic, Metric.call, h1, h2, h3, h4, h5]

theorem normalize_done {c : Collaborators} {m : Metric} {name? : Option String}
    (hr : c.rename m.destService m.endpoint = .done name?) (h : Host) :
    normalize c m h = (.done (m.withName name?, name?.isSome), (normalize c m h).2) := by
  cases name? with
  | none => simp [normalize, hr, Metric.withName]
  | some name =>
    simp only [normalize, hr]
    rfl

theorem normalize_store (c : Collaborators) (m : Metric) (h : Host) :
    (normalize c m h).2.store = h.store := by
  unfold normalize
  split <;> rfl

end Dispatcher
end MeshTelemetry
