import MeshTelemetry.Fanout
import MeshTelemetry.Naming
import MeshTelemetry.Receiver
import MeshTelemetry.ServiceId
import MeshTelemetry.TimeBucket

/-!
# MeshTelemetry.Dispatcher

Dispatching metric records. A record's endpoint is renamed; its time bucket and the identities of
both instances are determined; then its sources are offered to the receiver one by one. What fails
first ends the dispatch, and nothing is offered before all collaborators have answered.

* `Collaborators` — renaming, time buckets and identities, and `Collaborators.ofNaming`.
* `Dispatcher.dispatch` — offers the sources of a record that is already renamed.
* `Dispatcher.process` — renames and dispatches inside one measurement of the latency.
-/

namespace MeshTelemetry

/-- What a dispatcher asks for: the new name of an endpoint of a service, if it gets one, the time
bucket of a moment, and the id of a service. -/
structure Collaborators where
  rename : String → String → Outcome Fault (Option String)
  bucket : Int64 → Outcome Fault Int64
  identify : String → NodeType → Outcome Fault String

namespace Collaborators

def minuteBucket (millis : Int64) : Outcome Fault Int64 :=
  match TimeBucket.ofMillis? millis with
  | some bucket => .done bucket
  | none => .failed (.timeBucket millis)

/-- Rules for endpoints, minute time buckets and service ids. -/
def ofNaming (n : Naming) : Collaborators where
  rename service endpoint := .done (n.rename? service endpoint)
  bucket := minuteBucket
  identify service type := .done (ServiceId.ofService service type)

end Collaborators

/-- Measurements of the latency: counted at both ends, or recorded by a meter. -/
inductive Timer
  | counting (started finished : Nat)
  | metered
  deriving DecidableEq, Repr

namespace Timer

def start : Timer → Timer
  | .counting started finished => .counting (started + 1) finished
  | .metered => .metered

def finish : Timer → Host → Timer × Host
  | .counting started finished, h => (.counting started (finished + 1), h)
  | .metered, h => (.metered, h.tally .latency)

end Timer

/-- What a dispatch has done. -/
structure Dispatch where
  timeBucket : Int64
  emitted : List SourceKind
  renamed : Bool
  deriving DecidableEq, Repr

/-- The dispatcher between two calls. -/
structure Dispatcher (ℓ : Type) where
  receiver : Receiver ℓ
  timer : Timer

namespace Dispatcher

variable {ℓ : Type} [Sink ℓ]

/-- The refresh of one instance; one without its own or its service's name has none. -/
def heartbeat (c : Collaborators) (service instanceName : String) (bucket : Int64) :
    Outcome Fault (List InstanceUpdate) :=
  if service.isEmpty || instanceName.isEmpty then .done []
  else
    match c.identify service .normal with
    | .done id => .done [⟨id, instanceName, bucket⟩]
    | .failed e => .failed e
    | .crashed m => .crashed m

/-- The refreshes of both instances, the caller's first. -/
def heartbeats (c : Collaborators) (m : Metric) (bucket : Int64) :
    Outcome Fault (List InstanceUpdate) :=
  match heartbeat c m.sourceService m.sourceInstance bucket with
  | .failed e => .failed e
  | .crashed m => .crashed m
  | .done source =>
    match heartbeat c m.destService m.destInstance bucket with
    | .failed e => .failed e
    | .crashed m => .crashed m
    | .done dest => .done (source ++ dest)

/-- Offers sources in order, up to the first that is refused; returns the kinds of those that were
accepted. -/
def offer : List Source → Receiver ℓ → Host →
    Outcome DispatchFault (List SourceKind) × Receiver ℓ × Host
  | [], r, h => (.done [], r, h)
  | source :: rest, r, h =>
    match r.receive source h with
    | (.failed e, r, h) => (.failed (.refused source.kind e), r, h)
    | (.crashed m, r, h) => (.crashed m, r, h)
    | (.done (), r, h) =>
      let h := h.log .trace .dispatcher "Source forwarded" [("kind", source.kind.name)]
      match offer rest r (h.tally (.sources source.kind)) with
      | (.failed e, r, h) => (.failed e, r, h)
      | (.crashed m, r, h) => (.crashed m, r, h)
      | (.done kinds, r, h) => (.done (source.kind :: kinds), r, h)

def sources (c : Collaborators) (m : Metric) : Outcome Fault (Int64 × List Source) :=
  match c.bucket m.startTime with
  | .failed e => .failed e
  | .crashed m => .crashed m
  | .done bucket =>
    match heartbeats c m bucket with
    | .failed e => .failed e
    | .crashed m => .crashed m
    | .done updates =>
      .done (bucket,
        updates.map .instanceUpdate ++ Fanout.nodes m bucket ++ Fanout.relations m bucket)

def dispatch (c : Collaborators) (m : Metric) (r : Receiver ℓ) (h : Host) :
    Outcome DispatchFault Dispatch × Receiver ℓ × Host :=
  match sources c m with
  | .failed e => (.failed (.collaborator e), r, h)
  | .crashed m => (.crashed m, r, h)
  | .done (bucket, list) =>
    match offer list r h with
    | (.failed e, r, h) => (.failed e, r, h)
    | (.crashed m, r, h) => (.crashed m, r, h)
    | (.done kinds, r, h) => (.done ⟨bucket, kinds, false⟩, r, h)

/-- A record with the name that its endpoint gets, and whether it gets one. -/
def normalize (c : Collaborators) (m : Metric) (h : Host) :
    Outcome Fault (Metric × Bool) × Host :=
  match c.rename m.destService m.endpoint with
  | .failed e => (.failed e, h)
  | .crashed m => (.crashed m, h)
  | .done none => (.done (m, false), h)
  | .done (some name) =>
    let h := h.log .debug .normalizer "Endpoint renamed"
      [("service", m.destService), ("from", m.endpoint), ("to", name)]
    (.done ({ m with endpoint := name }, true), h.tally (.renamed m.destService))

def normalizeAndDispatch (c : Collaborators) (m : Metric) (r : Receiver ℓ) (h : Host) :
    Outcome DispatchFault Dispatch × Receiver ℓ × Host :=
  match normalize c m h with
  | (.failed e, h) => (.failed (.collaborator e), r, h)
  | (.crashed m, h) => (.crashed m, r, h)
  | (.done (m, renamed), h) =>
    match dispatch c m r h with
    | (.failed e, r, h) => (.failed e, r, h)
    | (.crashed m, r, h) => (.crashed m, r, h)
    | (.done d, r, h) => (.done { d with renamed }, r, h)

/-- Renames and dispatches a record inside one measurement, which is finished whatever happens. -/
def process (c : Collaborators) (m : Metric) (d : Dispatcher ℓ) (h : Host) :
    Outcome DispatchFault Dispatch × Dispatcher ℓ × Host :=
  let timer := d.timer.start
  match normalizeAndDispatch c m d.receiver h with
  | (o, receiver, h) =>
    match timer.finish h with
    | (timer, h) => (o, ⟨receiver, timer⟩, h)

end Dispatcher

end MeshTelemetry
