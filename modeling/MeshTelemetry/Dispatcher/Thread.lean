import MeshTelemetry.Dispatcher
import MeshTelemetry.Receiver.Delivery
import MeshTelemetry.Stats.Summary

/-!
# MeshTelemetry.Dispatcher.Thread

Threads that share a dispatcher over a set of receivers. Each thread dispatches its own records, one
after the other, and keeps its own summary of them. A thread does one thing at a time: it begins a
record, does a step of the delivery of a source, or ends a record. Between two of its steps other
threads may do theirs.

* `Thread.step` — the next step of a thread.
* `Team.step`, `Team.run` — threads that take their steps in the order of a schedule.
-/

namespace MeshTelemetry

variable {ℓ : Type}

/-- What threads share: the members of the set, the host, and the measurements of the latency. -/
structure Common (ℓ : Type) extends Shared ℓ where
  timer : Timer

/-- What a thread is at: nothing, or a record. The sources that are left of a record are delivered
in order; what comes of it is then settled. -/
inductive Activity
  | idle
  | dispatching (m : Metric) (d : Dispatch) (left : List Source)
  | delivering (m : Metric) (d : Dispatch) (delivery : Delivery) (left : List Source)
  | settling (m : Metric) (o : Outcome DispatchFault Dispatch)
  | crashed (message : String)

/-- A thread with the records that it has not begun. -/
structure Thread where
  waiting : List Metric
  activity : Activity
  summary : Stats.Dispatched

namespace Activity

variable [Sink ℓ]

/-- Begins a record: all collaborators are asked. -/
def ofRecord (c : Collaborators) (m : Metric) (h : Host) : Activity × Host :=
  match Dispatcher.normalize c m h with
  | (.failed e, h) => (.settling m (.failed (.collaborator e)), h)
  | (.crashed message, h) => (.settling m (.crashed message), h)
  | (.done (m', renamed), h) =>
    match Dispatcher.sources c m' with
    | .failed e => (.settling m (.failed (.collaborator e)), h)
    | .crashed message => (.settling m (.crashed message), h)
    | .done (bucket, list) => (.dispatching m ⟨bucket, [], renamed⟩ list, h)

/-- A source was accepted by all receivers. -/
def forward (m : Metric) (d : Dispatch) (kind : SourceKind) (left : List Source) (h : Host) :
    Activity × Host :=
  let h := h.log .trace .dispatcher "Source forwarded" [("kind", kind.name)]
  (.dispatching m { d with emitted := d.emitted ++ [kind] } left, h.tally (.sources kind))

/-- The next step of a delivery, or what is made of it if it has ended. -/
def deliver (m : Metric) (d : Dispatch) (delivery : Delivery) (left : List Source) (s : Shared ℓ) :
    Activity × Shared ℓ :=
  match delivery.stage with
  | .returned (.ok ()) =>
    match forward m d delivery.source.kind left s.host with
    | (activity, host) => (activity, { s with host })
  | .returned (.error e) => (.settling m (.failed (.refused delivery.source.kind e)), s)
  | .crashed message => (.settling m (.crashed message), s)
  | _ =>
    match delivery.step s with
    | (delivery, s) => (.delivering m d delivery left, s)

end Activity

namespace Thread

def start (records : List Metric) : Thread := ⟨records, .idle, .none⟩

/-- The thread has dispatched all its records. -/
def isDone (t : Thread) : Prop := t.waiting = [] ∧ t.activity = .idle

instance : DecidablePred isDone
  | ⟨[], .idle, _⟩ => isTrue ⟨rfl, rfl⟩
  | ⟨_ :: _, _, _⟩ => isFalse nofun
  | ⟨_, .dispatching .., _⟩ => isFalse nofun
  | ⟨_, .delivering .., _⟩ => isFalse nofun
  | ⟨_, .settling .., _⟩ => isFalse nofun
  | ⟨_, .crashed _, _⟩ => isFalse nofun

/-- Ends a record with what came of it. -/
def settle (t : Thread) (m : Metric) : Outcome DispatchFault Dispatch → Thread
  | .done d =>
    { t with activity := .idle, summary := t.summary.recordSuccess m.latency d.emitted d.renamed }
  | .failed _ => { t with activity := .idle, summary := t.summary.recordFailure }
  | .crashed message => { t with activity := .crashed message }

variable [Sink ℓ]

def step (c : Collaborators) (t : Thread) (s : Common ℓ) : Thread × Common ℓ :=
  match t.activity with
  | .idle =>
    match t.waiting with
    | [] => (t, s)
    | m :: waiting =>
      match Activity.ofRecord c m s.host with
      | (activity, host) => ({ t with waiting, activity }, { s with host, timer := s.timer.start })
  | .dispatching m d [] => ({ t with activity := .settling m (.done d) }, s)
  | .dispatching m d (source :: left) =>
    ({ t with activity := .delivering m d (.start source) left }, s)
  | .delivering m d delivery left =>
    match Activity.deliver m d delivery left s.toShared with
    | (activity, shared) => ({ t with activity }, { s with toShared := shared })
  | .settling m o =>
    match s.timer.finish s.host with
    | (timer, host) => (t.settle m o, { s with host, timer })
  | .crashed _ => (t, s)

end Thread

/-- Threads at work. -/
structure Team (ℓ : Type) where
  common : Common ℓ
  threads : List Thread

namespace Team

/-- Nobody has begun anything. -/
def start (receivers : List (Receiver ℓ)) (timer : Timer) (h : Host) (work : List (List Metric)) :
    Team ℓ where
  common := ⟨⟨(Members.ofList receivers).toList, h⟩, timer⟩
  threads := work.map Thread.start

def isDone (s : Team ℓ) : Prop := ∀ t ∈ s.threads, t.isDone

instance (s : Team ℓ) : Decidable s.isDone := inferInstanceAs (Decidable (∀ t ∈ s.threads, _))

variable [Sink ℓ]

/-- The thread with this index does its next step. -/
def step (c : Collaborators) (s : Team ℓ) (i : Nat) : Team ℓ :=
  match s.threads[i]? with
  | none => s
  | some t =>
    match t.step c s.common with
    | (t, common) => { common, threads := s.threads.set i t }

/-- The threads do their steps in the order of a schedule. -/
def run (c : Collaborators) (s : Team ℓ) (schedule : List Nat) : Team ℓ :=
  schedule.foldl (step c) s

end Team

end MeshTelemetry
