import MeshTelemetry.Dispatcher

/-!
# MeshTelemetry.Dispatcher.Invocation

Calls on a dispatcher, step by step. In each step a call asks one collaborator or the receiver, and
the answer decides whether it goes on or leaves: with a value, with a fault, or unwinding from a
crash. A call that measures its latency holds the measurement from its first step to its last one,
in which it leaves.

* `Invocation.step` — the next step of a call; `Invocation.after` — so many steps.
* `Dispatcher.serve`, `Dispatcher.serveAll` — calls as a whole, one after the other.
-/

namespace MeshTelemetry
namespace Dispatcher

variable {ℓ : Type}

/-- What a call does next: it asks for the name of an endpoint, for the time bucket of a record, or
for the id of an instance's service; it offers what is left of the sources; it leaves; or it does
nothing more. -/
inductive Invocation.Stage
  | naming (m : Metric)
  | bucketing (m : Metric) (renamed : Bool)
  | identifyingSource (m : Metric) (d : Dispatch)
  | identifyingDest (m : Metric) (d : Dispatch) (updates : List InstanceUpdate)
  | offering (d : Dispatch) (left : List Source)
  | leaving (o : Outcome DispatchFault Dispatch)
  | returned (o : Outcome DispatchFault Dispatch)

/-- A call on a dispatcher, which may hold an open measurement. -/
structure Invocation (ℓ : Type) where
  stage : Invocation.Stage
  isMeasured : Bool
  dispatcher : Dispatcher ℓ
  host : Host

namespace Invocation

/-- A call to rename and dispatch a record begins a measurement. -/
def ofProcess (m : Metric) (d : Dispatcher ℓ) (h : Host) : Invocation ℓ :=
  ⟨.naming m, true, { d with timer := d.timer.start }, h⟩

/-- A call to dispatch a record that is already renamed. -/
def ofDispatch (m : Metric) (d : Dispatcher ℓ) (h : Host) : Invocation ℓ :=
  ⟨.bucketing m false, false, d, h⟩

def hasReturned (s : Invocation ℓ) : Bool :=
  match s.stage with
  | .returned _ => true
  | _ => false

/-- Goes on with what a collaborator has answered, or leaves. -/
def proceed {α : Type} (s : Invocation ℓ) (answer : Outcome Fault α) (next : α → Stage) :
    Invocation ℓ :=
  match answer with
  | .done a => { s with stage := next a }
  | .failed e => { s with stage := .leaving (.failed (.collaborator e)) }
  | .crashed message => { s with stage := .leaving (.crashed message) }

/-- Gives up the measurement, if there is one. -/
def release (s : Invocation ℓ) (o : Outcome DispatchFault Dispatch) : Invocation ℓ :=
  if s.isMeasured then
    match s.dispatcher.timer.finish s.host with
    | (timer, host) => ⟨.returned o, false, { s.dispatcher with timer }, host⟩
  else { s with stage := .returned o }

variable [Sink ℓ]

/-- Offers a source to the receiver. -/
def offer (s : Invocation ℓ) (d : Dispatch) (source : Source) (left : List Source) : Invocation ℓ :=
  match s.dispatcher.receiver.receive source s.host with
  | (.done (), receiver, host) =>
    let host := host.log .trace .dispatcher "Source forwarded" [("kind", source.kind.name)]
    { s with
      stage := .offering { d with emitted := d.emitted ++ [source.kind] } left
      dispatcher := { s.dispatcher with receiver }
      host := host.tally (.sources source.kind) }
  | (.failed e, receiver, host) =>
    { s with
      stage := .leaving (.failed (.refused source.kind e))
      dispatcher := { s.dispatcher with receiver }
      host }
  | (.crashed message, receiver, host) =>
    { s with
      stage := .leaving (.crashed message)
      dispatcher := { s.dispatcher with receiver }
      host }

/-- The next step, in which the collaborators answer like `c`. -/
def step (c : Collaborators) (s : Invocation ℓ) : Invocation ℓ :=
  match s.stage with
  | .naming m =>
    match Dispatcher.normalize c m s.host with
    | (answer, host) => { s with host }.proceed answer fun (m, renamed) => .bucketing m renamed
  | .bucketing m renamed =>
    s.proceed (c.bucket m.startTime) fun bucket => .identifyingSource m ⟨bucket, [], renamed⟩
  | .identifyingSource m d =>
    s.proceed (Dispatcher.heartbeat c m.sourceService m.sourceInstance d.timeBucket)
      (.identifyingDest m d)
  | .identifyingDest m d updates =>
    s.proceed (Dispatcher.heartbeat c m.destService m.destInstance d.timeBucket) fun more =>
      .offering d ((updates ++ more).map .instanceUpdate ++ Fanout.nodes m d.timeBucket ++
        Fanout.relations m d.timeBucket)
  | .offering d [] => { s with stage := .leaving (.done d) }
  | .offering d (source :: left) => s.offer d source left
  | .leaving o => s.release o
  | .returned _ => s

/-- So many steps. The collaborators may answer differently from one step to another. -/
def after (answers : Nat → Collaborators) (s : Invocation ℓ) : Nat → Invocation ℓ
  | 0 => s
  | n + 1 => (s.after answers n).step (answers n)

/-- No call takes more steps. -/
def limit : Nat := 14

/-- The call up to its end. -/
def ended (answers : Nat → Collaborators) (s : Invocation ℓ) : Dispatcher ℓ × Host :=
  let s := s.after answers limit
  (s.dispatcher, s.host)

end Invocation

/-- What a dispatcher is called for, with what the collaborators answer in the steps of the call. -/
inductive Request
  | process (m : Metric) (answers : Nat → Collaborators)
  | dispatch (m : Metric) (answers : Nat → Collaborators)
  | flush

def Request.isProcess : Request → Bool
  | .process .. => true
  | _ => false

variable [Sink ℓ]

def serve : Request → Dispatcher ℓ × Host → Dispatcher ℓ × Host
  | .process m answers, (d, h) => (Invocation.ofProcess m d h).ended answers
  | .dispatch m answers, (d, h) => (Invocation.ofDispatch m d h).ended answers
  | .flush, (d, h) =>
    match d.receiver.flush h with
    | (_, receiver, h) => ({ d with receiver }, h)

/-- Calls one after the other; the caller goes on also if one of them fails or crashes. -/
def serveAll (requests : List Request) (s : Dispatcher ℓ × Host) : Dispatcher ℓ × Host :=
  requests.foldl (fun s request => serve request s) s

end Dispatcher

end MeshTelemetry
