import MeshTelemetry.Receiver

/-!
# MeshTelemetry.Receiver.Delivery

Deliveries to a set of receivers that several threads share. A delivery is one call on the set. It
does one thing at a time: it offers its source to a member, counts the answer, or reports a refusal.
Between two of its steps others may do theirs.

* `Delivery.step` — the next step of a delivery.
* `Deliveries.step`, `Deliveries.run` — deliveries that take their steps in the order of a schedule.
-/

namespace MeshTelemetry

variable {ℓ : Type}

/-- A member of a set with the numbers of sources it accepted and refused. -/
structure Member (ℓ : Type) where
  receiver : Receiver ℓ
  received : Nat
  failures : Nat

namespace Member

def countReceived (m : Member ℓ) : Member ℓ := { m with received := m.received + 1 }

def countFailure (m : Member ℓ) : Member ℓ := { m with failures := m.failures + 1 }

end Member

def Members.toList : Members ℓ → List (Member ℓ)
  | .none => []
  | .more receiver received failures rest => ⟨receiver, received, failures⟩ :: rest.toList

/-- What deliveries share: the members of the set, and the host. -/
structure Shared (ℓ : Type) where
  members : List (Member ℓ)
  host : Host

/-- What a delivery does next: it offers its source, counts an acceptance or a refusal, reports a
refusal that was counted, or nothing more, having returned or crashed. -/
inductive Delivery.Stage
  | offering
  | accepted
  | refused (cause : Fault)
  | counted (cause : Fault)
  | returned (answer : Except Fault Unit)
  | crashed (message : String)

/-- A delivery of a source. So many members have accepted it and have counted that: it deals with
the one behind them. -/
structure Delivery where
  source : Source
  passed : Nat
  stage : Delivery.Stage

namespace Delivery

def start (source : Source) : Delivery := ⟨source, 0, .offering⟩

def Stage.ofAnswer : Outcome Fault Unit → Stage
  | .done () => .accepted
  | .failed e => .refused e
  | .crashed m => .crashed m

/-- The delivery has returned; one that crashed never does. -/
def hasReturned (d : Delivery) : Prop := ∃ answer, d.stage = .returned answer

variable [Sink ℓ]

/-- Offers the source to the next member, or returns if there is none. -/
def offer (d : Delivery) (s : Shared ℓ) : Delivery × Shared ℓ :=
  match s.members[d.passed]? with
  | none => ({ d with stage := .returned (.ok ()) }, s)
  | some m =>
    match m.receiver.receive d.source s.host with
    | (o, receiver, host) =>
      ({ d with stage := .ofAnswer o },
        { members := s.members.set d.passed { m with receiver }, host })

/-- Reports that the member refused the source. -/
def report (d : Delivery) (cause : Fault) (s : Shared ℓ) : Shared ℓ :=
  match s.members[d.passed]? with
  | none => s
  | some m => { s with host := logRefusal m.receiver d.source cause s.host }

def step (d : Delivery) (s : Shared ℓ) : Delivery × Shared ℓ :=
  match d.stage with
  | .offering => d.offer s
  | .accepted =>
    ({ d with passed := d.passed + 1, stage := .offering },
      { s with members := s.members.modify d.passed Member.countReceived })
  | .refused e =>
    ({ d with stage := .counted e },
      { s with members := s.members.modify d.passed Member.countFailure })
  | .counted e => ({ d with stage := .returned (.error e) }, d.report e s)
  | .returned _ => (d, s)
  | .crashed _ => (d, s)

/-- What the member answers if the next step offers the source to one. -/
def answer? (d : Delivery) (s : Shared ℓ) : Option (Outcome Fault Unit) :=
  match d.stage with
  | .offering => s.members[d.passed]?.map fun m => (m.receiver.receive d.source s.host).1
  | _ => none

end Delivery

/-- A source was offered to a member by a delivery, and this was the answer. -/
structure Handover where
  delivery : Nat
  source : Source
  member : Nat
  answer : Outcome Fault Unit
  deriving DecidableEq

/-- Deliveries under way, and the handovers so far. -/
structure Deliveries (ℓ : Type) where
  shared : Shared ℓ
  list : List Delivery
  handovers : List Handover

namespace Deliveries

def start (receivers : List (Receiver ℓ)) (sources : List Source) (h : Host) : Deliveries ℓ where
  shared := ⟨(Members.ofList receivers).toList, h⟩
  list := sources.map Delivery.start
  handovers := []

/-- All deliveries have returned. -/
def areDone (s : Deliveries ℓ) : Prop := ∀ d ∈ s.list, d.hasReturned

variable [Sink ℓ]

/-- The delivery with this index takes its next step. -/
def step (s : Deliveries ℓ) (i : Nat) : Deliveries ℓ :=
  match s.list[i]? with
  | none => s
  | some d =>
    match d.step s.shared with
    | (d', shared) =>
      { shared
        list := s.list.set i d'
        handovers := s.handovers ++ (d.answer? s.shared).toList.map (⟨i, d.source, d.passed, ·⟩) }

/-- The deliveries take their steps in the order of a schedule. -/
def run (s : Deliveries ℓ) (schedule : List Nat) : Deliveries ℓ := schedule.foldl step s

end Deliveries

end MeshTelemetry
