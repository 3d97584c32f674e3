import MeshTelemetry.Host

/-!
# MeshTelemetry.Receiver

Receivers of sources. A receiver is a sink, or a set of receivers that offers each source to its
members in order and stops at the first that refuses it. A set counts what each member accepted
and refused.

* `Sink` — what a single receiver can do.
* `Receiver.receive`, `Receiver.flush`, `Receiver.close` — the same for trees of receivers.
-/

namespace MeshTelemetry

/-- What comes of a call on a receiver, with the receiver and the host after it. -/
abbrev Step (ρ : Type) := Outcome Fault Unit × ρ × Host

/-- A single receiver: it accepts or refuses sources, and passes on what it holds back when it is
flushed or closed. -/
class Sink (ℓ : Type) where
  name : ℓ → String
  receive : ℓ → Source → Host → Step ℓ
  flush : ℓ → Host → Step ℓ
  close : ℓ → Host → Host

mutual

/-- A tree of receivers with sinks `ℓ` as leaves. -/
inductive Receiver (ℓ : Type)
  | sink (s : ℓ)
  | set (name : String) (members : Members ℓ)

/-- The members of a set, with the numbers of sources each accepted and refused. -/
inductive Members (ℓ : Type)
  | none
  | more (receiver : Receiver ℓ) (received failures : Nat) (rest : Members ℓ)

end

variable {ℓ : Type}

namespace Members

def ofList : List (Receiver ℓ) → Members ℓ
  | [] => .none
  | r :: rest => .more r 0 0 (ofList rest)

def size : Members ℓ → Nat
  | .none => 0
  | .more _ _ _ rest => rest.size + 1

end Members

variable [Sink ℓ]

def Receiver.name : Receiver ℓ → String
  | .sink s => Sink.name s
  | .set name _ => name

/-- Each member with the numbers of sources it accepted and refused. -/
def Members.counts : Members ℓ → List (String × Nat × Nat)
  | .none => []
  | .more r received failures rest => (r.name, received, failures) :: rest.counts

/-- The counts of the members of a set; a sink has no members. -/
def Receiver.memberCounts : Receiver ℓ → List (String × Nat × Nat)
  | .sink _ => []
  | .set _ members => members.counts

def logRefusal (r : Receiver ℓ) (source : Source) (cause : Fault) (h : Host) : Host :=
  h.log .error .receiverSet "Receiver rejected source"
    [("receiver", r.name), ("kind", source.kind.name), ("error", cause.message)]

def logFlushFailure (r : Receiver ℓ) (cause : Fault) (h : Host) : Host :=
  h.log .error .receiverSet "Receiver flush failed"
    [("receiver", r.name), ("error", cause.message)]

mutual

def Receiver.receive : Receiver ℓ → Source → Host → Step (Receiver ℓ)
  | .sink s, source, h =>
    match Sink.receive s source h with
    | (o, s, h) => (o, .sink s, h)
  | .set name members, source, h =>
    match members.receive source h with
    | (o, members, h) => (o, .set name members, h)

/-- Offers a source to one member after the other, up to the first that refuses it. -/
def Members.receive : Members ℓ → Source → Host → Step (Members ℓ)
  | .none, _, h => (.done (), .none, h)
  | .more r received failures rest, source, h =>
    match r.receive source h with
    | (.failed e, r, h) => (.failed e, .more r received (failures + 1) rest, logRefusal r source e h)
    | (.crashed m, r, h) => (.crashed m, .more r received failures rest, h)
    | (.done (), r, h) =>
      match rest.receive source h with
      | (o, rest, h) => (o, .more r (received + 1) failures rest, h)

end

mutual

def Receiver.flush : Receiver ℓ → Host → Step (Receiver ℓ)
  | .sink s, h =>
    match Sink.flush s h with
    | (o, s, h) => (o, .sink s, h)
  | .set name members, h =>
    match members.flush h with
    | (o, members, h) => (o, .set name members, h)

/-- Flushes all members; the first failure is the one reported. -/
def Members.flush : Members ℓ → Host → Step (Members ℓ)
  | .none, h => (.done (), .none, h)
  | .more r received failures rest, h =>
    match r.flush h with
    | (.crashed m, r, h) => (.crashed m, .more r received failures rest, h)
    | (.done (), r, h) =>
      match rest.flush h with
      | (o, rest, h) => (o, .more r received failures rest, h)
    | (.failed e, r, h) =>
      match rest.flush (logFlushFailure r e h) with
      | (.crashed m, rest, h) => (.crashed m, .more r received failures rest, h)
      | (_, rest, h) => (.failed e, .more r received failures rest, h)

end

mutual

def Receiver.close : Receiver ℓ → Host → Host
  | .sink s, h => Sink.close s h
  | .set _ members, h => members.close h

/-- Closes all members in order. -/
def Members.close : Members ℓ → Host → Host
  | .none, h => h
  | .more r _ _ rest, h => rest.close (r.close h)

end

end MeshTelemetry
