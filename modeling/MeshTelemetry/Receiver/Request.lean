import MeshTelemetry.Receiver

/-!
# MeshTelemetry.Receiver.Request

What a receiver is called for, as data, so that a list of calls can be made one after the other.

* `Receiver.serve` — one call; `serveAll` — one call after the other.
-/

namespace MeshTelemetry

/-- A call on a receiver. -/
inductive Request
  | receive (source : Source)
  | flush
  deriving DecidableEq, Repr

/-- One call after the other, with their answers. -/
def serveAll {σ : Type} (serve : Request → σ → Host → Step σ) :
    List Request → σ → Host → List (Outcome Fault Unit) × σ × Host
  | [], state, h => ([], state, h)
  | request :: requests, state, h =>
    match serve request state h with
    | (o, state, h) =>
      match serveAll serve requests state h with
      | (answers, state, h) => (o :: answers, state, h)

namespace Receiver

variable {ℓ : Type} [Sink ℓ]

def serve : Request → Receiver ℓ → Host → Step (Receiver ℓ)
  | .receive source, r, h => r.receive source h
  | .flush, r, h => r.flush h

end Receiver

end MeshTelemetry
