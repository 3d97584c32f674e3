import MeshTelemetry.Fault
import MeshTelemetry.Text.Bytes

/-!
# MeshTelemetry.Store.Shortage

How much can be written. A write takes as many bytes as there is room for, and fails if these are
not all; a later write may find room again.

* `Shortages.taken` — the bytes that a write takes; `Shortages.answer` — what comes of it.
-/

namespace MeshTelemetry

/-- How many bytes each of the next writes has room for. The writes behind them have room for all
bytes. -/
abbrev Shortages := List Nat

namespace Shortages

/-- The bytes that the next write takes. -/
def taken : Shortages → Bytes → Bytes
  | [], bytes => bytes
  | room :: _, bytes => bytes.take room

/-- What comes of the next write. A failure tells how many bytes were taken before it. -/
def answer : Shortages → Bytes → Except (IoFault × Nat) Unit
  | [], _ => .ok ()
  | room :: _, bytes => if bytes.length ≤ room then .ok () else .error (.noSpace, room)

theorem taken_eq (s : Shortages) (bytes : Bytes) :
    s.taken bytes =
      match s.answer bytes with
      | .ok () => bytes
      | .error (_, written) => bytes.take written := by
  cases s with
  | nil => rfl
  | cons room rest =>
    rw [answer]
    by_cases hroom : bytes.length ≤ room
    · rw [if_pos hroom]
      exact List.take_of_length_le hroom
    · rw [if_neg hroom]
      rfl

end Shortages

end MeshTelemetry
