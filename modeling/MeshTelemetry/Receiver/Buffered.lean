import MeshTelemetry.Text.Bytes

/-!
# MeshTelemetry.Receiver.Buffered

Buffered writing. Bytes are collected until they fill the buffer; what does not fit below its
capacity sends the collected bytes on first, and what is as long as the whole buffer goes past it.
If sending them on fails, the buffer keeps what was not taken.

* `Buffered.write` — takes bytes in; `Buffered.flush` — sends the collected bytes on.
-/

namespace MeshTelemetry

/-- Where bytes go: a write takes all bytes, or fails behind the first so many of them, and changes
a state. -/
abbrev Device (σ ε : Type) := Bytes → σ → Except (ε × Nat) Unit × σ

/-- The bytes collected so far. -/
structure Buffered where
  pending : Array UInt8
  deriving DecidableEq

namespace Buffered

variable {σ ε : Type}

def empty : Buffered := ⟨#[]⟩

def capacity : Nat := 8192

/-- How many bytes fit behind the pending ones. -/
def spare (b : Buffered) : Nat := capacity - b.pending.size

def keep (b : Buffered) (bytes : Bytes) : Buffered := ⟨b.pending ++ bytes⟩

/-- Sends the pending bytes on. The device is not asked to write nothing. -/
def flush (device : Device σ ε) (b : Buffered) (s : σ) : Except ε Unit × Buffered × σ :=
  if b.pending.isEmpty then (.ok (), b, s)
  else
    match device b.pending.toList s with
    | (.error (e, written), s) => (.error e, ⟨(b.pending.toList.drop written).toArray⟩, s)
    | (.ok (), s) => (.ok (), empty, s)

/-- Takes bytes in when nothing or enough is pending for them. -/
def place (device : Device σ ε) (bytes : Bytes) (b : Buffered) (s : σ) :
    Except ε Unit × Buffered × σ :=
  if bytes.length ≥ capacity then
    match device bytes s with
    | (.error (e, _), s) => (.error e, b, s)
    | (.ok (), s) => (.ok (), b, s)
  else (.ok (), b.keep bytes, s)

/-- Takes bytes in. -/
def write (device : Device σ ε) (bytes : Bytes) (b : Buffered) (s : σ) :
    Except ε Unit × Buffered × σ :=
  if bytes.length < b.spare then (.ok (), b.keep bytes, s)
  else if bytes.length > b.spare then
    match b.flush device s with
    | (.error e, b, s) => (.error e, b, s)
    | (.ok (), b, s) => b.place device bytes s
  else b.place device bytes s

/-- Takes in one piece after the other, up to the first that fails. -/
def writeAll (device : Device σ ε) : List Bytes → Buffered → σ → Except ε Unit × Buffered × σ
  | [], b, s => (.ok (), b, s)
  | bytes :: rest, b, s =>
    match b.write device bytes s with
    | (.error e, b, s) => (.error e, b, s)
    | (.ok (), b, s) => writeAll device rest b s

end Buffered

end MeshTelemetry
