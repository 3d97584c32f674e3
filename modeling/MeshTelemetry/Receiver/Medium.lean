import MeshTelemetry.Receiver.Output
import MeshTelemetry.Receiver.Request

/-!
# MeshTelemetry.Receiver.Medium

A receiver that writes lines to any device, and the calls on it. The open file of a store is one
device; a medium is one that holds nothing but the bytes that it was given.

* `FileOutput.receiveOn`, `FileOutput.flushOn` — the two calls; `FileOutput.serveAllOn` — calls in a
  row, with their answers.
* `Medium.device` — some writes have too little room.
-/

namespace MeshTelemetry

namespace FileOutput

variable {σ : Type}

/-- Writes the text of a source to a device piece by piece and then the line break. -/
def receiveOn (device : Device σ IoFault) (f : FileOutput) (source : Source) (s : σ) :
    Outcome Fault Unit × FileOutput × σ :=
  match f.buffer.writeAll device (source.toJson.pieces.map Text.encode) s with
  | (.error e, buffer, s) => (.failed (.receiver f.name e.message), { f with buffer }, s)
  | (.ok (), buffer, s) =>
    match buffer.write device (Text.encode "\n") s with
    | (.error e, buffer, s) => (.failed (.io e), { f with buffer }, s)
    | (.ok (), buffer, s) => (.done (), { f with buffer }, s)

def flushOn (device : Device σ IoFault) (f : FileOutput) (s : σ) :
    Outcome Fault Unit × FileOutput × σ :=
  match f.buffer.flush device s with
  | (.error e, buffer, s) => (.failed (.io e), { f with buffer }, s)
  | (.ok (), buffer, s) => (.done (), { f with buffer }, s)

def serveOn (device : Device σ IoFault) :
    Request → FileOutput → σ → Outcome Fault Unit × FileOutput × σ
  | .receive source, f, s => f.receiveOn device source s
  | .flush, f, s => f.flushOn device s

/-- One call after the other. The caller goes on also if one of them fails. -/
def serveAllOn (device : Device σ IoFault) : List Request → FileOutput → σ →
    List (Request × Outcome Fault Unit) × FileOutput × σ
  | [], f, s => ([], f, s)
  | request :: requests, f, s =>
    match serveOn device request f s with
    | (o, f, s) =>
      match serveAllOn device requests f s with
      | (calls, f, s) => ((request, o) :: calls, f, s)

end FileOutput

/-- The bytes that were written, and how many bytes the next writes have room for. -/
structure Medium where
  bytes : Bytes
  shortages : Shortages

def Medium.device : Device Medium IoFault := fun bytes m =>
  (m.shortages.answer bytes, ⟨m.bytes ++ m.shortages.taken bytes, m.shortages.tail⟩)

end MeshTelemetry
