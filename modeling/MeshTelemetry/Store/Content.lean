import MeshTelemetry.Text.Bytes

/-!
# MeshTelemetry.Store.Content

What a file holds. Bytes that are appended are kept as one more piece, so that appending does not
depend on how much is there already.

* `Content.bytes` — all bytes, in order.
* `Content.append` — the content with more bytes at its end; `bytes_append`.
-/

namespace MeshTelemetry

/-- The pieces in which the bytes were written, the last one first. -/
structure Content where
  pieces : List Bytes
  deriving DecidableEq, Repr

namespace Content

def empty : Content := ⟨[]⟩

def ofBytes (bytes : Bytes) : Content := ⟨[bytes]⟩

def bytes (c : Content) : Bytes := c.pieces.reverse.flatten

def append (c : Content) (bytes : Bytes) : Content := ⟨bytes :: c.pieces⟩

@[simp]
theorem bytes_ofBytes (bytes : Bytes) : (ofBytes bytes).bytes = bytes := by
  simp [ofBytes, Content.bytes]

@[simp]
theorem bytes_append (c : Content) (bytes : Bytes) : (c.append bytes).bytes = c.bytes ++ bytes := by
  simp [append, Content.bytes]

end Content

end MeshTelemetry
