import MeshTelemetry.Text.Bytes

/-!
# MeshTelemetry.Text.Utf8

Where bytes stop being UTF-8. A faulty sequence is the longest beginning of a character that the
bytes have; what it has at the end of the bytes is incomplete, and what it has before another byte
is invalid.

* `Utf8.fault?` — the first faulty sequence.
* `Utf8.replaceFaults` — the text with each faulty sequence replaced by one character.
-/

namespace MeshTelemetry
namespace Text
namespace Utf8

/-- What the bytes begin with: a character of some length, or a faulty sequence, whose length is
known if other bytes follow it. -/
inductive Front
  | character (length : Nat)
  | fault (length : Option Nat)
  deriving DecidableEq, Repr

/-- The bytes that may stand behind the first one: how many, and the bounds of the next. -/
def following? (first : UInt8) : Option (Nat × UInt8 × UInt8) :=
  if first < 0x80 then some (0, 0x80, 0xbf)
  else if first < 0xc2 then none
  else if first < 0xe0 then some (1, 0x80, 0xbf)
  else if first = 0xe0 then some (2, 0xa0, 0xbf)
  else if first = 0xed then some (2, 0x80, 0x9f)
  else if first < 0xf0 then some (2, 0x80, 0xbf)
  else if first = 0xf0 then some (3, 0x90, 0xbf)
  else if first < 0xf4 then some (3, 0x80, 0xbf)
  else if first = 0xf4 then some (3, 0x80, 0x8f)
  else none

/-- Reads the missing bytes of a character of which `read` bytes were read. -/
def rest (read : Nat) : Nat → UInt8 → UInt8 → Bytes → Front
  | 0, _, _, _ => .character read
  | _ + 1, _, _, [] => .fault none
  | missing + 1, low, high, b :: bytes =>
    if low ≤ b ∧ b ≤ high then rest (read + 1) missing 0x80 0xbf bytes else .fault (some read)

def front (first : UInt8) (bytes : Bytes) : Front :=
  match following? first with
  | none => .fault (some 1)
  | some (missing, low, high) => rest 1 missing low high bytes

/-- The index and the length of the first faulty sequence; `skip` bytes belong to the character
read last. -/
def faultFrom : Nat → Nat → Bytes → Option (Nat × Option Nat)
  | _, _, [] => none
  | index, skip + 1, _ :: bytes => faultFrom (index + 1) skip bytes
  | index, 0, b :: bytes =>
    match front b bytes with
    | .character length => faultFrom (index + 1) (length - 1) bytes
    | .fault length => some (index, length)

/-- The index and the length of the first faulty sequence. -/
def fault? (bytes : Bytes) : Option (Nat × Option Nat) := faultFrom 0 0 bytes

/-- The bytes with each faulty sequence replaced; `skip` bytes belong to the character or sequence
read last, and are kept if `keep`. -/
def replaceFrom (keep : Bool) : Nat → Bytes → Bytes
  | _, [] => []
  | skip + 1, b :: bytes =>
    if keep then b :: replaceFrom keep skip bytes else replaceFrom keep skip bytes
  | 0, b :: bytes =>
    match front b bytes with
    | .character length => b :: replaceFrom true (length - 1) bytes
    | .fault (some length) => [0xef, 0xbf, 0xbd] ++ replaceFrom false (length - 1) bytes
    | .fault none => [0xef, 0xbf, 0xbd]

def replaceFaults (bytes : Bytes) : String := (decode? (replaceFrom true 0 bytes)).getD ""

end Utf8
end Text
end MeshTelemetry
