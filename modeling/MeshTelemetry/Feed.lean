import MeshTelemetry.Store
import MeshTelemetry.Text.Utf8

/-!
# MeshTelemetry.Feed

Reading input line by line. A line ends behind its line break, and the last one where the input
ends. A file is looked at again when its known bytes hold no whole line, since it may have grown.

* `Feed.nextLine` — the bytes of the next line; `Feed.textOf` — its text.
-/

namespace MeshTelemetry

/-- What is still to be read: the `pending` bytes, and those of the file behind the first `seen`
ones. Input that is no file has pending bytes only. -/
structure Feed where
  origin : Option Location
  seen : Nat
  pending : Bytes

namespace Feed

def ofBytes (bytes : Bytes) : Feed := ⟨none, 0, bytes⟩

def ofFile (loc : Location) : Feed := ⟨some loc, 0, []⟩

def lineBreak : UInt8 := 0x0a

/-- The bytes up to the first line break and those behind it, if there is one. -/
def cutLine (bytes : Bytes) : Option (Bytes × Bytes) :=
  match bytes.dropWhile (· ≠ lineBreak) with
  | [] => none
  | b :: rest => some (bytes.takeWhile (· ≠ lineBreak) ++ [b], rest)

/-- Takes the bytes that the file has by now. -/
def refill (f : Feed) (s : Store) : Except IoFault Feed :=
  match f.origin with
  | none => .ok f
  | some loc =>
    match s.content loc with
    | .error e => .error e
    | .ok bytes => .ok { f with seen := bytes.length, pending := f.pending ++ bytes.drop f.seen }

/-- How many bytes are still to be read, as far as is known. -/
def remaining (f : Feed) (s : Store) : Nat :=
  match f.refill s with
  | .error _ => 0
  | .ok f => f.pending.length

/-- The last line, which has no line break. -/
def lastLine (f : Feed) : Option Bytes × Feed :=
  if f.pending.isEmpty then (none, f) else (some f.pending, { f with pending := [] })

/-- The next line, if there is one. -/
def nextLine (f : Feed) (s : Store) : Except IoFault (Option Bytes × Feed) :=
  match cutLine f.pending with
  | some (line, rest) => .ok (some line, { f with pending := rest })
  | none =>
    match f.refill s with
    | .error e => .error e
    | .ok f =>
      match cutLine f.pending with
      | some (line, rest) => .ok (some line, { f with pending := rest })
      | none => .ok f.lastLine

def textOf (line : Bytes) : Except IoFault String :=
  match Text.decode? line with
  | some text => .ok text
  | none =>
    match Text.Utf8.fault? line with
    | some (index, length) => .error (.badLine index length)
    | none => .error .notText

end Feed

end MeshTelemetry
