import MeshTelemetry.Document

/-!
# MeshTelemetry.Document.Decoder

Decoders of single values: texts, flags, integers, named choices, sequences and maps of texts.
Where the formats differ, in what stands for a named choice and in what may follow the last
element of a sequence, the decoder asks the `Dialect`.
-/

namespace MeshTelemetry

/-- Where a document comes from: read from JSON text, first taken into memory as a whole and then
decoded, or read from TOML text. -/
inductive Dialect
  | json
  | buffered
  | toml
  deriving DecidableEq

abbrev Decoder (α : Type) := Document → Except DecodeError α

namespace Decoder

def text : Decoder String
  | .text s => .ok s
  | d => .error (d.mistyped "a string")

def flag : Decoder Bool
  | .bool b => .ok b
  | d => .error (d.mistyped "a boolean")

/-- An integer of the stated range. -/
def integer (low high : Int) (expected : String) : Decoder Int
  | .int z =>
    if low ≤ z ∧ z ≤ high then .ok z
    else .error (.misfit (.invalidValue (Document.describeInt z) expected))
  | d => .error (d.mistyped expected)

def int64 : Decoder Int64 := fun d =>
  (integer Int64.minValue.toInt Int64.maxValue.toInt "i64" d).map Int64.ofInt

def int32 : Decoder Int32 := fun d =>
  (integer Int32.minValue.toInt Int32.maxValue.toInt "i32" d).map Int32.ofInt

/-- A natural number below `2 ^ 64`. -/
def nat64 : Decoder Nat := fun d =>
  (integer 0 (Int.ofNat (UInt64.size - 1)) "u64" d).map Int.toNat

/-- A value written as a name. Names that are not `known` stand for `otherwise`, if there is one;
`listed` are the names a message shows. -/
structure Names (α : Type) where
  known : List (String × α)
  listed : List String
  otherwise : Option α

def Names.find (names : Names α) (name : String) : Except DecodeError α :=
  match names.known.lookup name with
  | some a => .ok a
  | none =>
    match names.otherwise with
    | some a => .ok a
    | none => .error (.misfit (.unknownVariant name names.listed))

/-- What may stand beside a name that is written as the key of a map: in JSON `null`, in memory
also an empty map, in TOML an empty table or array. -/
def noContent : Dialect → Document → Except DecodeError Unit
  | .json, .null => .ok ()
  | .json, d => .error (d.mistyped "unit")
  | .buffered, .null => .ok ()
  | .buffered, .map [] _ => .ok ()
  | .buffered, d => .error (d.mistyped "unit")
  | .toml, .map [] _ => .ok ()
  | .toml, .seq [] _ => .ok ()
  | .toml, _ => .error .malformed

/-- A named choice: its name, or a map whose only key is its name. -/
def named (dialect : Dialect) (names : Names α) : Decoder α
  | .text name => names.find name
  | .map members whole =>
    match dialect, members with
    | .buffered, [(some name, d)] =>
      match names.find name with
      | .error e => .error e
      | .ok a =>
        match noContent .buffered d with
        | .error e => .error e
        | .ok () => .ok a
    | .buffered, _ => .error (.misfit (.invalidValue "map" "map with a single key"))
    | .toml, _ :: _ :: _ => .error .malformed
    | _, (some name, d) :: rest =>
      match names.find name with
      | .error e => .error e
      | .ok a =>
        match noContent dialect d with
        | .error e => .error e
        | .ok () => if rest.isEmpty && whole then .ok a else .error .malformed
    | _, _ => .error .malformed
  | d =>
    match dialect with
    | .buffered => .error (d.mistyped "string or map")
    | _ => .error .malformed

/-- Decodes the items in order up to the first that does not fit. -/
def items (item : Decoder α) : List Document → Except DecodeError (List α)
  | [] => .ok []
  | d :: rest =>
    match item d with
    | .error e => .error e
    | .ok a =>
      match items item rest with
      | .error e => .error e
      | .ok as => .ok (a :: as)

def list (item : Decoder α) : Decoder (List α)
  | .seq ds whole =>
    match items item ds with
    | .error e => .error e
    | .ok as => if whole then .ok as else .error .malformed
  | d => .error (d.mistyped "a sequence")

/-- The pairs with `value` put at `key`: in its place if the key is there, else at the end. -/
def assign (key value : String) : List (String × String) → List (String × String)
  | [] => [(key, value)]
  | (k, v) :: rest => if k = key then (k, value) :: rest else (k, v) :: assign key value rest

/-- Decodes members from left to right; the last value of a repeated key counts. -/
def pairs : List (String × String) → List (Option String × Document) →
    Except DecodeError (List (String × String))
  | done, [] => .ok done
  | done, (key, d) :: rest =>
    match Document.key? key with
    | .error e => .error e
    | .ok k =>
      match text d with
      | .error e => .error e
      | .ok v => pairs (assign k v done) rest

def texts : Decoder (List (String × String))
  | .map members whole =>
    match pairs [] members with
    | .error e => .error e
    | .ok done => if whole then .ok done else .error .malformed
  | .moment spelling => pairs [] (Document.momentMembers spelling)
  | d => .error (d.mistyped "a map")

end Decoder

end MeshTelemetry
