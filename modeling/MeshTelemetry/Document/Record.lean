import MeshTelemetry.Document.Decoder

/-!
# MeshTelemetry.Document.Record

Decoders of records. A record type is given by its fields in declaration order. A record is
written as a map from field names to values, in any order and with any other members between
them, or as the sequence of its values, of which the last may be left out when they have a default.

* `Record.Values` — one value for each field; `Record.Slots` — one value or none.
* `Record.decode` — the decoder of a record.
-/

namespace MeshTelemetry

/-- A field; `absent` is its value in a record that does not mention it. -/
structure Field where
  name : String
  Value : Type
  decoder : Decoder Value
  absent : Option Value

namespace Record

def Values : List Field → Type
  | [] => Unit
  | f :: fs => f.Value × Values fs

def Slots : List Field → Type
  | [] => Unit
  | f :: fs => Option f.Value × Slots fs

def Slots.empty : (fields : List Field) → Slots fields
  | [] => ()
  | _ :: fs => (none, Slots.empty fs)

/-- Takes one member in. A member that names no field is passed over, if it was read to its end. -/
def Slots.put : (fields : List Field) → Slots fields → String → Document →
    Except DecodeError (Slots fields)
  | [], slots, _, d => if d.isWhole then .ok slots else .error .malformed
  | f :: fs, (slot, rest), key, d =>
    if key = f.name then
      match slot with
      | some _ => .error (.misfit (.duplicateField f.name))
      | none =>
        match f.decoder d with
        | .error e => .error e
        | .ok v => .ok (some v, rest)
    else
      match Slots.put fs rest key d with
      | .error e => .error e
      | .ok rest => .ok (slot, rest)

def Slots.putAll (fields : List Field) : Slots fields → List (Option String × Document) →
    Except DecodeError (Slots fields)
  | slots, [] => .ok slots
  | slots, (key, d) :: rest =>
    match Document.key? key with
    | .error e => .error e
    | .ok k =>
      match Slots.put fields slots k d with
      | .error e => .error e
      | .ok slots => Slots.putAll fields slots rest

def Slots.complete : (fields : List Field) → Slots fields → Except DecodeError (Values fields)
  | [], _ => .ok ()
  | f :: fs, (slot, rest) =>
    match slot.or f.absent with
    | none => .error (.misfit (.missingField f.name))
    | some v =>
      match Slots.complete fs rest with
      | .error e => .error e
      | .ok vs => .ok (v, vs)

/-- What is expected when a sequence has too few elements. -/
def expectedLength (title : String) (count : Nat) : String :=
  title ++ " with " ++ toString count ++ (if count = 1 then " element" else " elements")

/-- Takes the values from a sequence, and returns what is left of it. -/
def takeItems (title : String) (count : Nat) (whole : Bool) :
    (fields : List Field) → List Document → Except DecodeError (Values fields × List Document)
  | [], ds => .ok ((), ds)
  | f :: fs, [] =>
    if whole then
      match f.absent with
      | none =>
        .error (.misfit (.invalidLength (count - (fs.length + 1)) (expectedLength title count)))
      | some v =>
        match takeItems title count whole fs [] with
        | .error e => .error e
        | .ok (vs, ds) => .ok ((v, vs), ds)
    else .error .malformed
  | f :: fs, d :: ds =>
    match f.decoder d with
    | .error e => .error e
    | .ok v =>
      match takeItems title count whole fs ds with
      | .error e => .error e
      | .ok (vs, ds) => .ok ((v, vs), ds)

/-- Whether a sequence may end as it does after the last field of `count`. -/
def endItems (dialect : Dialect) (count : Nat) (whole : Bool) (left : List Document) :
    Except DecodeError Unit :=
  match dialect, left with
  | .toml, _ => .ok ()
  | _, [] => if whole then .ok () else .error .malformed
  | .json, _ => .error .malformed
  | .buffered, _ =>
    .error (.misfit (.invalidLength (count + left.length)
      (toString count ++ (if count = 1 then " element" else " elements") ++ " in sequence")))

def decodeMembers (fields : List Field) (members : List (Option String × Document))
    (whole : Bool) : Except DecodeError (Values fields) :=
  match Slots.putAll fields (Slots.empty fields) members with
  | .error e => .error e
  | .ok slots => if whole then Slots.complete fields slots else .error .malformed

/-- Decodes a record; `title` is what messages call it. -/
def decode (dialect : Dialect) (title : String) (fields : List Field) :
    Document → Except DecodeError (Values fields)
  | .map members whole => decodeMembers fields members whole
  | .moment spelling => decodeMembers fields (Document.momentMembers spelling) true
  | .seq ds whole =>
    match takeItems title fields.length whole fields ds with
    | .error e => .error e
    | .ok (vs, left) =>
      match endItems dialect fields.length whole left with
      | .error e => .error e
      | .ok () => .ok vs
  | d => .error (d.mistyped title)

end Record

end MeshTelemetry
