import MeshTelemetry.Text.Quoted

/-!
# MeshTelemetry.Document

What a reader of structured text has found: a tree of scalars, sequences and maps. A text that
stops making sense somewhere still has a document, of everything in front of that place; the
place itself is `cut`, and each container that was open there is not `whole`. A typed decoder can
therefore report whichever comes first in the text, a fault of form or a value that does not fit.

* `Document.isWhole` — the document was read to its end.
* `Misfit` — why a well-formed value does not fit the type asked for, and `Misfit.message`.
* `DecodeError` — a misfit, or a fault of form.
-/

namespace MeshTelemetry

/-- A scalar that is `flawed` is written correctly but stands for no value, such as half of a
surrogate pair. A `float` and a `moment`, a date or a time, are kept by their spelling only: no
type asked for holds one. A key that is `none` is flawed. -/
inductive Document
  | null
  | bool (value : Bool)
  | int (value : Int)
  | float (spelling : String)
  | text (value : String)
  | moment (spelling : String)
  | seq (items : List Document) (whole : Bool)
  | map (members : List (Option String × Document)) (whole : Bool)
  | flawed
  | cut

/-- Why a value does not fit. -/
inductive Misfit
  | missingField (name : String)
  | duplicateField (name : String)
  | unknownVariant (name : String) (expected : List String)
  | invalidType (found expected : String)
  | invalidValue (found expected : String)
  | invalidLength (length : Nat) (expected : String)
  deriving DecidableEq, Repr

inductive DecodeError
  | malformed
  | misfit (cause : Misfit)
  deriving DecidableEq, Repr

namespace Misfit

/-- The names a value may have, for a message. -/
def oneOf : List String → String
  | [] => "there are no variants"
  | [a] => "expected `" ++ a ++ "`"
  | [a, b] => "expected `" ++ a ++ "` or `" ++ b ++ "`"
  | names => "expected one of " ++ ", ".intercalate (names.map fun n => "`" ++ n ++ "`")

def message : Misfit → String
  | .missingField name => "missing field `" ++ name ++ "`"
  | .duplicateField name => "duplicate field `" ++ name ++ "`"
  | .unknownVariant name expected => "unknown variant `" ++ name ++ "`, " ++ oneOf expected
  | .invalidType found expected => "invalid type: " ++ found ++ ", expected " ++ expected
  | .invalidValue found expected => "invalid value: " ++ found ++ ", expected " ++ expected
  | .invalidLength length expected =>
    "invalid length " ++ toString length ++ ", expected " ++ expected

end Misfit

namespace Document

def isWhole : Document → Bool
  | .seq _ whole => whole
  | .map _ whole => whole
  | .cut => false
  | _ => true

/-- An integer as messages show it; one beyond sixty-four bits is shown with its width. -/
def describeInt (z : Int) : String :=
  let shown := "integer `" ++ toString z ++ "`"
  if Int64.minValue.toInt ≤ z ∧ z < Int.ofNat UInt64.size then shown
  else if -Int.ofNat (1 <<< 127) ≤ z ∧ z < Int.ofNat (1 <<< 127) then shown ++ " as i128"
  else shown ++ " as u128"

/-- How a message names what was found; nothing, if what was found is no value. -/
def describe? : Document → Option String
  | .null => some "null"
  | .bool b => some (if b then "boolean `true`" else "boolean `false`")
  | .int z => some (describeInt z)
  | .float spelling => some ("floating point `" ++ spelling ++ "`")
  | .text s => some ("string " ++ Text.quoted s)
  | .moment _ => some "map"
  | .seq _ _ => some "sequence"
  | .map _ _ => some "map"
  | .flawed => none
  | .cut => none

/-- A date or a time is decoded as if it were a map with this only key. -/
def momentKey : String := "$__toml_private_datetime"

def momentMembers (spelling : String) : List (Option String × Document) :=
  [(some momentKey, .text spelling)]

def mistyped (d : Document) (expected : String) : DecodeError :=
  match d.describe? with
  | some found => .misfit (.invalidType found expected)
  | none => .malformed

def key? : Option String → Except DecodeError String
  | some k => .ok k
  | none => .error .malformed

end Document

end MeshTelemetry
