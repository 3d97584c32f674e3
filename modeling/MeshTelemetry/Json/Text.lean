/-!
# MeshTelemetry.Json.Text

JSON values and their text. The compact text has no blanks; it is produced in pieces, which is
what a buffered file is given one by one. The indented text has one item or member on each line.

* `Json.pieces`, `Json.compact` — the compact text.
* `Json.indented` — the indented text.
-/

namespace MeshTelemetry

/-- A JSON value without fractional numbers. -/
inductive Json
  | null
  | bool (value : Bool)
  | int (value : Int)
  | text (value : String)
  | list (items : List Json)
  | object (members : List (String × Json))

namespace Json

def unitDigit (n : Nat) : Char := Char.ofNat (if n < 10 then 48 + n else 87 + n)

/-- The escape of a character that may not stand in a text as it is. -/
def escape? (c : Char) : Option String :=
  if c = '"' then some "\\\""
  else if c = '\\' then some "\\\\"
  else if c = '\x08' then some "\\b"
  else if c = '\x0c' then some "\\f"
  else if c = '\n' then some "\\n"
  else if c = '\r' then some "\\r"
  else if c = '\t' then some "\\t"
  else if c.toNat < 32 then
    some (String.ofList ['\\', 'u', '0', '0', unitDigit (c.toNat / 16), unitDigit (c.toNat % 16)])
  else none

/-- The pieces of a text between its quotes: escapes, and the runs of characters between them.
`run` is the run so far, its last character first. -/
def contents : List Char → List Char → List String
  | [], [] => []
  | run, [] => [String.ofList run.reverse]
  | run, c :: cs =>
    match escape? c with
    | none => contents (c :: run) cs
    | some e => if run.isEmpty then e :: contents [] cs else String.ofList run.reverse :: e :: contents [] cs

def quotedPieces (s : String) : List String := "\"" :: contents [] s.toList ++ ["\""]

mutual

/-- The compact text of a value in the pieces in which it is written. -/
def pieces : Json → List String
  | .null => ["null"]
  | .bool b => [if b then "true" else "false"]
  | .int z => [toString z]
  | .text s => quotedPieces s
  | .list items => "[" :: itemPieces true items ++ ["]"]
  | .object members => "\x7b" :: memberPieces true members ++ ["\x7d"]

def itemPieces : Bool → List Json → List String
  | _, [] => []
  | isFirst, v :: rest => (if isFirst then [] else [","]) ++ pieces v ++ itemPieces false rest

def memberPieces : Bool → List (String × Json) → List String
  | _, [] => []
  | isFirst, (k, v) :: rest =>
    (if isFirst then [] else [","]) ++ quotedPieces k ++ [":"] ++ pieces v ++ memberPieces false rest

end

def compact (v : Json) : String := String.join (pieces v)

def newline (level : Nat) : String := "\n" ++ String.ofList (List.replicate (2 * level) ' ')

def quotedText (s : String) : String := String.join (quotedPieces s)

mutual

def indentedAt (level : Nat) : Json → String
  | .null => "null"
  | .bool b => if b then "true" else "false"
  | .int z => toString z
  | .text s => quotedText s
  | .list [] => "[]"
  | .list items => "[" ++ indentedItems (level + 1) true items ++ newline level ++ "]"
  | .object [] => "\x7b\x7d"
  | .object members => "\x7b" ++ indentedMembers (level + 1) true members ++ newline level ++ "\x7d"

def indentedItems (level : Nat) : Bool → List Json → String
  | _, [] => ""
  | isFirst, v :: rest =>
    (if isFirst then "" else ",") ++ newline level ++ indentedAt level v
      ++ indentedItems level false rest

def indentedMembers (level : Nat) : Bool → List (String × Json) → String
  | _, [] => ""
  | isFirst, (k, v) :: rest =>
    (if isFirst then "" else ",") ++ newline level ++ quotedText k ++ ": " ++ indentedAt level v
      ++ indentedMembers level false rest

end

def indented (v : Json) : String := indentedAt 0 v

end Json

end MeshTelemetry
