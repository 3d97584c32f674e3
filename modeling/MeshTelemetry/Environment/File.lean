import MeshTelemetry.Environment
import MeshTelemetry.Feed
import MeshTelemetry.Text.Alphanumeric
import MeshTelemetry.Text.Blank
import MeshTelemetry.Text.Case
import MeshTelemetry.Text.Natural

/-!
# MeshTelemetry.Environment.File

Files that set environment variables, one by line: `NAME=value`, perhaps behind `export`. A value
may be quoted, may refer to other variables by `$NAME`, and may be followed by a comment. A line
in which a quote is open goes on with the next one. Variables that are set already keep their
values, and the first faulty line ends the file.

* `EnvFile.logicalLines` — the lines, put together where a quote is open.
* `EnvFile.entry` — what a line sets; `EnvFile.load` — the variables that a file leads to.
-/

namespace MeshTelemetry
namespace EnvFile

/-- Where in a line the reader is: whether a quote is open, a backslash precedes, or a blank does,
behind which a comment may begin. -/
inductive Place
  | plain
  | escape
  | strong
  | strongEscape
  | weak
  | weakEscape
  | blank
  deriving DecidableEq, Repr

namespace Place

def opening (c : Char) : Place :=
  if c = '\\' then .escape else if c = '"' then .weak else if c = '\'' then .strong else .plain

/-- The place behind a character; none where a comment begins. -/
def next? (c : Char) : Place → Option Place
  | .blank => if c = '#' then none else some (opening c)
  | .escape => some .plain
  | .plain =>
    some (if Text.isBlank c && c ≠ '\n' && c ≠ '\r' then .blank else opening c)
  | .weak => some (if c = '\\' then .weakEscape else if c = '"' then .plain else .weak)
  | .weakEscape => some .weak
  | .strong => some (if c = '\\' then .strongEscape else if c = '\'' then .plain else .strong)
  | .strongEscape => some .strong

end Place

/-- The characters before a comment, and the place behind a line without one. -/
def scan : Place → List Char → List Char × Option Place
  | place, [] => ([], some place)
  | place, c :: cs =>
    match place.next? c with
    | none => ([], none)
    | some place =>
      match scan place cs with
      | (kept, ending) => (c :: kept, ending)

/-- The line without its line break. -/
def dropBreak (line : List Char) : List Char :=
  match line.reverse with
  | '\n' :: '\r' :: rest => rest.reverse
  | '\n' :: rest => rest.reverse
  | _ => line

/-- Puts lines together; `begun` is the beginning of the next one, and `place` where it stops. What
is open at the end of the file is no line. -/
def logicalLines (begun : List Char) (place : Place) : List (List Char) → List (List Char)
  | [] => []
  | line :: rest =>
    let whole := begun ++ line
    if (Text.trimStart whole).head? = some '#' then [] :: logicalLines [] .plain rest
    else
      match scan place line with
      | (kept, none) => (begun ++ kept) :: logicalLines [] .plain rest
      | (_, some .plain) => dropBreak whole :: logicalLines [] .plain rest
      | (_, some place) => logicalLines whole place rest

/-- How the next character of a value is read: as it is, behind a backslash, between single
quotes, as part of a name behind `$`, plain or in braces, or behind the end of the value. -/
inductive Mode
  | plain
  | escaped
  | strong
  | name (reversed : List Char)
  | braced (reversed : List Char)
  | ended
  deriving DecidableEq, Repr

/-- A value in reading: whether double quotes are open, the mode, and the characters so far, the
last one first. -/
structure Value where
  weak : Bool
  mode : Mode
  reversed : List Char
  deriving DecidableEq, Repr

namespace Value

def push (v : Value) (c : Char) : Value := { v with reversed := c :: v.reversed }

/-- Puts the value of a variable in; one that is not set has none. -/
def refer (env : Environment) (v : Value) (reversedName : List Char) : Value :=
  let value := (env.lookup (String.ofList reversedName.reverse)).getD ""
  { v with reversed := value.toList.reverse ++ v.reversed }

def ordinary (c : Char) (v : Value) : Value :=
  if c = '$' then { v with mode := .name [] }
  else if c = '\\' then { v with mode := .escaped }
  else if c = '"' then { v with weak := !v.weak }
  else if v.weak then v.push c
  else if c = '\'' then { v with mode := .strong }
  else if c = ' ' || c = '\t' then { v with mode := .ended }
  else v.push c

/-- Reads one character of a name behind `$`. The character that ends a name is never special,
except that a `$` begins the next one. -/
def inName (env : Environment) (c : Char) (name : List Char) (v : Value) : Value :=
  if Text.isAlphanumeric c then { v with mode := .name (c :: name) }
  else if c = '\x7b' && name.isEmpty then { v with mode := .braced [] }
  else
    let v := v.refer env name
    if c = '$' then { v with mode := .name [] } else { v with mode := .plain }.push c

def inBraces (env : Environment) (c : Char) (name : List Char) (v : Value) : Value :=
  if c = '\x7d' then { v with mode := .plain }.refer env name
  else { v with mode := .braced (c :: name) }

/-- The character that a backslash and `c` stand for. -/
def escape? (c : Char) : Option Char :=
  if c = 'n' then some '\n'
  else if c = '\\' || c = '\'' || c = '"' || c = '$' || c = ' ' then some c
  else none

/-- The value at its end; no quote or brace may be open. -/
def close? (env : Environment) (v : Value) : Option String :=
  if v.weak then none
  else
    match v.mode with
    | .strong => none
    | .braced _ => none
    | .name name => some (String.ofList (v.refer env name).reversed.reverse)
    | _ => some (String.ofList v.reversed.reverse)

def read (env : Environment) : Value → List Char → Option String
  | v, [] => v.close? env
  | v, c :: cs =>
    match v.mode with
    | .ended =>
      if c = ' ' || c = '\t' then read env v cs
      else if c = '#' then v.close? env
      else none
    | .escaped =>
      match escape? c with
      | none => none
      | some c => read env ({ v with mode := .plain }.push c) cs
    | .strong => read env (if c = '\'' then { v with mode := .plain } else v.push c) cs
    | .name name => read env (v.inName env c name) cs
    | .braced name => read env (v.inBraces env c name) cs
    | .plain => read env (v.ordinary c) cs

end Value

/-- What a line sets, if anything. -/
inductive Entry
  | blank
  | faulty
  | setting (name value : String)
  deriving DecidableEq, Repr

namespace Entry

def isLetter (c : Char) : Bool := let c := Text.lowerAscii c; 'a' ≤ c && c ≤ 'z'

def isNamePart (c : Char) : Bool := isLetter c || (Text.digit? c).isSome || c = '_' || c = '.'

/-- The name at the beginning of a line, and what follows it and the blanks behind it. -/
def name? (line : List Char) : Option (String × List Char) :=
  match line with
  | [] => none
  | c :: _ =>
    if isLetter c || c = '_' then
      some (String.ofList (line.takeWhile isNamePart),
        Text.trimStart (line.dropWhile isNamePart))
    else none

def afterName (env : Environment) (name : String) : List Char → Entry
  | '=' :: rest =>
    match Text.trimStart rest with
    | [] => .setting name ""
    | '#' :: _ => .setting name ""
    | text =>
      match Value.read env ⟨false, .plain, []⟩ text with
      | none => .faulty
      | some value => .setting name value
  | _ => .faulty

/-- Reads a line. The word `export` is skipped, unless it is itself the name. -/
def ofLine (env : Environment) (line : List Char) : Entry :=
  match Text.trim line with
  | [] => .blank
  | '#' :: _ => .blank
  | text =>
    match name? text with
    | none => .faulty
    | some ("export", '=' :: rest) => afterName env "export" ('=' :: rest)
    | some ("export", rest) =>
      match name? rest with
      | none => .faulty
      | some (name, rest) => afterName env name rest
    | some (name, rest) => afterName env name rest

end Entry

/-- Sets what lines set, up to the first faulty one. -/
def setAll (env : Environment) : List (List Char) → Environment
  | [] => env
  | line :: rest =>
    match Entry.ofLine env line with
    | .blank => setAll env rest
    | .faulty => env
    | .setting name value => setAll (env.setDefault name value) rest

/-- The lines of a file with their line breaks, up to the first that is no text. -/
def physicalLines : Nat → Bytes → List (List Char)
  | 0, _ => []
  | fuel + 1, bytes =>
    if bytes.isEmpty then []
    else
      let (line, rest) := (Feed.cutLine bytes).getD (bytes, [])
      match Text.decode? line with
      | none => []
      | some text => text.toList :: physicalLines fuel rest

/-- The bytes without a byte order mark. -/
def withoutMark : Bytes → Bytes
  | 0xef :: 0xbb :: 0xbf :: rest => rest
  | bytes => bytes

def load (env : Environment) (bytes : Bytes) : Environment :=
  let bytes := withoutMark bytes
  setAll env (logicalLines [] .plain (physicalLines bytes.length bytes))

end EnvFile
end MeshTelemetry
