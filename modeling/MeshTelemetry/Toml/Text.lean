/-!
# MeshTelemetry.Toml.Text

Texts and keys as TOML. There are four ways to write a text: with or without escapes, in one or in
several lines. The plainest that can hold the text is taken: double quotes if nothing needs an
escape, else single quotes, else several lines; escapes are the last resort.

* `Toml.quoted` — a text; `Toml.key` — a part of a key.
-/

namespace MeshTelemetry
namespace Toml

/-- The longest run of a character; `run` is the length of the run that ends here. -/
def longestRun (c : Char) : Nat → List Char → Nat
  | _, [] => 0
  | run, d :: rest =>
    if d = c then max (run + 1) (longestRun c (run + 1) rest) else longestRun c 0 rest

/-- Whether a character can stand in a text of one line only as an escape. -/
def needsEscape (c : Char) : Bool :=
  (c.toNat < 32 && c ≠ '\t' && c ≠ '\n') || c.toNat = 127

def hexDigit (n : Nat) : Char := Char.ofNat (if n < 10 then 48 + n else 55 + n)

def controlEscape (c : Char) : List Char :=
  if c = '\x08' then ['\\', 'b']
  else if c = '\t' then ['\\', 't']
  else if c = '\n' then ['\\', 'n']
  else if c = '\x0c' then ['\\', 'f']
  else if c = '\r' then ['\\', 'r']
  else ['\\', 'u', '0', '0', hexDigit (c.toNat / 16), hexDigit (c.toNat % 16)]

def isControl (c : Char) : Bool := c.toNat < 32 || c.toNat = 127

/-- The characters of a text between double quotes, of which up to `limit` may follow one another
without an escape; there are `quotes` in front. In several lines a line feed stands for itself. -/
def escaped (limit : Nat) (multi : Bool) : Nat → List Char → List Char
  | _, [] => []
  | quotes, c :: rest =>
    if c = '"' then
      if quotes < limit then c :: escaped limit multi (quotes + 1) rest
      else ['\\', '"'] ++ escaped limit multi 0 rest
    else if c = '\\' then ['\\', '\\'] ++ escaped limit multi 0 rest
    else if c = '\n' && multi then c :: escaped limit multi 0 rest
    else if isControl c then controlEscape c ++ escaped limit multi 0 rest
    else c :: escaped limit multi 0 rest

def basic (cs : List Char) : List Char := ['"'] ++ escaped 0 false 0 cs ++ ['"']

def literal (cs : List Char) : List Char := ['\''] ++ cs ++ ['\'']

/-- A line feed behind the opening quotes does not belong to the text. -/
def opening (cs : List Char) : List Char := if cs.contains '\n' then ['\n'] else []

def multiBasic (cs : List Char) : List Char :=
  ['"', '"', '"'] ++ opening cs ++ escaped 2 true 0 cs ++ ['"', '"', '"']

def multiLiteral (cs : List Char) : List Char :=
  ['\'', '\'', '\''] ++ opening cs ++ cs ++ ['\'', '\'', '\'']

def quoted (s : String) : String :=
  let cs := s.toList
  let controls := cs.any needsEscape
  let plain := !controls && !cs.contains '\\'
  let lines := cs.contains '\n'
  let double := longestRun '"' 0 cs
  let single := longestRun '\'' 0 cs
  String.ofList <|
    if plain && double = 0 && !lines then basic cs
    else if !controls && single = 0 && !lines then literal cs
    else if plain && double ≤ 2 then multiBasic cs
    else if !controls && single ≤ 2 then multiLiteral cs
    else if lines then multiBasic cs
    else basic cs

/-- A part of a key may stand without quotes if it has only these characters. -/
def isBareChar (c : Char) : Bool :=
  let n := c.toNat
  (48 ≤ n && n ≤ 57) || (65 ≤ n && n ≤ 90) || (97 ≤ n && n ≤ 122) || c = '_' || c = '-'

/-- A part of a key, without quotes if possible. -/
def key (s : String) : String :=
  let cs := s.toList
  let controls := cs.any fun c => needsEscape c || c = '\n'
  if !cs.isEmpty && cs.all isBareChar then s
  else
    String.ofList <|
      if !controls && !cs.contains '\\' && !cs.contains '"' then basic cs
      else if !controls && !cs.contains '\'' then literal cs
      else basic cs

end Toml
end MeshTelemetry
