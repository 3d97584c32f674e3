/-!
# MeshTelemetry.Toml.Token

Tokens of TOML text. The scanner takes one character after the other; where the text stops making
sense it emits one token `bad` and ignores the rest. Comments leave no token.
-/

namespace MeshTelemetry
namespace Toml

/-- A `mark` is one of `. = , [ ] { }`; a `bare` run holds all else that stands outside of
quotes. A text that may have several lines is `multi`. -/
inductive Token
  | mark (c : Char)
  | blank
  | newline
  | bare (run : List Char)
  | text (multi : Bool) (value : String)
  | bad
  deriving DecidableEq, Repr

/-- Where the scanner stands. `quote` is the character a text began with, `read` what was read of
it, its last character first. -/
inductive Mode
  | ready
  | carriage
  | blank
  | comment
  | bare (run : List Char)
  | opening (quote : Char) (count : Nat)
  | text (quote : Char) (multi : Bool) (read : List Char)
  | firstLine (quote : Char)
  | firstCarriage (quote : Char)
  | textCarriage (quote : Char) (read : List Char)
  | closing (quote : Char) (count : Nat) (read : List Char)
  | escape (multi : Bool) (read : List Char)
  | code (multi : Bool) (read : List Char) (missing value : Nat)
  | continued (broken : Bool) (read : List Char)
  | continuedCarriage (read : List Char)
  | stopped

/-- The scanner: its mode and the tokens so far, the last one first. -/
structure Scanner where
  mode : Mode
  tokens : List Token

namespace Scanner

def initial : Scanner := ⟨.ready, []⟩

def enter (s : Scanner) (mode : Mode) : Scanner := ⟨mode, s.tokens⟩

def emit (s : Scanner) (t : Token) : Scanner := ⟨.ready, t :: s.tokens⟩

def stop (s : Scanner) : Scanner := ⟨.stopped, .bad :: s.tokens⟩

def emitText (s : Scanner) (multi : Bool) (read : List Char) : Scanner :=
  s.emit (.text multi (String.ofList read.reverse))

def isMark (c : Char) : Bool :=
  c = '.' || c = '=' || c = ',' || c = '[' || c = ']' || c = '\x7b' || c = '\x7d'

def isBlank (c : Char) : Bool := c = ' ' || c = '\t'

/-- Controls other than the tab may not stand in a text or in a comment. -/
def isControl (c : Char) : Bool := (c.toNat < 32 && c ≠ '\t') || c.toNat = 127

/-- The first character of a token. -/
def begin (s : Scanner) (c : Char) : Scanner :=
  if isBlank c then s.enter .blank
  else if c = '\n' then s.emit .newline
  else if c = '\r' then s.enter .carriage
  else if c = '#' then s.enter .comment
  else if c = '"' || c = '\'' then s.enter (.opening c 1)
  else if isMark c then s.emit (.mark c)
  else s.enter (.bare [c])

def contents (s : Scanner) (quote : Char) (multi : Bool) (read : List Char) (c : Char) : Scanner :=
  if c = quote then
    if multi then s.enter (.closing quote 1 read) else s.emitText false read
  else if c = '\\' && quote = '"' then s.enter (.escape multi read)
  else if c = '\n' && multi then s.enter (.text quote multi (c :: read))
  else if c = '\r' && multi then s.enter (.textCarriage quote read)
  else if isControl c then s.stop
  else s.enter (.text quote multi (c :: read))

def escaped? (c : Char) : Option Char :=
  if c = 'b' then some '\x08'
  else if c = 't' then some '\t'
  else if c = 'n' then some '\n'
  else if c = 'f' then some '\x0c'
  else if c = 'r' then some '\r'
  else if c = 'e' then some '\x1b'
  else if c = '"' then some '"'
  else if c = '\\' then some '\\'
  else none

/-- How many hexadecimal digits follow the letter of an escape. -/
def codeLength? (c : Char) : Option Nat :=
  if c = 'x' then some 2 else if c = 'u' then some 4 else if c = 'U' then some 8 else none

def hexValue? (c : Char) : Option Nat :=
  let n := c.toNat
  if 48 ≤ n && n ≤ 57 then some (n - 48)
  else if 65 ≤ n && n ≤ 70 then some (n - 55)
  else if 97 ≤ n && n ≤ 102 then some (n - 87)
  else none

def isScalar (n : Nat) : Bool := n < 0xd800 || (0xdfff < n && n < 0x110000)

/-- Takes one character in. -/
def step (s : Scanner) (c : Char) : Scanner :=
  match s.mode with
  | .ready => s.begin c
  | .carriage => if c = '\n' then s.emit .newline else s.stop
  | .blank => if isBlank c then s else (s.emit .blank).begin c
  | .comment =>
    if c = '\n' then s.emit .newline
    else if c = '\r' then s.enter .carriage
    else if isControl c then s.stop
    else s
  | .bare run =>
    if isBlank c || c = '\n' || c = '\r' || c = '#' || c = '"' || c = '\'' || isMark c then
      (s.emit (.bare run.reverse)).begin c
    else s.enter (.bare (c :: run))
  | .opening quote 1 =>
    if c = quote then s.enter (.opening quote 2) else s.contents quote false [] c
  | .opening quote _ =>
    if c = quote then s.enter (.firstLine quote) else (s.emitText false []).begin c
  | .firstLine quote =>
    if c = '\n' then s.enter (.text quote true [])
    else if c = '\r' then s.enter (.firstCarriage quote)
    else s.contents quote true [] c
  | .firstCarriage quote => if c = '\n' then s.enter (.text quote true []) else s.stop
  | .text quote multi read => s.contents quote multi read c
  | .textCarriage quote read =>
    if c = '\n' then s.enter (.text quote true ('\n' :: '\r' :: read)) else s.stop
  | .closing quote count read =>
    if c = quote then
      if count = 4 then s.emitText true (quote :: quote :: read)
      else s.enter (.closing quote (count + 1) read)
    else if count < 3 then s.contents quote true (List.replicate count quote ++ read) c
    else (s.emitText true (List.replicate (count - 3) quote ++ read)).begin c
  | .escape multi read =>
    match codeLength? c with
    | some missing => s.enter (.code multi read missing 0)
    | none =>
      match escaped? c with
      | some e => s.enter (.text '"' multi (e :: read))
      | none =>
        if !multi then s.stop
        else if isBlank c then s.enter (.continued false read)
        else if c = '\n' then s.enter (.continued true read)
        else if c = '\r' then s.enter (.continuedCarriage read)
        else s.stop
  | .code multi read missing value =>
    match hexValue? c with
    | none => s.stop
    | some d =>
      let value := value * 16 + d
      if missing > 1 then s.enter (.code multi read (missing - 1) value)
      else if isScalar value then s.enter (.text '"' multi (Char.ofNat value :: read))
      else s.stop
  | .continued broken read =>
    if isBlank c then s
    else if c = '\n' then s.enter (.continued true read)
    else if c = '\r' then s.enter (.continuedCarriage read)
    else if broken then s.contents '"' true read c
    else s.stop
  | .continuedCarriage read => if c = '\n' then s.enter (.continued true read) else s.stop
  | .stopped => s

def finish (s : Scanner) : List Token :=
  match s.mode with
  | .ready => s.tokens.reverse
  | .blank => (s.emit .blank).tokens.reverse
  | .comment => s.tokens.reverse
  | .bare run => (s.emit (.bare run.reverse)).tokens.reverse
  | .opening _ 2 => (s.emitText false []).tokens.reverse
  | .closing quote count read =>
    if count < 3 then s.stop.tokens.reverse
    else (s.emitText true (List.replicate (count - 3) quote ++ read)).tokens.reverse
  | .stopped => s.tokens.reverse
  | _ => s.stop.tokens.reverse

end Scanner

/-- The tokens of a text. A byte order mark may stand in front of it. -/
def tokens (cs : List Char) : List Token :=
  let cs :=
    match cs with
    | c :: rest => if c.toNat = 0xfeff then rest else c :: rest
    | [] => []
  (cs.foldl Scanner.step Scanner.initial).finish

end Toml
end MeshTelemetry
