import MeshTelemetry.Json.Number

/-!
# MeshTelemetry.Json.Token

Tokens of JSON text. The scanner takes one character after the other; where the text stops making
sense it emits one token `bad` and ignores the rest.
-/

namespace MeshTelemetry
namespace Json

/-- A `text` is `none` if it holds half of a surrogate pair. -/
inductive Token
  | beginMap
  | endMap
  | beginSeq
  | endSeq
  | colon
  | comma
  | text (value : Option String)
  | scalar (value : Document)
  | bad

/-- How far a number has been read: its sign, a leading zero, digits, the point, digits behind it,
the mark of the exponent, its sign, its digits. -/
inductive NumberState
  | sign
  | zero
  | whole
  | point
  | fraction
  | mark
  | markSign
  | exponent
  deriving DecidableEq

def isNonZeroDigit (c : Char) : Bool := 49 ≤ c.toNat && c.toNat ≤ 57

/-- The state after one more character of the number. -/
def NumberState.next? : NumberState → Char → Option NumberState
  | .sign, c => if c = '0' then some .zero else if isNonZeroDigit c then some .whole else none
  | .zero, c => if c = '.' then some .point else if c = 'e' || c = 'E' then some .mark else none
  | .whole, c =>
    if Numeral.isDigit c then some .whole
    else if c = '.' then some .point
    else if c = 'e' || c = 'E' then some .mark
    else none
  | .point, c => if Numeral.isDigit c then some .fraction else none
  | .fraction, c =>
    if Numeral.isDigit c then some .fraction
    else if c = 'e' || c = 'E' then some .mark
    else none
  | .mark, c =>
    if Numeral.isDigit c then some .exponent
    else if c = '+' || c = '-' then some .markSign
    else none
  | .markSign, c => if Numeral.isDigit c then some .exponent else none
  | .exponent, c => if Numeral.isDigit c then some .exponent else none

/-- Whether a number may end before the character `c`, if there is one. -/
def NumberState.mayEnd : NumberState → Option Char → Bool
  | .zero, some c => !Numeral.isDigit c
  | .zero, none => true
  | .whole, _ => true
  | .fraction, _ => true
  | .exponent, _ => true
  | _, _ => false

/-- A character of a text, or one half of a surrogate pair. -/
inductive Piece
  | char (c : Char)
  | half (unit : Nat)

def Piece.ofUnit (n : Nat) : Piece :=
  if 0xd800 ≤ n ∧ n ≤ 0xdfff then .half n else .char (Char.ofNat n)

/-- The characters of the pieces, if each half stands in a pair. -/
def Piece.join? : List Piece → Option (List Char)
  | [] => some []
  | .char c :: rest => (join? rest).map (c :: ·)
  | .half high :: .half low :: rest =>
    if high < 0xdc00 ∧ 0xdc00 ≤ low then
      (join? rest).map (Char.ofNat (0x10000 + (high - 0xd800) * 0x400 + (low - 0xdc00)) :: ·)
    else none
  | .half _ :: _ => none

/-- Where the scanner stands. Lists of what was read have the last element first. -/
inductive Mode
  | ready
  | word (next : Char) (rest : List Char) (value : Document)
  | number (state : NumberState) (read : List Char)
  | text (read : List Piece)
  | escape (read : List Piece)
  | unit (read : List Piece) (missing : Nat) (value : Nat)
  | stopped

/-- The scanner: its mode and the tokens so far, the last one first. -/
structure Scanner where
  mode : Mode
  tokens : List Token

namespace Scanner

def initial : Scanner := ⟨.ready, []⟩

def emit (s : Scanner) (t : Token) : Scanner := ⟨.ready, t :: s.tokens⟩

def stop (s : Scanner) : Scanner := ⟨.stopped, .bad :: s.tokens⟩

def enter (s : Scanner) (mode : Mode) : Scanner := ⟨mode, s.tokens⟩

/-- The first character of a token, or a blank. -/
def begin (s : Scanner) (c : Char) : Scanner :=
  if c = ' ' || c = '\n' || c = '\t' || c = '\r' then s.enter .ready
  else if c = '"' then s.enter (.text [])
  else if c = '\x7b' then s.emit .beginMap
  else if c = '\x7d' then s.emit .endMap
  else if c = '[' then s.emit .beginSeq
  else if c = ']' then s.emit .endSeq
  else if c = ':' then s.emit .colon
  else if c = ',' then s.emit .comma
  else if c = '-' then s.enter (.number .sign [c])
  else if c = '0' then s.enter (.number .zero [c])
  else if isNonZeroDigit c then s.enter (.number .whole [c])
  else if c = 'n' then s.enter (.word 'u' ['l', 'l'] .null)
  else if c = 't' then s.enter (.word 'r' ['u', 'e'] (.bool true))
  else if c = 'f' then s.enter (.word 'a' ['l', 's', 'e'] (.bool false))
  else s.stop

def escaped? (c : Char) : Option Char :=
  if c = '"' then some '"'
  else if c = '\\' then some '\\'
  else if c = '/' then some '/'
  else if c = 'b' then some '\x08'
  else if c = 'f' then some '\x0c'
  else if c = 'n' then some '\n'
  else if c = 'r' then some '\r'
  else if c = 't' then some '\t'
  else none

def hexValue? (c : Char) : Option Nat :=
  let n := c.toNat
  if 48 ≤ n && n ≤ 57 then some (n - 48)
  else if 65 ≤ n && n ≤ 70 then some (n - 55)
  else if 97 ≤ n && n ≤ 102 then some (n - 87)
  else none

/-- Takes one character in. -/
def step (s : Scanner) (c : Char) : Scanner :=
  match s.mode with
  | .ready => s.begin c
  | .word next rest value =>
    if c = next then
      match rest with
      | [] => s.emit (.scalar value)
      | next :: rest => s.enter (.word next rest value)
    else s.stop
  | .number state read =>
    match state.next? c with
    | some state => s.enter (.number state (c :: read))
    | none =>
      if state.mayEnd (some c) then (s.emit (.scalar (numberDocument read.reverse))).begin c
      else s.stop
  | .text read =>
    if c = '"' then s.emit (.text ((Piece.join? read.reverse).map String.ofList))
    else if c = '\\' then s.enter (.escape read)
    else if c.toNat < 32 then s.stop
    else s.enter (.text (.char c :: read))
  | .escape read =>
    if c = 'u' then s.enter (.unit read 4 0)
    else
      match escaped? c with
      | some e => s.enter (.text (.char e :: read))
      | none => s.stop
  | .unit read missing value =>
    match hexValue? c with
    | none => s.stop
    | some d =>
      if missing ≤ 1 then s.enter (.text (Piece.ofUnit (value * 16 + d) :: read))
      else s.enter (.unit read (missing - 1) (value * 16 + d))
  | .stopped => s

def finish (s : Scanner) : List Token :=
  match s.mode with
  | .ready => s.tokens.reverse
  | .number state read =>
    if state.mayEnd none then (Token.scalar (numberDocument read.reverse) :: s.tokens).reverse
    else (Token.bad :: s.tokens).reverse
  | .stopped => s.tokens.reverse
  | _ => (Token.bad :: s.tokens).reverse

end Scanner

def tokens (cs : List Char) : List Token := (cs.foldl Scanner.step Scanner.initial).finish

end Json
end MeshTelemetry
