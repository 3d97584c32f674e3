import MeshTelemetry.Json.Token

/-!
# MeshTelemetry.Proofs.Json.Grammar

JSON texts by their grammar. A tree is what stands in a text, spelling and white space included; a
text is JSON exactly if it is written by a tree with white space around it.

* `Json.Number`, `Json.Glyph`: numbers, and the characters of texts, as they are spelled.
* `Json.Tree`: values; `Json.Item.text`: the text of a value.
* `Json.Number.integer?`, `Json.meaning`: what numbers and texts stand for.
-/

namespace MeshTelemetry
namespace Json

inductive Blank
  | space
  | tab
  | lineFeed
  | carriageReturn

def Blank.char : Blank → Char
  | .space => ' '
  | .tab => '\t'
  | .lineFeed => '\n'
  | .carriageReturn => '\r'

/-- White space, as it may stand in front of any token and behind it. -/
abbrev Blanks := List Blank

def Blanks.chars (blanks : Blanks) : List Char := blanks.map Blank.char

section Numbers

/-- At least one decimal digit. -/
structure Digits where
  first : Fin 10
  rest : List (Fin 10)

def Digits.chars (ds : Digits) : List Char := (ds.first :: ds.rest).map fun d => Nat.digitChar d.val

/-- The exponent of a number: its mark `e` or `E`, a plus or a minus if there is one, and digits. -/
structure Exponent where
  upper : Bool
  minus : Option Bool
  digits : Digits

def Exponent.chars (e : Exponent) : List Char :=
  (if e.upper then 'E' else 'e') ::
    ((e.minus.map fun minus => if minus then '-' else '+').toList ++ e.digits.chars)

/-- The whole part of a number has no leading zeros. -/
structure Number where
  negative : Bool
  whole : Nat
  fraction : Option Digits
  exponent : Option Exponent

namespace Number

/-- The sign and the whole part. -/
def head (n : Number) : List Char :=
  (if n.negative then ['-'] else []) ++ Nat.toDigits 10 n.whole

/-- What stands behind the whole part. -/
def tail (n : Number) : List Char :=
  (n.fraction.elim [] fun ds => '.' :: ds.chars) ++ n.exponent.elim [] Exponent.chars

def chars (n : Number) : List Char := n.head ++ n.tail

/-- The integer that a number without point and exponent stands for; a negative zero is none. -/
def integer? (n : Number) : Option Int :=
  match n.fraction, n.exponent with
  | none, none =>
    if n.negative then (if n.whole = 0 then none else some (-n.whole)) else some n.whole
  | _, _ => none

end Number

end Numbers

section Texts

structure HexDigit where
  value : Fin 16
  upper : Bool

def HexDigit.char (d : HexDigit) : Char :=
  Char.ofNat (if d.value.val < 10 then 48 + d.value.val
    else if d.upper then 55 + d.value.val else 87 + d.value.val)

/-- The characters that may stand behind a backslash, each with what it stands for there. -/
def shortEscapes : List (Char × Char) :=
  [ ('"', '"'), ('\\', '\\'), ('/', '/'), ('b', '\x08'), ('f', '\x0c'), ('n', '\n'), ('r', '\r'),
    ('t', '\t') ]

/-- A character of a text as it is spelled between the quotes: as it is, as a backslash with a
letter, or by four hexadecimal digits. -/
inductive Glyph
  | plain (c : Char) (h : 0x20 ≤ c.toNat ∧ c ≠ '"' ∧ c ≠ '\\')
  | short (mark c : Char) (h : (mark, c) ∈ shortEscapes)
  | unit (d₁ d₂ d₃ d₄ : HexDigit)

namespace Glyph

def chars : Glyph → List Char
  | .plain c _ => [c]
  | .short mark _ _ => ['\\', mark]
  | .unit d₁ d₂ d₃ d₄ => ['\\', 'u', d₁.char, d₂.char, d₃.char, d₄.char]

/-- Four digits stand for a unit of UTF-16, which may be half of a surrogate pair. -/
def piece : Glyph → Piece
  | .plain c _ => .char c
  | .short _ c _ => .char c
  | .unit d₁ d₂ d₃ d₄ =>
    .ofUnit (((d₁.value.val * 16 + d₂.value.val) * 16 + d₃.value.val) * 16 + d₄.value.val)

end Glyph

def quotedChars (glyphs : List Glyph) : List Char := '"' :: (glyphs.flatMap Glyph.chars ++ ['"'])

/-- The text that glyphs stand for; there is none if half of a surrogate pair stands alone. -/
def meaning (glyphs : List Glyph) : Option String :=
  (Piece.join? (glyphs.map Glyph.piece)).map String.ofList

end Texts

/-- Something with the white space around it. -/
structure Item (α : Type) where
  before : Blanks
  value : α
  after : Blanks

/-- A value as it is written. Behind the opening bracket of a list or an object there may be white
space, which is all that an empty one has in it. -/
inductive Tree
  | null
  | bool (value : Bool)
  | number (value : Number)
  | text (glyphs : List Glyph)
  | list (inner : Blanks) (items : List (Item Tree))
  | object (inner : Blanks) (members : List (Item (List Glyph) × Item Tree))

namespace Tree

mutual

def chars : Tree → List Char
  | .null => "null".toList
  | .bool b => (if b then "true" else "false").toList
  | .number n => n.chars
  | .text glyphs => quotedChars glyphs
  | .list inner items => '[' :: (inner.chars ++ itemChars true items ++ [']'])
  | .object inner members => '\x7b' :: (inner.chars ++ memberChars true members ++ ['\x7d'])

def itemChars : Bool → List (Item Tree) → List Char
  | _, [] => []
  | isFirst, ⟨before, v, after⟩ :: rest =>
    (if isFirst then [] else [',']) ++ before.chars ++ v.chars ++ after.chars ++
      itemChars false rest

def memberChars : Bool → List (Item (List Glyph) × Item Tree) → List Char
  | _, [] => []
  | isFirst, (⟨before, name, behind⟩, ⟨before', v, after⟩) :: rest =>
    (if isFirst then [] else [',']) ++ before.chars ++ quotedChars name ++ behind.chars ++ [':'] ++
      before'.chars ++ v.chars ++ after.chars ++ memberChars false rest

end

mutual

/-- What a reader finds in a value. -/
def document : Tree → Document
  | .null => .null
  | .bool b => .bool b
  | .number n => numberDocument n.chars
  | .text glyphs => (meaning glyphs).elim .flawed .text
  | .list _ items => .seq (documents items) true
  | .object _ members => .map (memberDocuments members) true

def documents : List (Item Tree) → List Document
  | [] => []
  | ⟨_, v, _⟩ :: rest => v.document :: documents rest

def memberDocuments : List (Item (List Glyph) × Item Tree) → List (Option String × Document)
  | [] => []
  | (⟨_, name, _⟩, ⟨_, v, _⟩) :: rest => (meaning name, v.document) :: memberDocuments rest

end

end Tree

/-- The text of a value with white space around it. -/
def Item.text (item : Item Tree) : String :=
  String.ofList (item.before.chars ++ item.value.chars ++ item.after.chars)

end Json
end MeshTelemetry
