/-!
# MeshTelemetry.Regex.Pattern

Patterns as they are written. A pattern still holds its flags; what it stands for depends on
them.

* `Pattern` — the tree of a pattern; `Pattern.depth` — how deep it is nested.
* `PatternError` — why a text is no pattern, and `PatternError.text`.
-/

namespace MeshTelemetry
namespace Regex

/-- Why a text is no pattern. -/
inductive PatternError
  | groupUnclosed
  | groupUnopened
  | groupNameInvalid
  | groupNameEmpty
  | groupNameRepeated
  | groupNameUnclosed
  | lookAround
  | repetitionMissing
  | repetitionRange
  | repetitionUnclosed
  | repetitionEmpty
  | repetitionTooLarge
  | flagUnknown
  | flagRepeated
  | flagDangling
  | flagUnclosed
  | escapeUnclosed
  | escapeUnknown
  | hexDigit
  | hexValue
  | hexEmpty
  | backReference
  | setUnclosed
  | rangeReversed
  | rangeEnd
  | escapeInSet
  | propertyLetter
  | boundaryUnclosed
  | boundaryUnknown
  | nestedTooDeep
  | notText
  | unicodeOff
  | propertyUnknown
  deriving DecidableEq, Repr

namespace PatternError

def text : PatternError → String
  | .groupUnclosed => "unclosed group"
  | .groupUnopened => "unopened group"
  | .groupNameInvalid => "invalid capture group character"
  | .groupNameEmpty => "empty capture group name"
  | .groupNameRepeated => "duplicate capture group name"
  | .groupNameUnclosed => "unclosed capture group name"
  | .lookAround => "look-around, including look-ahead and look-behind, is not supported"
  | .repetitionMissing => "repetition operator missing expression"
  | .repetitionRange => "invalid repetition count range, the start must be <= the end"
  | .repetitionUnclosed => "unclosed counted repetition"
  | .repetitionEmpty => "repetition quantifier expects a valid decimal"
  | .repetitionTooLarge => "decimal literal invalid"
  | .flagUnknown => "unrecognized flag"
  | .flagRepeated => "duplicate flag"
  | .flagDangling => "dangling flag negation operator"
  | .flagUnclosed => "expected flag but got end of regex"
  | .escapeUnclosed => "incomplete escape sequence, reached end of pattern prematurely"
  | .escapeUnknown => "unrecognized escape sequence"
  | .hexDigit => "invalid hexadecimal digit"
  | .hexValue => "hexadecimal literal is not a Unicode scalar value"
  | .hexEmpty => "hexadecimal literal empty"
  | .backReference => "backreferences are not supported"
  | .setUnclosed => "unclosed character class"
  | .rangeReversed => "invalid character class range, the start must be <= the end"
  | .rangeEnd => "invalid range boundary, must be a literal"
  | .escapeInSet => "invalid escape sequence found in character class"
  | .propertyLetter => "invalid Unicode character class"
  | .boundaryUnclosed => "special word boundary assertion is unclosed"
  | .boundaryUnknown => "unrecognized special word boundary assertion"
  | .nestedTooDeep => "exceeds the nest limit"
  | .notText => "pattern can match invalid UTF-8"
  | .unicodeOff => "Unicode not allowed here"
  | .propertyUnknown => "Unicode property not found"

end PatternError

inductive FlagName
  | ignoreCase
  | multiLine
  | dotAll
  | swapGreed
  | unicode
  | crlf
  | ignoreSpace
  deriving DecidableEq, Repr

/-- Flags as written, each switched on or off. -/
abbrev FlagChanges := List (FlagName × Bool)

/-- A character as it is written; `byte` says whether it is written as two hexadecimal digits,
which stand for a byte where Unicode is off. -/
structure Literal where
  char : Char
  byte : Bool
  deriving DecidableEq, Repr

/-- Which side of a word a position is on. -/
inductive WordEdge
  | boundary
  | inside
  | start
  | finish
  | startHalf
  | finishHalf
  deriving DecidableEq, Repr

inductive Assertion
  | lineStart
  | lineEnd
  | textStart
  | textEnd
  | word (edge : WordEdge)
  deriving DecidableEq, Repr

inductive PerlClass
  | digit
  | space
  | word
  deriving DecidableEq, Repr

inductive AsciiClass
  | alnum
  | alpha
  | ascii
  | blank
  | cntrl
  | digit
  | graph
  | lower
  | print
  | punct
  | space
  | upper
  | word
  | xdigit
  deriving DecidableEq, Repr

/-- A property of characters, by its name or by its name and a value. -/
inductive PropertyQuery
  | named (name : String)
  | valued (name value : String)
  deriving DecidableEq, Repr

inductive SetOperation
  | inter
  | diff
  | symmDiff
  deriving DecidableEq, Repr

/-- What stands between brackets. -/
inductive SetPattern
  | empty
  | literal (c : Literal)
  | range (first last : Literal)
  | ascii (name : AsciiClass) (negated : Bool)
  | perl (name : PerlClass) (negated : Bool)
  | property (query : PropertyQuery) (negated : Bool)
  | bracket (negated : Bool) (set : SetPattern)
  | union (items : List SetPattern)
  | operation (name : SetOperation) (left right : SetPattern)

/-- A group captures what it matches, or it only changes flags. -/
inductive GroupKind
  | capture
  | plain (changes : FlagChanges)
  deriving DecidableEq, Repr

inductive Pattern
  | empty
  | flags (changes : FlagChanges)
  | literal (c : Literal)
  | dot
  | assertion (a : Assertion)
  | perl (name : PerlClass) (negated : Bool)
  | property (query : PropertyQuery) (negated : Bool)
  | bracket (negated : Bool) (set : SetPattern)
  | repetition (least : Nat) (greatest : Option Nat) (body : Pattern)
  | group (kind : GroupKind) (body : Pattern)
  | alternation (branches : List Pattern)
  | concat (parts : List Pattern)

namespace SetPattern

def ofItems : List SetPattern → SetPattern
  | [] => .empty
  | [item] => item
  | items => .union items

mutual

def depth : SetPattern → Nat
  | .bracket _ set => 1 + set.depth
  | .union items => 1 + depths items
  | .operation _ left right => 1 + max left.depth right.depth
  | _ => 0

def depths : List SetPattern → Nat
  | [] => 0
  | item :: rest => max item.depth (depths rest)

end

end SetPattern

namespace Pattern

def ofParts : List Pattern → Pattern
  | [] => .empty
  | [part] => part
  | parts => .concat parts

mutual

/-- How many brackets, repetitions, groups and lists are open at once. -/
def depth : Pattern → Nat
  | .bracket _ set => 1 + set.depth
  | .repetition _ _ body => 1 + body.depth
  | .group _ body => 1 + body.depth
  | .alternation branches => 1 + depths branches
  | .concat parts => 1 + depths parts
  | _ => 0

def depths : List Pattern → Nat
  | [] => 0
  | p :: rest => max p.depth (depths rest)

end

end Pattern

end Regex
end MeshTelemetry
