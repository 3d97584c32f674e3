import MeshTelemetry.Regex.Pattern
import MeshTelemetry.Regex.Unicode

/-!
# MeshTelemetry.Regex.Expr

Regular expressions without flags: what a pattern stands for. Flags are read from left to right
and hold up to the end of the group they stand in; a group that brings its own flags has them only
inside.

* `Expr` — the tree; its leaves are sets of characters and conditions on a position.
* `Expr.ofPattern` — the expression of a pattern.
-/

namespace MeshTelemetry
namespace Regex

/-- A condition on a position between two characters. Lines end at a line feed, or, if `crlf`, at a
line feed, a carriage return or both together. -/
inductive Look
  | textStart
  | textEnd
  | lineStart (crlf : Bool)
  | lineEnd (crlf : Bool)
  | word (edge : WordEdge) (unicode : Bool)
  deriving DecidableEq, Repr

/-- A repetition is made at least `least` times and, if there is a limit, at most `greatest`. -/
inductive Expr
  | empty
  | set (s : CharSet)
  | look (l : Look)
  | cat (left right : Expr)
  | alt (left right : Expr)
  | repetition (least : Nat) (greatest : Option Nat) (body : Expr)
  | capture (body : Expr)
  deriving DecidableEq, Repr

/-- The flags that are in force. -/
structure Flags where
  ignoreCase : Bool
  multiLine : Bool
  dotAll : Bool
  unicode : Bool
  crlf : Bool
  deriving DecidableEq, Repr

namespace Flags

def initial : Flags := ⟨false, false, false, true, false⟩

/-- Which repetition is preferred and which blanks are ignored does not matter here. -/
def change (flags : Flags) : FlagName × Bool → Flags
  | (.ignoreCase, on) => { flags with ignoreCase := on }
  | (.multiLine, on) => { flags with multiLine := on }
  | (.dotAll, on) => { flags with dotAll := on }
  | (.unicode, on) => { flags with unicode := on }
  | (.crlf, on) => { flags with crlf := on }
  | (.swapGreed, _) => flags
  | (.ignoreSpace, _) => flags

def changeAll (flags : Flags) (changes : FlagChanges) : Flags := changes.foldl change flags

def foldings (flags : Flags) : List CharSet.Folding :=
  if flags.unicode then Unicode.foldings else Unicode.asciiFoldings

/-- A set with the case variants of its characters, if case is ignored. -/
def fold (flags : Flags) (s : CharSet) : CharSet :=
  if flags.ignoreCase then s.fold flags.foldings else s

/-- A set or its complement. Without Unicode a complement has bytes that are no characters. -/
def negate (flags : Flags) (negated : Bool) (s : CharSet) : Except PatternError CharSet :=
  if negated then
    if flags.unicode then .ok s.complement else .error .notText
  else .ok s

end Flags

namespace Expr

def asciiSet : AsciiClass → CharSet
  | .alnum => [(0x30, 0x39), (0x41, 0x5a), (0x61, 0x7a)]
  | .alpha => [(0x41, 0x5a), (0x61, 0x7a)]
  | .ascii => [(0, 0x7f)]
  | .blank => [(0x09, 0x09), (0x20, 0x20)]
  | .cntrl => [(0, 0x1f), (0x7f, 0x7f)]
  | .digit => [(0x30, 0x39)]
  | .graph => [(0x21, 0x7e)]
  | .lower => [(0x61, 0x7a)]
  | .print => [(0x20, 0x7e)]
  | .punct => [(0x21, 0x2f), (0x3a, 0x40), (0x5b, 0x60), (0x7b, 0x7e)]
  | .space => [(0x09, 0x0d), (0x20, 0x20)]
  | .upper => [(0x41, 0x5a)]
  | .word => [(0x30, 0x39), (0x41, 0x5a), (0x5f, 0x5f), (0x61, 0x7a)]
  | .xdigit => [(0x30, 0x39), (0x41, 0x46), (0x61, 0x66)]

def perlSet (unicode : Bool) : PerlClass → CharSet
  | .digit => if unicode then Unicode.digitSet else asciiSet .digit
  | .space => if unicode then Unicode.blankSet else asciiSet .space
  | .word => if unicode then Unicode.wordSet else asciiSet .word

def propertySet? : PropertyQuery → Option CharSet
  | .named name => Unicode.named? name
  | .valued name value => Unicode.valued? name value

def propertySet (flags : Flags) (query : PropertyQuery) (negated : Bool) :
    Except PatternError CharSet :=
  if flags.unicode then
    match propertySet? query with
    | none => .error .propertyUnknown
    | some s => flags.negate negated (flags.fold s)
  else .error .unicodeOff

/-- A character as it is written. Without Unicode, two hexadecimal digits stand for a byte, and
only ASCII is a character by itself. -/
def literalChar (flags : Flags) (l : Literal) : Except PatternError Char :=
  if !flags.unicode && l.byte && l.char.toNat > 0x7f then .error .notText else .ok l.char

/-- A character of a set. -/
def memberChar (flags : Flags) (l : Literal) : Except PatternError Char :=
  match literalChar flags l with
  | .error e => .error e
  | .ok c => if !flags.unicode && c.toNat > 0x7f then .error .unicodeOff else .ok c

def combine : SetOperation → CharSet → CharSet → CharSet
  | .inter => CharSet.inter
  | .diff => CharSet.diff
  | .symmDiff => CharSet.symmDiff

mutual

def setOf (flags : Flags) : SetPattern → Except PatternError CharSet
  | .empty => .ok []
  | .literal l =>
    match memberChar flags l with
    | .error e => .error e
    | .ok c => .ok (CharSet.single c)
  | .range first last =>
    match memberChar flags first with
    | .error e => .error e
    | .ok a =>
      match memberChar flags last with
      | .error e => .error e
      | .ok b => .ok (CharSet.inter [(a.toNat, b.toNat)] CharSet.everything)
  | .ascii name negated => flags.negate negated (flags.fold (asciiSet name))
  | .perl name negated => flags.negate negated (perlSet flags.unicode name)
  | .property query negated => propertySet flags query negated
  | .bracket negated inner =>
    match setOf flags inner with
    | .error e => .error e
    | .ok s => flags.negate negated (flags.fold s)
  | .union items => setOfAll flags items
  | .operation name left right =>
    match setOf flags left with
    | .error e => .error e
    | .ok s =>
      match setOf flags right with
      | .error e => .error e
      | .ok t => .ok (combine name (flags.fold s) (flags.fold t))

def setOfAll (flags : Flags) : List SetPattern → Except PatternError CharSet
  | [] => .ok []
  | item :: rest =>
    match setOf flags item with
    | .error e => .error e
    | .ok s =>
      match setOfAll flags rest with
      | .error e => .error e
      | .ok t => .ok (CharSet.union s t)

end

/-- Every character but those that end a line. -/
def dotSet (flags : Flags) : CharSet :=
  if flags.dotAll then CharSet.everything
  else if flags.crlf then CharSet.complement [(0x0a, 0x0a), (0x0d, 0x0d)]
  else CharSet.complement [(0x0a, 0x0a)]

def lookOf (flags : Flags) : Assertion → Look
  | .textStart => .textStart
  | .textEnd => .textEnd
  | .lineStart => if flags.multiLine then .lineStart flags.crlf else .textStart
  | .lineEnd => if flags.multiLine then .lineEnd flags.crlf else .textEnd
  | .word edge => .word edge flags.unicode

mutual

/-- The expression of a pattern under the flags in force, and the flags in force behind it. -/
def translate (flags : Flags) : Pattern → Except PatternError (Expr × Flags)
  | .empty => .ok (.empty, flags)
  | .flags changes => .ok (.empty, flags.changeAll changes)
  | .literal l =>
    match literalChar flags l with
    | .error e => .error e
    | .ok c => .ok (.set (flags.fold (CharSet.single c)), flags)
  | .dot => if flags.unicode then .ok (.set (dotSet flags), flags) else .error .notText
  | .assertion a => .ok (.look (lookOf flags a), flags)
  | .perl name negated =>
    match flags.negate negated (perlSet flags.unicode name) with
    | .error e => .error e
    | .ok s => .ok (.set s, flags)
  | .property query negated =>
    match propertySet flags query negated with
    | .error e => .error e
    | .ok s => .ok (.set s, flags)
  | .bracket negated inner =>
    match setOf flags inner with
    | .error e => .error e
    | .ok s =>
      match flags.negate negated (flags.fold s) with
      | .error e => .error e
      | .ok s => .ok (.set s, flags)
  | .repetition least greatest body =>
    match translate flags body with
    | .error e => .error e
    | .ok (e, after) => .ok (.repetition least greatest e, after)
  | .group .capture body =>
    match translate flags body with
    | .error e => .error e
    | .ok (e, _) => .ok (.capture e, flags)
  | .group (.plain changes) body =>
    match translate (flags.changeAll changes) body with
    | .error e => .error e
    | .ok (e, _) => .ok (e, flags)
  | .alternation branches => translateBranches flags branches
  | .concat parts => translateParts flags parts

/-- Parts one behind the other. -/
def translateParts (flags : Flags) : List Pattern → Except PatternError (Expr × Flags)
  | [] => .ok (.empty, flags)
  | part :: rest =>
    match translate flags part with
    | .error e => .error e
    | .ok (left, flags) =>
      match translateParts flags rest with
      | .error e => .error e
      | .ok (right, flags) => .ok (.cat left right, flags)

/-- Branches of which one must match. -/
def translateBranches (flags : Flags) : List Pattern → Except PatternError (Expr × Flags)
  | [] => .ok (.set [], flags)
  | branch :: rest =>
    match translate flags branch with
    | .error e => .error e
    | .ok (left, flags) =>
      match translateBranches flags rest with
      | .error e => .error e
      | .ok (right, flags) => .ok (.alt left right, flags)

end

def ofPattern (p : Pattern) : Except PatternError Expr := (translate Flags.initial p).map (·.1)

end Expr

end Regex
end MeshTelemetry
