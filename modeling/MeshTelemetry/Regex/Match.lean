import MeshTelemetry.Regex.Expr

/-!
# MeshTelemetry.Regex.Match

Matching. A text of `n` characters has the positions `0` to `n`; a set of positions is a number
whose bits say which of them belong to it. An expression takes the set of positions at which a
match may begin to the set of positions at which it may then end, and needs no backtracking.

* `Plan` — an expression for one text; its leaves are sets of positions.
* `Plan.reach` — where matches that begin in a set of positions end.
* `Expr.isMatch` — whether an expression matches somewhere in a text.
-/

namespace MeshTelemetry
namespace Regex

/-- The characters on both sides of a position. -/
structure Neighbours where
  before : Option Char
  behind : Option Char

/-- The positions of a text, of which the first has `before` in front of it. -/
def positions (before : Option Char) : List Char → List Neighbours
  | [] => [⟨before, none⟩]
  | c :: cs => ⟨before, some c⟩ :: positions (some c) cs

/-- The number whose bit `i` says whether element `i` passes the test. -/
def bits (test : α → Bool) : List α → Nat
  | [] => 0
  | a :: rest => (if test a then 1 else 0) + 2 * bits test rest

/-- Whether the character is there and is part of a word. -/
def isWord (unicode : Bool) : Option Char → Bool
  | none => false
  | some c => (Expr.perlSet unicode .word).mem c

def WordEdge.holds (edge : WordEdge) (before behind : Bool) : Bool :=
  match edge with
  | .boundary => before != behind
  | .inside => before == behind
  | .start => !before && behind
  | .finish => before && !behind
  | .startHalf => !before
  | .finishHalf => !behind

def Look.holds (l : Look) (p : Neighbours) : Bool :=
  match l with
  | .textStart => p.before.isNone
  | .textEnd => p.behind.isNone
  | .lineStart false => p.before.isNone || p.before = some '\n'
  | .lineEnd false => p.behind.isNone || p.behind = some '\n'
  | .lineStart true =>
    p.before.isNone || p.before = some '\n' ||
      (p.before = some '\r' && p.behind ≠ some '\n')
  | .lineEnd true =>
    p.behind.isNone || p.behind = some '\r' ||
      (p.behind = some '\n' && p.before ≠ some '\r')
  | .word edge unicode => edge.holds (isWord unicode p.before) (isWord unicode p.behind)

/-- An expression for one text: which positions a character of a set follows, and at which a
condition holds. -/
inductive Plan
  | empty
  | step (followed : Nat)
  | stay (holding : Nat)
  | cat (left right : Plan)
  | alt (left right : Plan)
  | repetition (least : Nat) (extra : Nat) (body : Plan)

/-- The plan of an expression for a text. A text has one position more than characters, so that
more extra rounds than characters find nothing new. -/
def Expr.plan (text : List Char) : Expr → Plan
  | .empty => .empty
  | .set s => .step (bits s.mem text)
  | .look l => .stay (bits l.holds (positions none text))
  | .cat left right => .cat (left.plan text) (right.plan text)
  | .alt left right => .alt (left.plan text) (right.plan text)
  | .repetition least greatest body =>
    let extra :=
      match greatest with
      | none => text.length + 1
      | some most => most - least
    .repetition least extra (body.plan text)
  | .capture body => body.plan text

/-- `count` rounds, one behind the other; a round that changes nothing is the last. -/
def rounds (round : Nat → Nat) : Nat → Nat → Nat
  | 0, s => s
  | count + 1, s =>
    let t := round s
    if t = s then s else rounds round count t

/-- Everything found in at most `count` more rounds; only the newly found positions go into the
next round. -/
def spread (round : Nat → Nat) : Nat → Nat → Nat → Nat
  | 0, _, found => found
  | count + 1, fresh, found =>
    let t := round fresh
    let fresh := t ^^^ (t &&& found)
    if fresh = 0 then found else spread round count fresh (found ||| fresh)

/-- Where matches that begin in the set `s` of positions end. -/
def Plan.reach : Plan → Nat → Nat
  | .empty, s => s
  | .step followed, s => (s &&& followed) <<< 1
  | .stay holding, s => s &&& holding
  | .cat left right, s => right.reach (left.reach s)
  | .alt left right, s => left.reach s ||| right.reach s
  | .repetition least extra body, s =>
    let start := rounds (fun t => body.reach t) least s
    spread (fun t => body.reach t) extra start start

def Expr.isMatch (e : Expr) (text : List Char) : Bool :=
  (e.plan text).reach (1 <<< (text.length + 1) - 1) != 0

end Regex
end MeshTelemetry
