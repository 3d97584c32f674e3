import MeshTelemetry.Regex.Expr

/-!
# MeshTelemetry.Regex.Reduced

Expressions in the form in which they are compiled. Sequences and alternations are flat, empty
parts are dropped, an alternation of characters or of sets is one set, and what all branches of an
alternation begin with stands in front of it.

* `Expr.parts`, `Expr.branches` — a flat sequence or alternation as a list.
* `Expr.unite` — the alternation of branches.
* `Expr.reduce` — the form of an expression.
-/

namespace MeshTelemetry
namespace Regex
namespace Expr

def sequence : List Expr → Expr
  | [] => .empty
  | [part] => part
  | part :: rest => .cat part (sequence rest)

def parts : Expr → List Expr
  | .empty => []
  | .cat part rest => part :: rest.parts
  | e => [e]

def choice : List Expr → Expr
  | [] => .set []
  | [branch] => branch
  | branch :: rest => .alt branch (choice rest)

def branches : Expr → List Expr
  | .alt branch rest => branch :: rest.branches
  | e => [e]

/-- Whether an expression matches no character at all. -/
def isVacant : Expr → Bool
  | .empty => true
  | .set _ => false
  | .look _ => true
  | .cat left right => left.isVacant && right.isVacant
  | .alt left right => left.isVacant && right.isVacant
  | .repetition _ greatest body => body.isVacant || greatest = some 0
  | .capture body => body.isVacant

/-- The least number of characters in a match, if there can be one. -/
def leastLength : Expr → Option Nat
  | .empty => some 0
  | .set s => if s.isEmpty then none else some 1
  | .look _ => some 0
  | .cat left right =>
    match left.leastLength, right.leastLength with
    | some m, some n => some (m + n)
    | _, _ => none
  | .alt left right =>
    match left.leastLength, right.leastLength with
    | some m, some n => some (min m n)
    | _, _ => none
  | .repetition least _ body => body.leastLength.map (least * ·)
  | .capture body => body.leastLength

/-- Whether a match must begin (or, read backward, end) where the condition holds. -/
def begins (reverse : Bool) (l : Look) : Expr → Bool
  | .empty => false
  | .set _ => false
  | .look l' => l = l'
  | .cat left right =>
    if reverse then right.begins reverse l || right.isVacant && left.begins reverse l
    else left.begins reverse l || left.isVacant && right.begins reverse l
  | .alt left right => left.begins reverse l && right.begins reverse l
  | .repetition least _ body => 0 < least && body.begins reverse l
  | .capture body => body.begins reverse l

/-- Whether only one character matches. -/
def isCharacter : Expr → Bool
  | .set [(a, b)] => a = b
  | _ => false

def set? : Expr → Option CharSet
  | .set s => some s
  | _ => none

/-- The set of an alternation whose branches are all characters, or all other sets. -/
def merged? (branches : List Expr) : Option CharSet :=
  if branches.all isCharacter || !branches.any isCharacter then
    (branches.mapM set?).map fun sets => CharSet.ofRanges sets.flatten
  else none

/-- Parts of a sequence, of which neighbouring characters belong together. -/
def runs : List Expr → List (List Expr)
  | [] => []
  | part :: rest =>
    match runs rest with
    | run :: more =>
      if part.isCharacter && run.all isCharacter then (part :: run) :: more
      else [part] :: run :: more
    | [] => [[part]]

/-- What two lists begin with. -/
def common [DecidableEq α] : List α → List α → List α
  | a :: as, b :: bs => if a = b then a :: common as bs else []
  | _, _ => []

/-- The runs that all the sequences begin with. -/
def commonRuns : List (List (List Expr)) → List (List Expr)
  | [] => []
  | [first] => first
  | first :: rest => common first (commonRuns rest)

def select (branches : List Expr) : Expr :=
  match merged? branches with
  | some s => .set s
  | none => choice branches

/-- The alternation of branches that are no alternations. -/
def unite (branches : List Expr) : Expr :=
  match branches with
  | [] => .set []
  | [branch] => branch
  | _ =>
    let sequences := branches.map fun branch => runs branch.parts
    let front := commonRuns sequences
    if front.isEmpty || sequences.any (·.length < 2) then select branches
    else
      let rests := sequences.map fun runs => sequence (runs.drop front.length).flatten
      sequence (front.flatten ++ [select (rests.flatMap Expr.branches)])

/-- A repetition. What matches no character is matched at most once. -/
def repeated (least : Nat) (greatest : Option Nat) (body : Expr) : Expr :=
  let (least, greatest) :=
    if body.isVacant then (min least 1, some (min (greatest.getD 1) 1)) else (least, greatest)
  if greatest = some 0 then .empty
  else if least = 1 ∧ greatest = some 1 then body
  else .repetition least greatest body

/-- The form of an expression, and of the branches if it is what follows a branch. -/
def reduction : Expr → Expr × List Expr
  | .empty => (.empty, [.empty])
  | .set s => (.set s, if s.isEmpty then [] else [.set s])
  | .look l => (.look l, [.look l])
  | .cat left right =>
    let e := sequence (left.reduction.1.parts ++ right.reduction.1.parts)
    (e, e.branches)
  | .alt left right =>
    let branches := left.reduction.1.branches ++ right.reduction.2
    (unite branches, branches)
  | .repetition least greatest body =>
    let e := repeated least greatest body.reduction.1
    (e, e.branches)
  | .capture body => (.capture body.reduction.1, [.capture body.reduction.1])

def reduce (e : Expr) : Expr := e.reduction.1

end Expr

end Regex
end MeshTelemetry
