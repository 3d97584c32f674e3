import MeshTelemetry.Regex.Pattern.Bracket

/-!
# MeshTelemetry.Regex.Pattern.Parser

Texts to patterns. The parser reads from left to right and keeps the groups and alternations that
are open on a stack, so that it needs no recursion into groups.

* `Pattern.parse` — the pattern of a text.
-/

namespace MeshTelemetry
namespace Regex
namespace Pattern

/-- What is open: a group with the parts before it and whether blanks were ignored there, or the
branches of an alternation. Lists have the last element first. -/
inductive Frame
  | group (before : List Pattern) (kind : GroupKind) (spaced : Bool)
  | branches (done : List Pattern)

/-- The parser between two parts. -/
structure State where
  spaced : Bool
  names : List (List Char)
  frames : List Frame
  parts : List Pattern

def State.initial : State := ⟨false, [], [], []⟩

def State.add (s : State) (p : Pattern) : State := { s with parts := p :: s.parts }

/-- The pattern of the branches before and of the parts behind the last bar. -/
def endBranches (branches parts : List Pattern) : Pattern :=
  .alternation (ofParts parts.reverse :: branches).reverse

def spacedAfter (changes : FlagChanges) (spaced : Bool) : Bool :=
  (changes.lookup .ignoreSpace).getD spaced

def State.bar (s : State) : State :=
  match s.frames with
  | .branches done :: frames =>
    { s with frames := .branches (ofParts s.parts.reverse :: done) :: frames, parts := [] }
  | frames => { s with frames := .branches [ofParts s.parts.reverse] :: frames, parts := [] }

def State.open (s : State) (cs : List Char) : Except PatternError (State × List Char) :=
  match opening s.spaced cs with
  | .error e => .error e
  | .ok (.flags changes, rest) =>
    .ok ({ s.add (.flags changes) with spaced := spacedAfter changes s.spaced }, rest)
  | .ok (.group kind name, rest) =>
    let spaced :=
      match kind with
      | .capture => s.spaced
      | .plain changes => spacedAfter changes s.spaced
    let frames := .group s.parts kind s.spaced :: s.frames
    match name with
    | none => .ok ({ s with spaced, frames, parts := [] }, rest)
    | some name =>
      if s.names.contains name then .error .groupNameRepeated
      else .ok (⟨spaced, name :: s.names, frames, []⟩, rest)

def State.close (s : State) : Except PatternError State :=
  match s.frames with
  | .group before kind spaced :: frames =>
    .ok { s with
      spaced, frames, parts := .group kind (ofParts s.parts.reverse) :: before }
  | .branches done :: .group before kind spaced :: frames =>
    .ok { s with
      spaced, frames, parts := .group kind (endBranches done s.parts) :: before }
  | _ => .error .groupUnopened

def State.finish (s : State) : Except PatternError Pattern :=
  match s.frames with
  | [] => .ok (ofParts s.parts.reverse)
  | [.branches done] => .ok (endBranches done s.parts)
  | _ => .error .groupUnclosed

/-- The last part can be repeated, unless it is empty. -/
def State.repeat (s : State) (least : Nat) (greatest : Option Nat) : Except PatternError State :=
  match s.parts with
  | [] => .error .repetitionMissing
  | .empty :: _ => .error .repetitionMissing
  | .flags _ :: _ => .error .repetitionMissing
  | p :: before => .ok { s with parts := .repetition least greatest p :: before }

/-- A repetition may be marked as reluctant. -/
def reluctant : List Char → List Char
  | '?' :: rest => rest
  | cs => cs

/-- Reads one part of the pattern. -/
def State.step (s : State) : Char → List Char → Except PatternError (State × List Char)
  | '(', cs => s.open cs
  | ')', cs => s.close.map (·, cs)
  | '|', cs => .ok (s.bar, cs)
  | '[', cs => (bracketed s.spaced cs).map fun (p, rest) => (s.add p, rest)
  | '?', cs => (s.repeat 0 (some 1)).map (·, reluctant cs)
  | '*', cs => (s.repeat 0 none).map (·, reluctant cs)
  | '+', cs => (s.repeat 1 none).map (·, reluctant cs)
  | '\x7b', cs =>
    match s.repeat 0 none with
    | .error e => .error e
    | .ok _ =>
      match bounds s.spaced cs with
      | .error e => .error e
      | .ok ((least, greatest), rest) =>
        (s.repeat least greatest).map (·, reluctant (skip s.spaced rest))
  | '\\', cs => (escape s.spaced cs).map fun (p, rest) => (s.add p, rest)
  | '.', cs => .ok (s.add .dot, cs)
  | '^', cs => .ok (s.add (.assertion .lineStart), cs)
  | '$', cs => .ok (s.add (.assertion .lineEnd), cs)
  | c, cs => .ok (s.add (.literal ⟨c, false⟩), cs)

def run : Nat → State → List Char → Except PatternError Pattern
  | 0, s, _ => s.finish
  | fuel + 1, s, cs =>
    match skip s.spaced cs with
    | [] => s.finish
    | c :: cs =>
      match s.step c cs with
      | .error e => .error e
      | .ok (s, rest) => run fuel s rest

/-- How deep a pattern may be nested. -/
def depthLimit : Nat := 250

def parse (text : String) : Except PatternError Pattern :=
  let cs := text.toList
  match run (cs.length + 1) State.initial cs with
  | .error e => .error e
  | .ok p => if p.depth ≤ depthLimit then .ok p else .error .nestedTooDeep

end Pattern
end Regex
end MeshTelemetry
