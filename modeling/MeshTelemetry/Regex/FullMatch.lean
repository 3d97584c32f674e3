import MeshTelemetry.Regex.Footprint
import MeshTelemetry.Regex.Match
import MeshTelemetry.Regex.Pattern.Parser

/-!
# MeshTelemetry.Regex.FullMatch

Compiled regular expressions, and patterns that must match a text as a whole. A pattern is
wrapped into a group between the start and the end of the text.

* `Regex.compile` — the regular expression of a text.
* `Regex.compileFullMatch` — the one that matches only whole texts.
* `Regex.isMatch` — whether it matches somewhere in a text.
-/

namespace MeshTelemetry

/-- Why a text is not compiled. -/
inductive RegexError
  | invalid (cause : Regex.PatternError)
  | tooBig
  deriving DecidableEq, Repr

namespace RegexError

def message : RegexError → String
  | .invalid cause => "regex parse error: " ++ cause.text
  | .tooBig =>
    "Compiled regex exceeds size limit of " ++ toString Regex.Expr.footprintLimit ++ " bytes."

end RegexError

/-- A compiled regular expression with the text it was compiled from. -/
structure Regex where
  text : String
  expr : Regex.Expr
  deriving DecidableEq

namespace Regex

def exprOf (text : String) : Except PatternError Expr :=
  match Pattern.parse text with
  | .error e => .error e
  | .ok p => Expr.ofPattern p

def compile (text : String) : Except RegexError Regex :=
  match exprOf text with
  | .error e => .error (.invalid e)
  | .ok expr => if expr.isTooBig then .error .tooBig else .ok ⟨text, expr⟩

/-- The pattern in a group between the start and the end of a text. -/
def anchored (pattern : String) : String := "^(?:" ++ pattern ++ ")$"

/-- A pattern may end inside a comment, which would swallow the end of the group. If it is a
pattern by itself and fails only in the group, a line break behind it ends the comment. -/
@[irreducible]
def compileFullMatch (pattern : String) : Except RegexError Regex :=
  match compile (anchored pattern) with
  | .ok r => .ok r
  | .error e =>
    match compile pattern with
    | .error _ => .error e
    | .ok _ => compile (anchored (pattern ++ "\n"))

def isMatch (r : Regex) (text : String) : Bool := r.expr.isMatch text.toList

end Regex

end MeshTelemetry
