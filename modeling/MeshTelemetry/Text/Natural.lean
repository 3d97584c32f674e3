/-!
# MeshTelemetry.Text.Natural

Reading decimal numbers that may have a sign.

* `natural?` — digits behind at most a plus sign.
* `unsigned?` — the same, where zero may also have a minus sign.
-/

namespace MeshTelemetry
namespace Text

def digit? (c : Char) : Option Nat :=
  if 48 ≤ c.toNat && c.toNat ≤ 57 then some (c.toNat - 48) else none

/-- The number that digits stand for, behind those read so far. -/
def digits? : Nat → List Char → Option Nat
  | n, [] => some n
  | n, c :: cs =>
    match digit? c with
    | none => none
    | some d => digits? (n * 10 + d) cs

/-- The number that one or more digits stand for. -/
def number? (cs : List Char) : Option Nat := if cs.isEmpty then none else digits? 0 cs

def natural? : List Char → Option Nat
  | '+' :: cs => number? cs
  | cs => number? cs

def unsigned? : List Char → Option Nat
  | '-' :: cs =>
    match number? cs with
    | some 0 => some 0
    | _ => none
  | cs => natural? cs

end Text
end MeshTelemetry
