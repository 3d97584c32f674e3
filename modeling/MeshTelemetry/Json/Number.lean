import MeshTelemetry.Decimal.Shortest
import MeshTelemetry.Document

/-!
# MeshTelemetry.Json.Number

The value of a JSON number. A number without point and exponent that fits into sixty-four bits is
an integer, except for the negative zero. Any other number is a double: its significand takes
digits in as long as it stays below `2 ^ 64`, and is then scaled by a power of ten with one
rounding. A double that is too large is out of range.
-/

namespace MeshTelemetry
namespace Json

/-- The parts of a number as it is written. -/
structure Numeral where
  negative : Bool
  whole : List Nat
  fraction : Option (List Nat)
  exponent : Option (Bool × List Nat)

namespace Numeral

def digitsOf (cs : List Char) : List Nat := cs.map fun c => c.toNat - 48

def isDigit (c : Char) : Bool := 48 ≤ c.toNat && c.toNat ≤ 57

def ofLexeme (cs : List Char) : Numeral :=
  let (negative, cs) :=
    match cs with
    | '-' :: rest => (true, rest)
    | _ => (false, cs)
  let whole := cs.takeWhile isDigit
  let cs := cs.dropWhile isDigit
  let (fraction, cs) :=
    match cs with
    | '.' :: rest => (some (digitsOf (rest.takeWhile isDigit)), rest.dropWhile isDigit)
    | _ => (none, cs)
  let exponent :=
    match cs with
    | _ :: '-' :: rest => some (true, digitsOf rest)
    | _ :: '+' :: rest => some (false, digitsOf rest)
    | _ :: rest => some (false, digitsOf rest)
    | [] => none
  { negative, whole := digitsOf whole, fraction, exponent }

/-- Takes digits into a significand as long as it stays below `2 ^ 64`; returns it and the digits
that are left. -/
def absorb : Nat → List Nat → Nat × List Nat
  | n, [] => (n, [])
  | n, d :: ds => if n * 10 + d < UInt64.size then absorb (n * 10 + d) ds else (n, d :: ds)

/-- The greatest exponent that is read; a larger one counts as this. -/
def exponentLimit : Nat := Int32.maxValue.toNatClampNeg

def natOfDigits (ds : List Nat) : Nat := ds.foldl (fun n d => n * 10 + d) 0

/-- Divides by a power of ten that need not be a double, in steps of `10 ^ 308`. -/
def scaleDown : Nat → Float → Nat → Float
  | 0, f, _ => f
  | fuel + 1, f, e =>
    if e ≤ 308 then f / Float.ofScientific 1 false e
    else if f == 0.0 then f
    else scaleDown fuel (f / Float.ofScientific 1 false 308) (e - 308)

/-- `significand * 10 ^ exponent`, or nothing if it is too large. -/
def scaled? (significand : Nat) (exponent : Int) : Option Float :=
  let f := Float.ofNat significand
  if exponent < 0 then some (scaleDown 10 f (-exponent).toNat)
  else if significand = 0 then some f
  else if exponent > 308 then none
  else
    let f := f * Float.ofScientific 1 false exponent.toNat
    if f.isInf then none else some f

/-- The double of a number, or nothing if it is out of range. -/
def float? (n : Numeral) : Option Float :=
  let (significand, left) := absorb 0 n.whole
  let fraction := n.fraction.getD []
  let (significand, ignored) := absorb significand fraction
  let exponent := Int.ofNat left.length - Int.ofNat (fraction.length - ignored.length)
  let magnitude :=
    match n.exponent with
    | none => scaled? significand exponent
    | some (down, ds) =>
      let e := natOfDigits ds
      if e > exponentLimit then
        if significand ≠ 0 && !down then none else some 0.0
      else if down then scaled? significand (exponent - Int.ofNat e)
      else scaled? significand (exponent + Int.ofNat e)
  magnitude.map fun f => if n.negative then -f else f

/-- The integer of a number, if the number is one. -/
def int? (n : Numeral) : Option Int :=
  match n.fraction, n.exponent with
  | none, none =>
    let m := natOfDigits n.whole
    if n.negative then
      if 0 < m ∧ m ≤ 1 <<< 63 then some (-Int.ofNat m) else none
    else if m < UInt64.size then some (Int.ofNat m)
    else none
  | _, _ => none

end Numeral

/-- Doubles in messages: positional between `1e-5` and `1e16`. -/
def floatLayout : Decimal.Layout := ⟨-5, 15, 2⟩

def numberDocument (lexeme : List Char) : Document :=
  let n := Numeral.ofLexeme lexeme
  match n.int? with
  | some z => .int z
  | none =>
    match n.float? with
    | some f => .float (floatLayout.text f)
    | none => .flawed

end Json
end MeshTelemetry
