import MeshTelemetry.Decimal.Places

/-!
# MeshTelemetry.Decimal.Shortest

The shortest decimal that reads back as a given double: of all decimals that round to the double
one with the fewest digits, and of those the nearest. Two layouts are built on it, one that
switches to an exponent for large and small numbers, one that is always positional.
-/

namespace MeshTelemetry
namespace Decimal

/-- A positive decimal `digits * 10 ^ exponent`. -/
structure Scientific where
  digits : Nat
  exponent : Int
  deriving DecidableEq

/-- The interval of real numbers that round to a double, scaled so that its ends are integers
over `2 ^ 2`: the double lies at `4 * mantissa`. -/
structure Interval where
  low : Nat
  middle : Nat
  high : Nat
  closed : Bool
  exponent : Int

/-- Below a power of two the neighbouring double is half as far away as above it. -/
def Interval.around (mantissa : Nat) (exponent : Int) : Interval where
  low := if mantissa = 1 <<< 52 && exponent > -1074 then 4 * mantissa - 1 else 4 * mantissa - 2
  middle := 4 * mantissa
  high := 4 * mantissa + 2
  closed := mantissa % 2 == 0
  exponent := exponent - 2

/-- `a * 2 ^ e` against `d * 10 ^ k`. -/
def compareScaled (a : Nat) (e : Int) (d : Nat) (k : Int) : Ordering :=
  compare (a <<< e.toNat * Nat.pow 10 (-k).toNat) ((d * Nat.pow 10 k.toNat) <<< (-e).toNat)

def Interval.holds (i : Interval) (d : Nat) (k : Int) : Bool :=
  let below := compareScaled i.low i.exponent d k
  let above := compareScaled i.high i.exponent d k
  (below == .lt || (i.closed && below == .eq)) && (above == .gt || (i.closed && above == .eq))

/-- The greatest `d` with `d * 10 ^ k` at most `a * 2 ^ e`. -/
def floorScaled (a : Nat) (e k : Int) : Nat :=
  a <<< e.toNat * Nat.pow 10 (-k).toNat / (Nat.pow 10 k.toNat <<< (-e).toNat)

/-- The hit of the grid `10 ^ k` in the interval that is nearest to the middle, of two equally
near the even one. -/
def Interval.hit? (i : Interval) (k : Int) : Option Nat :=
  let d := floorScaled i.middle i.exponent k
  match i.holds d k, i.holds (d + 1) k with
  | true, false => some d
  | false, true => some (d + 1)
  | false, false => none
  | true, true =>
    match compareScaled (2 * i.middle) i.exponent (2 * d + 1) k with
    | .lt => some d
    | .gt => some (d + 1)
    | .eq => some (if d % 2 = 0 then d else d + 1)

/-- The number of decimal digits of `n`. -/
def digitCount (n : Nat) : Nat := (toString n).length

/-- The grids tried, from the coarsest: `steps` more below `10 ^ k`. -/
def Interval.search (i : Interval) : Nat → Int → Scientific
  | 0, k => ⟨floorScaled i.middle i.exponent k, k⟩
  | steps + 1, k =>
    match i.hit? k with
    | some d => ⟨d, k⟩
    | none => i.search steps (k - 1)

/-- An upper bound of the exponent of the first grid: one more than the decimal exponent. -/
def leadingExponent (mantissa : Nat) (exponent : Int) : Int :=
  let (num, den) := ratio mantissa exponent
  if num ≥ den then Int.ofNat (digitCount (num / den))
  else 1 - Int.ofNat (digitCount (den / num))

def Scientific.trimmed (s : Scientific) : Nat → Scientific
  | 0 => s
  | fuel + 1 =>
    if s.digits % 10 = 0 && s.digits ≠ 0 then
      Scientific.trimmed ⟨s.digits / 10, s.exponent + 1⟩ fuel
    else s

/-- The shortest decimal of the positive double `mantissa * 2 ^ exponent`. -/
def shortest (mantissa : Nat) (exponent : Int) : Scientific :=
  ((Interval.around mantissa exponent).search 20 (leadingExponent mantissa exponent)).trimmed 20

/-- Which decimal exponents are written without an exponent, and how an exponent is written. -/
structure Layout where
  least : Int
  greatest : Int
  exponentWidth : Nat

/-- Positional text of a decimal, with at least one digit on both sides of the point. -/
def Scientific.toPositional (s : Scientific) : String :=
  if s.exponent ≥ 0 then toString (s.digits * Nat.pow 10 s.exponent.toNat) ++ ".0"
  else positional (-s.exponent).toNat s.digits

/-- One digit before the point, the others behind it, and a signed exponent. -/
def Scientific.toExponential (s : Scientific) (width : Nat) : String :=
  let digits := (toString s.digits).toList
  let shown := s.exponent + Int.ofNat (digits.length - 1)
  let fraction := digits.drop 1
  String.ofList (digits.take 1) ++ (if fraction.isEmpty then "" else "." ++ String.ofList fraction)
    ++ "e" ++ (if shown < 0 then "-" else "+") ++ padded width shown.natAbs

def Layout.write (layout : Layout) (s : Scientific) : String :=
  let shown := s.exponent + Int.ofNat (digitCount s.digits - 1)
  if layout.least ≤ shown && shown ≤ layout.greatest then s.toPositional
  else s.toExponential layout.exponentWidth

def Layout.text (layout : Layout) (x : Float) : String :=
  match Binary.ofFloat x with
  | .undefined => "NaN"
  | .infinite negative => if negative then "-inf" else "inf"
  | .finite negative mantissa exponent =>
    let text := if mantissa = 0 then "0.0" else layout.write (shortest mantissa exponent)
    if negative then "-" ++ text else text

end Decimal
end MeshTelemetry
