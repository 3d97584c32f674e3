import MeshTelemetry.Text.Ranges

/-!
# MeshTelemetry.Regex.CharSet

Sets of characters, as sorted lists of code point ranges that neither overlap nor touch. A
complement is taken in the characters, to which the surrogates do not belong.
-/

namespace MeshTelemetry
namespace Regex

abbrev CharSet := Text.Ranges

namespace CharSet

def lastCodePoint : Nat := 0x10ffff

/-- All characters: every code point but the surrogates. -/
def everything : CharSet := [(0, 0xd7ff), (0xe000, lastCodePoint)]

def single (c : Char) : CharSet := [(c.toNat, c.toNat)]

/-- Joins sorted ranges that overlap or touch. -/
def join : Nat × Nat → List (Nat × Nat) → CharSet
  | range, [] => [range]
  | (a, b), (c, d) :: rest =>
    if c ≤ b + 1 then join (a, max b d) rest else (a, b) :: join (c, d) rest

/-- The set of all code points in the ranges, which may come in any order. -/
def ofRanges (ranges : List (Nat × Nat)) : CharSet :=
  match ranges.mergeSort (fun r s => r.1 ≤ s.1) with
  | [] => []
  | range :: rest => join range rest

def union (s t : CharSet) : CharSet := ofRanges (s ++ t)

def inter (s t : CharSet) : CharSet :=
  s.flatMap fun (a, b) => t.filterMap fun (c, d) =>
    if max a c ≤ min b d then some (max a c, min b d) else none

/-- What lies from `n` on between the ranges and behind them. -/
def gapsFrom : Nat → CharSet → CharSet
  | n, [] => if n ≤ lastCodePoint then [(n, lastCodePoint)] else []
  | n, (a, b) :: rest => if n < a then (n, a - 1) :: gapsFrom (b + 1) rest else gapsFrom (b + 1) rest

def complement (s : CharSet) : CharSet := inter (gapsFrom 0 s) everything

def diff (s t : CharSet) : CharSet := inter s (complement t)

def symmDiff (s t : CharSet) : CharSet := union (diff s t) (diff t s)

def mem (s : CharSet) (c : Char) : Bool := Text.Ranges.mem s c.toNat

/-- The characters that every `step`-th one from `first` to `last` shares a case folding with. -/
structure Folding where
  first : Nat
  last : Nat
  step : Nat
  distance : Nat

/-- The parts of the range that `step` selects from the range `(a, b)`, moved up by `up` and then
down by `down`. -/
def Folding.select (f : Folding) (low high up down a b : Nat) : List (Nat × Nat) :=
  if f.step = 1 then
    if max a low ≤ min b high then [(max a low + up - down, min b high + up - down)] else []
  else
    (List.range ((high - low) / f.step + 1)).filterMap fun i =>
      let n := low + i * f.step
      if a ≤ n ∧ n ≤ b then some (n + up - down, n + up - down) else none

/-- The variants of the characters in the range `(a, b)`. -/
def Folding.variants (f : Folding) (a b : Nat) : List (Nat × Nat) :=
  if b < f.first ∨ f.last + f.distance < a then []
  else
    f.select f.first f.last f.distance 0 a b ++
      f.select (f.first + f.distance) (f.last + f.distance) 0 f.distance a b

def fold (foldings : List Folding) (s : CharSet) : CharSet :=
  ofRanges (s ++ foldings.flatMap fun f => s.flatMap fun (a, b) => f.variants a b)

end CharSet

end Regex
end MeshTelemetry
