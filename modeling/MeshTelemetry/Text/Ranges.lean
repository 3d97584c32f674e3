/-!
# MeshTelemetry.Text.Ranges

Sets of characters as lists of code point ranges, and their compact written form: ranges in
hexadecimal, separated by spaces, such as `41-5a 61-7a aa`.
-/

namespace MeshTelemetry
namespace Text

/-- Code point ranges, both ends included. -/
abbrev Ranges := List (Nat × Nat)

namespace Ranges

def mem (ranges : Ranges) (n : Nat) : Bool :=
  ranges.any fun (low, high) => low ≤ n && n ≤ high

/-- Reads a written table with the range so far; `low` is the first end of the range if its second
end is being read. -/
def read : Option Nat → Nat → List Char → Ranges
  | low, n, [] => [(low.getD n, n)]
  | low, n, c :: cs =>
    if c = ' ' then (low.getD n, n) :: read none 0 cs
    else if c = '-' then read (some n) 0 cs
    else
      let d := c.toNat
      read low (n * 16 + (if d < 58 then d - 48 else d - 87)) cs

def ofRows (rows : List String) : Ranges := rows.flatMap fun row => read none 0 row.toList

end Ranges
end Text
end MeshTelemetry
