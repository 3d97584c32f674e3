/-!
# MeshTelemetry.Decimal.Binary

The number that the sixty-four bits of a double stand for, as an integer times a power of two.
-/

namespace MeshTelemetry
namespace Decimal

/-- What the bits of a double stand for. -/
inductive Binary
  | finite (negative : Bool) (mantissa : Nat) (exponent : Int)
  | infinite (negative : Bool)
  | undefined
  deriving DecidableEq

namespace Binary

/-- The sign is the top bit, the next eleven are the exponent, the rest the mantissa; a double
with exponent field zero has no hidden bit. -/
def ofBits (bits : Nat) : Binary :=
  let negative := bits >>> 63 % 2 == 1
  let field := bits >>> 52 % 1 <<< 11
  let fraction := bits % 1 <<< 52
  if field = 2047 then
    if fraction = 0 then .infinite negative else .undefined
  else if field = 0 then .finite negative fraction (-1074)
  else .finite negative (fraction + 1 <<< 52) (Int.ofNat field - 1075)

def ofFloat (x : Float) : Binary := ofBits x.toBits.toNat

end Binary

/-- A number `numerator / denominator` that is not negative: `mantissa * 2 ^ exponent`. -/
def ratio (mantissa : Nat) (exponent : Int) : Nat × Nat :=
  if exponent < 0 then (mantissa, 1 <<< (-exponent).toNat) else (mantissa <<< exponent.toNat, 1)

end Decimal
end MeshTelemetry
