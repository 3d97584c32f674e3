import MeshTelemetry.Decimal.Binary

/-!
# MeshTelemetry.Decimal.Places

A double written with a fixed number of decimal places. The exact value is rounded to the last
place; a value half-way between two neighbours goes to the even one.
-/

namespace MeshTelemetry
namespace Decimal

/-- The integer nearest to `numerator / denominator`, of two the even one. -/
def roundHalfEven (numerator denominator : Nat) : Nat :=
  let whole := numerator / denominator
  let rest := 2 * (numerator % denominator)
  if rest < denominator then whole
  else if rest > denominator then whole + 1
  else if whole % 2 = 0 then whole
  else whole + 1

/-- The decimal digits of `n`, with zeros in front so that there are at least `width`. -/
def padded (width n : Nat) : String :=
  let digits := toString n
  String.ofList (List.replicate (width - digits.length) '0') ++ digits

/-- `n / 10 ^ places` in positional notation. -/
def positional (places n : Nat) : String :=
  if places = 0 then toString n
  else toString (n / Nat.pow 10 places) ++ "." ++ padded places (n % Nat.pow 10 places)

/-- A double with exactly `places` decimals. The sign of a negative zero is kept. -/
def withPlaces (places : Nat) (x : Float) : String :=
  match Binary.ofFloat x with
  | .undefined => "NaN"
  | .infinite negative => if negative then "-inf" else "inf"
  | .finite negative mantissa exponent =>
    let (num, den) := ratio mantissa exponent
    let text := positional places (roundHalfEven (num * Nat.pow 10 places) den)
    if negative then "-" ++ text else text

end Decimal
end MeshTelemetry
