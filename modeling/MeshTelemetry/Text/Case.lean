/-!
# MeshTelemetry.Text.Case

Small letters for capital ones, for the letters of ASCII only.
-/

namespace MeshTelemetry
namespace Text

def lowerAscii (c : Char) : Char :=
  if 65 ≤ c.toNat && c.toNat ≤ 90 then Char.ofNat (c.toNat + 32) else c

end Text
end MeshTelemetry
