import MeshTelemetry.Regex.Unicode

/-!
# MeshTelemetry.Text.Alphanumeric

Letters and numbers: the characters with the Unicode property `Alphabetic`, and those of the
categories of numbers.
-/

namespace MeshTelemetry
namespace Text

def letterRanges : Ranges := Regex.Unicode.propertySet "Alphabetic"

def numberRanges : Ranges := ["Nd", "Nl", "No"].flatMap Regex.Unicode.categorySet

def isAlphanumeric (c : Char) : Bool := letterRanges.mem c.toNat || numberRanges.mem c.toNat

end Text
end MeshTelemetry
