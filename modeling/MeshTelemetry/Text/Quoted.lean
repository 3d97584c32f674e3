import MeshTelemetry.Text.Unprintable

/-!
# MeshTelemetry.Text.Quoted

Texts in double quotes, as messages and logs show them. The quote and the backslash are escaped by
a backslash, four controls have a name, and a character that cannot be shown is written by its
number.
-/

namespace MeshTelemetry
namespace Text

def hexDigit (n : Nat) : Char := Char.ofNat (if n < 10 then 48 + n else 87 + n)

/-- The hexadecimal digits of `n`, without leading zeros. -/
def hexDigits (n : Nat) : List Char := Nat.toDigits 16 n

def quotedChar (c : Char) : List Char :=
  if c = '"' then ['\\', '"']
  else if c = '\\' then ['\\', '\\']
  else if c = '\t' then ['\\', 't']
  else if c = '\n' then ['\\', 'n']
  else if c = '\r' then ['\\', 'r']
  else if c.toNat = 0 then ['\\', '0']
  else if (32 ≤ c.toNat && c.toNat < 127) || (c.toNat ≥ 127 && !unprintable.mem c.toNat) then [c]
  else ['\\', 'u', '\x7b'] ++ hexDigits c.toNat ++ ['\x7d']

def quoted (s : String) : String :=
  String.ofList ('"' :: s.toList.flatMap quotedChar ++ ['"'])

end Text
end MeshTelemetry
