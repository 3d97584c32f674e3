import MeshTelemetry.Calendar
import MeshTelemetry.Decimal.Shortest
import MeshTelemetry.Document
import MeshTelemetry.Text.Split

/-!
# MeshTelemetry.Toml.Scalar

Values that stand outside of quotes: booleans, integers, floating point numbers, dates and times.

* `Toml.scalar?` — the value of a run of characters, if it is one. A number that is too large
  for any type is a place where reading stops.
-/

namespace MeshTelemetry
namespace Toml

/-- The value of a digit of a number to the base `base`. -/
def digit? (base : Nat) (c : Char) : Option Nat :=
  let n := c.toNat
  let value? :=
    if 48 ≤ n && n ≤ 57 then some (n - 48)
    else if 65 ≤ n && n ≤ 70 then some (n - 55)
    else if 97 ≤ n && n ≤ 102 then some (n - 87)
    else none
  value?.filter (· < base)

/-- Digits, between two of which an underscore may stand. -/
def digits? (base : Nat) : List Char → Option (List Nat)
  | [] => none
  | [c] => (digit? base c).map ([·])
  | c :: '_' :: rest =>
    match digit? base c, digits? base rest with
    | some d, some ds => some (d :: ds)
    | _, _ => none
  | c :: rest =>
    match digit? base c, digits? base rest with
    | some d, some ds => some (d :: ds)
    | _, _ => none

def natOf (base : Nat) (ds : List Nat) : Nat := ds.foldl (fun n d => n * base + d) 0

/-- Decimal digits without a leading zero. -/
def whole? (cs : List Char) : Option (List Nat) :=
  match digits? 10 cs with
  | some (0 :: _ :: _) => none
  | ds => ds

def signed : List Char → Bool × List Char
  | '-' :: rest => (true, rest)
  | '+' :: rest => (false, rest)
  | cs => (false, cs)

/-- Integers have at most 128 bits. -/
def integer (negative : Bool) (n : Nat) : Document :=
  if negative then (if n ≤ 1 <<< 127 then .int (-Int.ofNat n) else .cut)
  else if n < 1 <<< 128 then .int (Int.ofNat n)
  else .cut

def integer? (cs : List Char) : Option Document :=
  let based (base : Nat) (rest : List Char) : Option Document :=
    (digits? base rest).map fun ds => integer false (natOf base ds)
  match cs with
  | '0' :: 'x' :: rest => based 16 rest
  | '0' :: 'o' :: rest => based 8 rest
  | '0' :: 'b' :: rest => based 2 rest
  | cs =>
    let (negative, cs) := signed cs
    (whole? cs).map fun ds => integer negative (natOf 10 ds)

/-- Doubles in messages: always positional. -/
def floatLayout : Decimal.Layout := ⟨-400, 400, 0⟩

def floatText (negative : Bool) (f : Float) : Document :=
  .float (floatLayout.text (if negative then -f else f))

/-- The exponents beyond which a number with a hundred digits is infinite or zero. -/
def exponentLimit : Int := 1000

/-- `digits * 10 ^ exponent` as a double; one that is too large stops the reading. -/
def finite (negative : Bool) (digits : List Nat) (exponent : Int) : Document :=
  let n := natOf 10 digits
  let size := exponent + Int.ofNat digits.length
  if n = 0 || size < -exponentLimit then floatText negative 0.0
  else if size > exponentLimit && (toString n).length + exponent > exponentLimit then .cut
  else
    let f := Float.ofScientific n (exponent < 0) exponent.natAbs
    if f.isInf then .cut else floatText negative f

/-- The exponent of a number behind its mark. -/
def exponent? (cs : List Char) : Option Int :=
  let (negative, cs) := signed cs
  (digits? 10 cs).map fun ds =>
    let n := Int.ofNat (natOf 10 ds)
    if negative then -n else n

def splitExponent : List Char → List Char × Option (List Char)
  | [] => ([], none)
  | c :: cs =>
    if c = 'e' || c = 'E' then ([], some cs)
    else
      match splitExponent cs with
      | (before, behind) => (c :: before, behind)

def float? (cs : List Char) : Option Document :=
  let (negative, cs) := signed cs
  if cs = ['i', 'n', 'f'] then some (.float (if negative then "-inf" else "inf"))
  else if cs = ['n', 'a', 'n'] then some (.float "NaN")
  else
    let (significand, power) := splitExponent cs
    match power.map exponent?, Text.cut? '.' significand with
    | some none, _ => none
    | none, none => none
    | some (some e), none => (whole? significand).map fun ds => finite negative ds e
    | power, some (front, back) =>
      match whole? front, digits? 10 back with
      | some ds, some fs =>
        some (finite negative (ds ++ fs) ((power.join).getD 0 - Int.ofNat fs.length))
      | _, _ => none

def field? (cs : List Char) : Option Nat :=
  if cs.all fun c => (digit? 10 c).isSome then some (natOf 10 (cs.filterMap (digit? 10))) else none

/-- A date, and what stands behind it. -/
def date? : List Char → Option (String × List Char)
  | a :: b :: c :: d :: '-' :: e :: f :: '-' :: g :: h :: rest =>
    match field? [a, b, c, d], field? [e, f], field? [g, h] with
    | some year, some month, some day =>
      if 1 ≤ month ∧ month ≤ 12 ∧ 1 ≤ day ∧
          (day : Int) ≤ Calendar.daysInMonth year month then
        some (String.ofList [a, b, c, d, '-', e, f, '-', g, h], rest)
      else none
    | _, _, _ => none
  | _ => none

/-- Digits of a second without the zeros at the end; nine are kept. -/
def fraction (ds : List Char) : String :=
  let kept := ((ds.take 9).reverse.dropWhile (· = '0')).reverse
  if kept.isEmpty then "" else "." ++ String.ofList kept

/-- The part of a second behind a point, and what stands behind it. -/
def subsecond? : List Char → Option (String × List Char)
  | '.' :: rest =>
    let ds := rest.takeWhile fun c => (digit? 10 c).isSome
    if ds.isEmpty then none
    else some (fraction ds, rest.dropWhile fun c => (digit? 10 c).isSome)
  | rest => some ("", rest)

/-- A time of day, and what stands behind it. The seconds may be missing. -/
def time? : List Char → Option (String × List Char)
  | a :: b :: ':' :: c :: d :: rest =>
    match field? [a, b], field? [c, d] with
    | some hour, some minute =>
      if hour < 24 ∧ minute < 60 then
        match rest with
        | ':' :: e :: f :: rest =>
          match field? [e, f], subsecond? rest with
          | some second, some (part, rest) =>
            if second ≤ 60 then
              some (String.ofList [a, b, ':', c, d, ':', e, f] ++ part, rest)
            else none
          | _, _ => none
        | ':' :: _ => none
        | rest => some (String.ofList [a, b, ':', c, d] ++ ":00", rest)
      else none
    | _, _ => none
  | _ => none

def offset? : List Char → Option String
  | [] => some ""
  | ['Z'] => some "Z"
  | ['z'] => some "Z"
  | [sign, a, b, ':', c, d] =>
    match field? [a, b], field? [c, d] with
    | some hour, some minute =>
      if (sign = '+' || sign = '-') && hour < 24 && minute < 60 then
        some (String.ofList [sign, a, b, ':', c, d])
      else none
    | _, _ => none
  | _ => none

/-- A date, a time, or both with or without an offset. -/
def moment? (cs : List Char) : Option Document :=
  match date? cs with
  | none =>
    match time? cs with
    | some (time, []) => some (.moment time)
    | _ => none
  | some (date, []) => some (.moment date)
  | some (date, sep :: rest) =>
    if sep = 'T' || sep = 't' || sep = ' ' then
      match time? rest with
      | none => none
      | some (time, rest) => (offset? rest).map fun offset => .moment (date ++ "T" ++ time ++ offset)
    else none

/-- Whether a run is a date, which a time may follow behind a blank. -/
def isDate (cs : List Char) : Bool := ((date? cs).map (·.2)) = some []

def scalar? (cs : List Char) : Option Document :=
  if cs = "true".toList then some (.bool true)
  else if cs = "false".toList then some (.bool false)
  else (integer? cs).or ((float? cs).or (moment? cs))

end Toml
end MeshTelemetry
