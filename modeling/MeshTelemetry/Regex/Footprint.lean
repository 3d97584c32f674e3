import MeshTelemetry.Regex.Reduced

/-!
# MeshTelemetry.Regex.Footprint

How much memory an expression takes once it is compiled. It is compiled into two automata over
bytes, one for each direction of reading. Each state takes thirty-two bytes, each transition of a
state with several of them eight, and each way out of a fork four. Counted repetitions are written
out, so that nested counts multiply.

* `Expr.footprint` — the memory of the automaton for one direction.
* `Expr.isTooBig` — whether one of them exceeds the limit.
-/

namespace MeshTelemetry
namespace Regex

/-- A range of bytes for each byte of an encoding. -/
abbrev ByteRanges := List (Nat × Nat)

/-- The UTF-8 bytes of a code point. -/
def utf8 (n : Nat) : List Nat :=
  if n < 0x80 then [n]
  else if n < 0x800 then [0xc0 + n / 64, 0x80 + n % 64]
  else if n < 0x10000 then [0xe0 + n / 4096, 0x80 + n / 64 % 64, 0x80 + n % 64]
  else [0xf0 + n / 262144, 0x80 + n / 4096 % 64, 0x80 + n / 64 % 64, 0x80 + n % 64]

/-- Where a range of code points of different encodings must be cut in two: behind the last code
point of a length of encoding, or where more than the last `i` bytes change. -/
def cutPoint? (a b : Nat) : Option Nat :=
  match [0x7f, 0x7ff, 0xffff].find? fun last => a ≤ last ∧ last < b with
  | some last => some last
  | none =>
    if b < 0x80 then none
    else
      [64, 4096, 262144].findSome? fun m =>
        if a / m = b / m then none
        else if a % m ≠ 0 then some (a / m * m + m - 1)
        else if b % m ≠ m - 1 then some (b / m * m - 1)
        else none

/-- The byte ranges of the encodings of a range of code points. -/
def encodings : Nat → Nat → Nat → List ByteRanges
  | 0, a, b => [(utf8 a).zip (utf8 b)]
  | fuel + 1, a, b =>
    match cutPoint? a b with
    | some c => encodings fuel a c ++ encodings fuel (c + 1) b
    | none => [(utf8 a).zip (utf8 b)]

def CharSet.encodings (s : CharSet) : List ByteRanges :=
  s.flatMap fun (a, b) => Regex.encodings 40 a b

/-- Encodings that begin with the same range, put together. -/
def byFirst : List ByteRanges → List ((Nat × Nat) × List ByteRanges)
  | [] => []
  | [] :: rest => byFirst rest
  | (r :: tail) :: rest =>
    match byFirst rest with
    | (r', tails) :: groups =>
      if r = r' then (r, tail :: tails) :: groups else (r, [tail]) :: (r', tails) :: groups
    | [] => [(r, [tail])]

/-- A state: its transitions, each with the number of the state it leads to. -/
abbrev ByteState := List ((Nat × Nat) × Nat)

/-- The number of a state among the known ones, to which it is added if it is new. -/
def intern (known : List ByteState) (state : ByteState) : Nat × List ByteState :=
  match known.reverse.idxOf? state with
  | some i => (i + 1, known)
  | none => (known.length + 1, state :: known)

/-- The states that read the encodings, each only once; number zero is the end. -/
def byteStates : Nat → List ByteRanges → List ByteState → Nat × List ByteState
  | 0, _, known => (0, known)
  | depth + 1, seqs, known =>
    let groups := byFirst seqs
    if groups.isEmpty then (0, known)
    else
      let (state, known) := groups.foldl
        (fun (state, known) (range, tails) =>
          let (target, known) := byteStates depth tails known
          ((range, target) :: state, known))
        (([] : ByteState), known)
      intern known state.reverse

/-- How many ranges of an encoding are not shared with the one before it. -/
def newRanges : ByteRanges → ByteRanges → Nat
  | a :: as, b :: bs => if a = b then newRanges as bs else (b :: bs).length
  | _, bs => bs.length

/-- The number of states that share the beginnings of encodings. -/
def sharedBeginnings : ByteRanges → List ByteRanges → Nat
  | _, [] => 0
  | before, seq :: rest => newRanges before seq + sharedBeginnings seq rest

def stateSize : Nat := 32

def transitionSize : Nat := 8

def forkSize : Nat := 4

/-- The memory of the states that read one character of a set. -/
def CharSet.footprint (reverse : Bool) (s : CharSet) : Nat :=
  match s with
  | [] => stateSize
  | [(a, b)] =>
    if a = b then (utf8 a).length * stateSize
    else rest reverse s
  | _ => rest reverse s
where
  rest (reverse : Bool) (s : CharSet) : Nat :=
    if s.all fun (_, b) => b < 0x80 then 2 * stateSize + transitionSize * s.length
    else if reverse then
      let seqs := CharSet.encodings s
      (2 + sharedBeginnings [] seqs) * stateSize + forkSize * seqs.length
    else
      let (_, states) := byteStates 5 (CharSet.encodings s) []
      (1 + states.length) * stateSize + transitionSize * states.flatten.length

namespace Expr

/-- `n`, but at least one state. -/
def occupied (n : Nat) : Nat := if n = 0 then stateSize else n

/-- The memory of a reduced expression without what only joins its parts; nothing for an empty
one. The last branch of an alternation brings the states that join all of them. -/
def partsSize (reverse : Bool) : Expr → Nat
  | .empty => 0
  | .set s => s.footprint reverse
  | .look _ => stateSize
  | .cat left right => partsSize reverse left + partsSize reverse right
  | .alt branch rest =>
    forkSize + occupied (partsSize reverse branch) +
      match rest with
      | .alt _ _ => partsSize reverse rest
      | _ => forkSize + occupied (partsSize reverse rest) + 2 * stateSize
  | .capture body => (if reverse then 0 else 2 * stateSize) + occupied (partsSize reverse body)
  | .repetition least greatest body =>
    let size := occupied (partsSize reverse body)
    match least, greatest with
    | 0, none =>
      if body.leastLength.getD 0 > 0 then stateSize + 2 * forkSize + size
      else 3 * stateSize + 4 * forkSize + size
    | least, none => stateSize + 2 * forkSize + least * size
    | 0, some 1 => 2 * stateSize + 2 * forkSize + size
    | least, some greatest =>
      if least = greatest then least * size
      else
        occupied (least * size) + stateSize +
          (greatest - least) * (stateSize + 2 * forkSize + size)

/-- The memory of the states that skip what stands in front of a match, or, read backward, behind
it. If a match must begin (end) where the text does, one state does nothing. -/
def approachSize (reverse : Bool) (e : Expr) : Nat :=
  if e.begins reverse (if reverse then .textEnd else .textStart) then stateSize
  else 3 * stateSize + transitionSize + 2 * forkSize

def footprint (reverse : Bool) (e : Expr) : Nat :=
  e.approachSize reverse + occupied (partsSize reverse e) +
    (if reverse then 1 else 3) * stateSize

/-- The greatest automaton that is built: ten mebibytes. -/
def footprintLimit : Nat := 10 * 1024 * 1024

def isTooBig (e : Expr) : Bool :=
  e.reduce.footprint false > footprintLimit || e.reduce.footprint true > footprintLimit

end Expr

end Regex
end MeshTelemetry
