import MeshTelemetry.Regex.Pattern.Token

/-!
# MeshTelemetry.Regex.Pattern.Bracket

Sets of characters between brackets. Brackets may be nested; `&&`, `--` and `~~` combine what
stands on both sides of them, from left to right.
-/

namespace MeshTelemetry
namespace Regex
namespace Pattern

/-- What is open around an item of a set: a bracket with the items before it, or an operation that
waits for its right side. -/
inductive SetFrame
  | bracket (items : List SetPattern) (negated : Bool)
  | operation (name : SetOperation) (left : SetPattern)

def asciiClass? (name : List Char) : Option AsciiClass :=
  [ ("alnum", AsciiClass.alnum), ("alpha", .alpha), ("ascii", .ascii), ("blank", .blank),
    ("cntrl", .cntrl), ("digit", .digit), ("graph", .graph), ("lower", .lower),
    ("print", .print), ("punct", .punct), ("space", .space), ("upper", .upper),
    ("word", .word), ("xdigit", .xdigit) ].lookup (String.ofList name)

/-- A class such as `[:alpha:]`, behind its bracket, if there is one. -/
def asciiItem? (cs : List Char) : Option (SetPattern × List Char) :=
  match cs with
  | ':' :: rest =>
    let (negated, rest) :=
      match rest with
      | '^' :: rest => (true, rest)
      | _ => (false, rest)
    match Text.cut? ':' rest with
    | some (name, ']' :: rest) => (asciiClass? name).map fun a => (.ascii a negated, rest)
    | _ => none
  | _ => none

/-- The minus signs at the beginning of a set. -/
def leadingMinus (spaced : Bool) : Nat → List SetPattern → List Char →
    Taken (List SetPattern)
  | 0, _, _ => .error .setUnclosed
  | fuel + 1, items, cs =>
    match cs with
    | '-' :: rest =>
      match skip spaced rest with
      | [] => .error .setUnclosed
      | rest => leadingMinus spaced fuel (.literal ⟨'-', false⟩ :: items) rest
    | _ => .ok (items, cs)

/-- The beginning of a set, behind its bracket: a negation, and the characters that stand for
themselves there. -/
def openBracket (spaced : Bool) (cs : List Char) : Taken (Bool × List SetPattern) :=
  match skip spaced cs with
  | [] => .error .setUnclosed
  | c :: cs =>
    let negated := c = '^'
    match (if negated then skip spaced cs else c :: cs) with
    | [] => .error .setUnclosed
    | cs =>
      match leadingMinus spaced (cs.length + 1) [] cs with
      | .error e => .error e
      | .ok ([], ']' :: rest) =>
        match skip spaced rest with
        | [] => .error .setUnclosed
        | rest => .ok ((negated, [.literal ⟨']', false⟩]), rest)
      | .ok (items, rest) => .ok ((negated, items), rest)

def setPrimitive (spaced : Bool) : List Char → Taken Pattern
  | [] => .error .setUnclosed
  | '\\' :: cs => escape spaced cs
  | c :: cs => .ok (.literal ⟨c, false⟩, cs)

/-- A part of a pattern as an item of a set. -/
def toItem : Pattern → Except PatternError SetPattern
  | .literal l => .ok (.literal l)
  | .perl name negated => .ok (.perl name negated)
  | .property q negated => .ok (.property q negated)
  | _ => .error .escapeInSet

def toRangeEnd : Pattern → Except PatternError Literal
  | .literal l => .ok l
  | _ => .error .rangeEnd

/-- An item of a set: a class, a character, or a range of characters. -/
def setItem (spaced : Bool) (cs : List Char) : Taken SetPattern :=
  match setPrimitive spaced cs with
  | .error e => .error e
  | .ok (first, rest) =>
    match skip spaced rest with
    | [] => .error .setUnclosed
    | c :: rest =>
      let next := peekSpaced spaced rest
      if c ≠ '-' || next = some ']' || next = some '-' then
        match toItem first with
        | .error e => .error e
        | .ok item => .ok (item, c :: rest)
      else
        match skip spaced rest with
        | [] => .error .setUnclosed
        | rest =>
          match setPrimitive spaced rest with
          | .error e => .error e
          | .ok (last, rest) =>
            match toRangeEnd first, toRangeEnd last with
            | .ok a, .ok b =>
              if a.char.toNat ≤ b.char.toNat then .ok (.range a b, rest) else .error .rangeReversed
            | .error e, _ => .error e
            | _, .error e => .error e

/-- Completes the operation that waits for a right side, if one does. -/
def closeOperation (right : SetPattern) : List SetFrame → SetPattern × List SetFrame
  | .operation name left :: frames => (.operation name left right, frames)
  | frames => (right, frames)

/-- Reads the items of the innermost open bracket, the last one first, up to the end of the
outermost. -/
def setItems (spaced : Bool) : Nat → List SetFrame → List SetPattern → List Char → Taken Pattern
  | 0, _, _, _ => .error .setUnclosed
  | fuel + 1, frames, items, cs =>
    let operation (name : SetOperation) (rest : List Char) : Taken Pattern :=
      let (left, frames) := closeOperation (.ofItems items.reverse) frames
      setItems spaced fuel (.operation name left :: frames) [] rest
    match skip spaced cs with
    | [] => .error .setUnclosed
    | '[' :: rest =>
      match asciiItem? rest with
      | some (item, rest) => setItems spaced fuel frames (item :: items) rest
      | none =>
        match openBracket spaced rest with
        | .error e => .error e
        | .ok ((negated, inner), rest) =>
          setItems spaced fuel (.bracket items negated :: frames) inner rest
    | ']' :: rest =>
      match closeOperation (.ofItems items.reverse) frames with
      | (set, [.bracket _ negated]) => .ok (.bracket negated set, rest)
      | (set, .bracket outer negated :: frames) =>
        setItems spaced fuel frames (.bracket negated set :: outer) rest
      | (_, _) => .error .setUnclosed
    | '&' :: '&' :: rest => operation .inter rest
    | '-' :: '-' :: rest => operation .diff rest
    | '~' :: '~' :: rest => operation .symmDiff rest
    | cs =>
      match setItem spaced cs with
      | .error e => .error e
      | .ok (item, rest) => setItems spaced fuel frames (item :: items) rest

/-- A set, behind its opening bracket. -/
def bracketed (spaced : Bool) (cs : List Char) : Taken Pattern :=
  match openBracket spaced cs with
  | .error e => .error e
  | .ok ((negated, items), rest) =>
    setItems spaced (rest.length + 1) [.bracket [] negated] items rest

end Pattern
end Regex
end MeshTelemetry
