import MeshTelemetry.Regex.Pattern
import MeshTelemetry.Regex.Unicode
import MeshTelemetry.Text.Blank

/-!
# MeshTelemetry.Regex.Pattern.Token

The parts of a pattern that hold no other pattern: escapes, counts, flags and names. Each reader
takes the text behind the character that announced the part and returns the part with the text
that follows it. Where blanks are ignored, they and comments may stand inside some parts.
-/

namespace MeshTelemetry
namespace Regex
namespace Pattern

/-- A part and the text behind it. -/
abbrev Taken (α : Type) := Except PatternError (α × List Char)

/-- Drops blanks and comments; `inComment` says that a comment is open. -/
def skipFrom : Bool → List Char → List Char
  | _, [] => []
  | true, c :: cs => if c = '\n' then skipFrom false cs else skipFrom true cs
  | false, c :: cs =>
    if Text.isBlank c then skipFrom false cs
    else if c = '#' then skipFrom true cs
    else c :: cs

def skip (spaced : Bool) (cs : List Char) : List Char := if spaced then skipFrom false cs else cs

/-- The first character that is neither blank nor the sign of a comment; a comment is not left. -/
def peekFrom : Bool → List Char → Option Char
  | _, [] => none
  | inComment, c :: cs =>
    if Text.isBlank c then peekFrom inComment cs
    else if !inComment && c = '#' then peekFrom true cs
    else some c

/-- The character that follows, seen through blanks where they are ignored. -/
def peekSpaced (spaced : Bool) (cs : List Char) : Option Char :=
  if spaced then (peekFrom false cs).or cs.head? else cs.head?

def isDecimal (c : Char) : Bool := 48 ≤ c.toNat && c.toNat ≤ 57

/-- The digits of a count, and the text behind them. -/
def digits (spaced : Bool) : Bool → List Char → List Nat × List Char
  | _, [] => ([], [])
  | true, c :: cs => if c = '\n' then digits spaced false cs else digits spaced true cs
  | false, c :: cs =>
    if spaced && Text.isBlank c then digits spaced false cs
    else if spaced && c = '#' then digits spaced true cs
    else if isDecimal c then
      let (ds, rest) := digits spaced false cs
      ((c.toNat - 48) :: ds, rest)
    else ([], c :: cs)

/-- A count, with blanks around it. -/
def count (spaced : Bool) (cs : List Char) : Taken Nat :=
  let (ds, rest) := digits spaced false (cs.dropWhile Text.isBlank)
  if ds.isEmpty then .error .repetitionEmpty
  else
    let n := ds.foldl (fun n d => n * 10 + d) 0
    if n < UInt32.size then .ok (n, rest.dropWhile Text.isBlank) else .error .repetitionTooLarge

/-- The bounds of a counted repetition, behind its opening brace. -/
def bounds (spaced : Bool) (cs : List Char) : Taken (Nat × Option Nat) :=
  match skip spaced cs with
  | [] => .error .repetitionUnclosed
  | cs =>
    match count spaced cs with
    | .error e => .error e
    | .ok (least, '\x7d' :: rest) => .ok ((least, some least), rest)
    | .ok (least, ',' :: rest) =>
      match skip spaced rest with
      | '\x7d' :: rest => .ok ((least, none), rest)
      | rest =>
        match count spaced rest with
        | .error e => .error e
        | .ok (greatest, '\x7d' :: rest) =>
          if least ≤ greatest then .ok ((least, some greatest), rest) else .error .repetitionRange
        | .ok _ => .error .repetitionUnclosed
    | .ok _ => .error .repetitionUnclosed

def hexValue? (c : Char) : Option Nat :=
  let n := c.toNat
  if 48 ≤ n && n ≤ 57 then some (n - 48)
  else if 65 ≤ n && n ≤ 70 then some (n - 55)
  else if 97 ≤ n && n ≤ 102 then some (n - 87)
  else none

def charOfValue (n : Nat) : Except PatternError Char :=
  if n < 0xd800 ∨ (0xdfff < n ∧ n < 0x110000) then .ok (Char.ofNat n) else .error .hexValue

def hexFixed (spaced : Bool) : Nat → Nat → List Char → Taken Char
  | 0, value, cs =>
    match charOfValue value with
    | .error e => .error e
    | .ok c => .ok (c, cs)
  | _ + 1, _, [] => .error .escapeUnclosed
  | missing + 1, value, c :: cs =>
    match hexValue? c with
    | none => .error .hexDigit
    | some d => hexFixed spaced missing (value * 16 + d) (skip spaced cs)

/-- The characters up to a closing brace, without blanks and comments where they are ignored. -/
def braced (spaced : Bool) : Bool → List Char → Option (List Char × List Char)
  | _, [] => none
  | true, c :: cs => if c = '\n' then braced spaced false cs else braced spaced true cs
  | false, c :: cs =>
    if spaced && Text.isBlank c then braced spaced false cs
    else if spaced && c = '#' then braced spaced true cs
    else if c = '\x7d' then some ([], cs)
    else (braced spaced false cs).map fun (name, rest) => (c :: name, rest)

def hexBraced (spaced : Bool) (cs : List Char) : Taken Char :=
  match braced spaced false cs with
  | none => .error .escapeUnclosed
  | some (ds, rest) =>
    if ds.isEmpty then .error .hexEmpty
    else
      match ds.mapM hexValue? with
      | none => .error .hexDigit
      | some values =>
        match charOfValue (values.foldl (fun n d => n * 16 + d) 0) with
        | .error e => .error e
        | .ok c => .ok (c, skip spaced rest)

/-- A character by its number, behind the letter that says how many digits it has. -/
def hex (spaced : Bool) (width : Nat) (cs : List Char) : Taken Literal :=
  match skip spaced cs with
  | [] => .error .escapeUnclosed
  | '\x7b' :: rest =>
    match hexBraced spaced rest with
    | .error e => .error e
    | .ok (c, rest) => .ok (⟨c, false⟩, rest)
  | cs =>
    match hexFixed spaced width 0 cs with
    | .error e => .error e
    | .ok (c, rest) => .ok (⟨c, width = 2⟩, rest)

/-- A property and whether it is negated once more by its operator. -/
def query (name : List Char) : PropertyQuery × Bool :=
  let rec unequal : List Char → List Char → Option (List Char × List Char)
    | _, [] => none
    | seen, '!' :: '=' :: rest => some (seen.reverse, rest)
    | seen, c :: rest => unequal (c :: seen) rest
  match unequal [] name with
  | some (a, b) => (.valued (String.ofList a) (String.ofList b), true)
  | none =>
    match (Text.cut? ':' name).or (Text.cut? '=' name) with
    | some (a, b) => (.valued (String.ofList a) (String.ofList b), false)
    | none => (.named (String.ofList name), false)

/-- A property, behind the letter that announces it. -/
def takeProperty (spaced negated : Bool) (cs : List Char) : Taken Pattern :=
  match skip spaced cs with
  | [] => .error .escapeUnclosed
  | '\x7b' :: rest =>
    match braced spaced false rest with
    | none => .error .escapeUnclosed
    | some (name, rest) =>
      let (q, unequal) := query name
      .ok (.property q (negated != unequal), rest)
  | c :: rest =>
    if c = '\\' then .error .propertyLetter
    else .ok (.property (.named (String.ofList [c])) negated, skip spaced rest)

def isBoundaryLetter (c : Char) : Bool :=
  c = '-' || (65 ≤ c.toNat && c.toNat ≤ 90) || (97 ≤ c.toNat && c.toNat ≤ 122)

/-- The letters of a name between braces, and the text behind them. -/
def boundaryName (spaced : Bool) : Bool → List Char → List Char × List Char
  | _, [] => ([], [])
  | true, c :: cs =>
    if c = '\n' then boundaryName spaced false cs else boundaryName spaced true cs
  | false, c :: cs =>
    if spaced && Text.isBlank c then boundaryName spaced false cs
    else if spaced && c = '#' then boundaryName spaced true cs
    else if isBoundaryLetter c then
      let (name, rest) := boundaryName spaced false cs
      (c :: name, rest)
    else ([], c :: cs)

/-- A word boundary. A brace behind it holds the name of a special one, unless a count follows. -/
def wordBoundary (spaced : Bool) (cs : List Char) : Taken Pattern :=
  match cs with
  | '\x7b' :: rest =>
    match boundaryName spaced false rest with
    | ([], []) => .error .boundaryUnclosed
    | ([], _) => .ok (.assertion (.word .boundary), cs)
    | (name, '\x7d' :: rest) =>
      if name = "start".toList then .ok (.assertion (.word .start), rest)
      else if name = "end".toList then .ok (.assertion (.word .finish), rest)
      else if name = "start-half".toList then .ok (.assertion (.word .startHalf), rest)
      else if name = "end-half".toList then .ok (.assertion (.word .finishHalf), rest)
      else .error .boundaryUnknown
    | _ => .error .boundaryUnclosed
  | _ => .ok (.assertion (.word .boundary), cs)

def isLetterOrDigit (c : Char) : Bool :=
  isDecimal c || (65 ≤ c.toNat && c.toNat ≤ 90) || (97 ≤ c.toNat && c.toNat ≤ 122)

/-- A part that begins with a backslash, behind it. -/
def escape (spaced : Bool) : List Char → Taken Pattern
  | [] => .error .escapeUnclosed
  | c :: cs =>
    let literal (c : Char) : Taken Pattern := .ok (.literal ⟨c, false⟩, cs)
    let number (width : Nat) : Taken Pattern :=
      match hex spaced width cs with
      | .error e => .error e
      | .ok (l, rest) => .ok (.literal l, rest)
    if isDecimal c then .error .backReference
    else if c = 'x' then number 2
    else if c = 'u' then number 4
    else if c = 'U' then number 8
    else if c = 'p' then takeProperty spaced false cs
    else if c = 'P' then takeProperty spaced true cs
    else if c = 'd' then .ok (.perl .digit false, cs)
    else if c = 'D' then .ok (.perl .digit true, cs)
    else if c = 's' then .ok (.perl .space false, cs)
    else if c = 'S' then .ok (.perl .space true, cs)
    else if c = 'w' then .ok (.perl .word false, cs)
    else if c = 'W' then .ok (.perl .word true, cs)
    else if c = 'a' then literal '\x07'
    else if c = 'f' then literal '\x0c'
    else if c = 't' then literal '\t'
    else if c = 'n' then literal '\n'
    else if c = 'r' then literal '\r'
    else if c = 'v' then literal '\x0b'
    else if c = 'A' then .ok (.assertion .textStart, cs)
    else if c = 'z' then .ok (.assertion .textEnd, cs)
    else if c = 'b' then wordBoundary spaced cs
    else if c = 'B' then .ok (.assertion (.word .inside), cs)
    else if c = '<' then .ok (.assertion (.word .start), cs)
    else if c = '>' then .ok (.assertion (.word .finish), cs)
    else if c.toNat < 128 && !isLetterOrDigit c then literal c
    else .error .escapeUnknown

def flagName? (c : Char) : Option FlagName :=
  if c = 'i' then some .ignoreCase
  else if c = 'm' then some .multiLine
  else if c = 's' then some .dotAll
  else if c = 'U' then some .swapGreed
  else if c = 'u' then some .unicode
  else if c = 'R' then some .crlf
  else if c = 'x' then some .ignoreSpace
  else none

/-- Flags up to a colon or a closing parenthesis. `on` turns false at the one minus sign that is
allowed, and a flag must follow it. -/
def takeFlags : FlagChanges → Bool → Bool → List Char → Taken (FlagChanges × Bool)
  | _, _, _, [] => .error .flagUnclosed
  | done, on, dangling, c :: cs =>
    if c = ':' || c = ')' then
      if dangling then .error .flagDangling else .ok ((done.reverse, c = ')'), cs)
    else if c = '-' then
      if on then takeFlags done false true cs else .error .flagRepeated
    else
      match flagName? c with
      | none => .error .flagUnknown
      | some f =>
        if done.any (·.1 = f) then .error .flagRepeated else takeFlags ((f, on) :: done) on false cs

/-- Whether a character may stand in the name of a group. -/
def isNameChar (isFirst : Bool) (c : Char) : Bool :=
  if isFirst then c = '_' || (Unicode.propertySet "Alphabetic").mem c
  else
    c = '_' || c = '.' || c = '[' || c = ']' ||
      (Unicode.propertySet "Alphabetic").mem c ||
      ["Nd", "Nl", "No"].any fun t => (Unicode.categorySet t).mem c

/-- The name of a group, up to its closing angle. -/
def groupName : List Char → List Char → Taken (List Char)
  | _, [] => .error .groupNameUnclosed
  | done, c :: cs =>
    if c = '>' then
      if done.isEmpty then .error .groupNameEmpty else .ok (done.reverse, cs)
    else if isNameChar done.isEmpty c then groupName (c :: done) cs
    else .error .groupNameInvalid

/-- What opens with a parenthesis: a group, which may have a name, or flags that stand alone. -/
inductive Opening
  | group (kind : GroupKind) (name : Option (List Char))
  | flags (changes : FlagChanges)

def named (cs : List Char) : Taken Opening :=
  match groupName [] cs with
  | .error e => .error e
  | .ok (name, rest) => .ok (.group .capture (some name), rest)

/-- What opens with a parenthesis, behind it. -/
def opening (spaced : Bool) (cs : List Char) : Taken Opening :=
  match skip spaced cs with
  | '?' :: '=' :: _ => .error .lookAround
  | '?' :: '!' :: _ => .error .lookAround
  | '?' :: '<' :: '=' :: _ => .error .lookAround
  | '?' :: '<' :: '!' :: _ => .error .lookAround
  | '?' :: 'P' :: '<' :: rest => named rest
  | '?' :: '<' :: rest => named rest
  | '?' :: [] => .error .groupUnclosed
  | '?' :: rest =>
    match takeFlags [] true false rest with
    | .error e => .error e
    | .ok ((changes, closed), rest) =>
      if closed then
        if changes.isEmpty then .error .repetitionMissing else .ok (.flags changes, rest)
      else .ok (.group (.plain changes) none, rest)
  | rest => .ok (.group .capture none, rest)

end Pattern
end Regex
end MeshTelemetry
