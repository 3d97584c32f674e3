import MeshTelemetry.CommandLine.Argument
import MeshTelemetry.Text.Split

/-!
# MeshTelemetry.CommandLine.Scan

Reading a command line from left to right. An argument with a value that is not attached to it
takes the next word; its value is looked at when another argument comes or the line ends, and what
is wrong behind a command comes to light before what is wrong in front of it.

* `Scan.accept` — takes an argument in.
* `Level.read` — reads the words of a level.
* `CommandLine.read` — reads a whole command line and the variables.
-/

namespace MeshTelemetry
namespace CommandLine

/-- Where a value comes from; the line counts more than a variable. -/
inductive Origin
  | variable
  | line
  deriving DecidableEq, Repr

/-- An argument with its value. -/
structure Given where
  argument : Argument
  origin : Origin
  value : Value
  deriving DecidableEq, Repr

def given? (given : List Given) (argument : Argument) : Option Given :=
  given.find? fun g => g.argument = argument

def valueOf? (given : List Given) (argument : Argument) : Option Value :=
  (given? given argument).map Given.value

/-- The arguments read so far, each once, and one that waits for its value or holds it. -/
structure Scan where
  given : List Given
  pending : Option (Spec × Option String)

namespace Scan

def empty : Scan := ⟨[], none⟩

def has (s : Scan) (argument : Argument) : Bool := (valueOf? s.given argument).isSome

/-- The count of a tally so far. -/
def countOf (s : Scan) (argument : Argument) : Nat :=
  match valueOf? s.given argument with
  | some (.number n) => n
  | _ => 0

def put (s : Scan) (argument : Argument) (origin : Origin) (value : Value) : Scan :=
  { s with
    given := (s.given.filter fun g => g.argument ≠ argument) ++ [⟨argument, origin, value⟩] }

/-- Takes an argument in, with the text of its value if it has one. Only a tally may be given
twice. -/
def accept (s : Scan) (spec : Spec) (origin : Origin) (text : Option String) :
    Except UsageFault Scan :=
  match spec.kind, text with
  | .help, _ => .error .helpAsked
  | .version, _ => .error .versionAsked
  | .tally, none =>
    .ok (s.put spec.argument origin (.number (min (s.countOf spec.argument + 1) tallyLimit)))
  | .flag, none =>
    if s.has spec.argument then .error .conflict else .ok (s.put spec.argument origin .present)
  | _, none => .error .missingValue
  | kind, some text =>
    if s.has spec.argument then .error .conflict
    else
      match kind.value text with
      | .error e => .error e
      | .ok value => .ok (s.put spec.argument origin value)

def resolve (s : Scan) : Except UsageFault Scan :=
  match s.pending with
  | none => .ok s
  | some (spec, text) => accept { s with pending := none } spec .line text

/-- Takes an argument in after the one that is pending. -/
def next (s : Scan) (spec : Spec) (text : Option String) : Except UsageFault Scan :=
  match s.resolve with
  | .error e => .error e
  | .ok s => s.accept spec .line text

def await (s : Scan) (spec : Spec) : Except UsageFault Scan :=
  match s.resolve with
  | .error e => .error e
  | .ok s => .ok { s with pending := some (spec, none) }

def isWaiting (s : Scan) : Bool :=
  match s.pending with
  | some (_, none) => true
  | _ => false

def give (s : Scan) (word : String) : Scan :=
  { s with pending := s.pending.map fun (spec, _) => (spec, some word) }

/-- Reads what follows two hyphens: a name, perhaps with a value behind an equals sign. -/
def long (level : Level) (body : List Char) (s : Scan) : Except UsageFault Scan :=
  let (name, text) :=
    match Text.cut? '=' body with
    | some (name, text) => (name, some (String.ofList text))
    | none => (body, none)
  match level.byLong? (String.ofList name) with
  | none => .error .unknownArgument
  | some spec =>
    match spec.kind.takesValue, text with
    | true, some text => s.next spec (some text)
    | true, none => s.await spec
    | false, some _ => .error .extraValue
    | false, none => s.next spec none

/-- The value that follows a letter directly; an equals sign before it does not count. -/
def attached : List Char → String
  | '=' :: cs => String.ofList cs
  | cs => String.ofList cs

/-- Reads the letters behind one hyphen; what follows the first that takes a value is the value. -/
def letters (level : Level) : List Char → Scan → Except UsageFault Scan
  | [], s => .ok s
  | c :: cs, s =>
    match level.byShort? c with
    | none => .error .unknownArgument
    | some spec =>
      if spec.kind.takesValue then
        if cs.isEmpty then s.await spec else s.next spec (some (attached cs))
      else
        match s.next spec none with
        | .error e => .error e
        | .ok s => letters level cs s

end Scan

/-- A word of the command line, by its hyphens. -/
inductive Word
  | bare
  | escape
  | long (body : List Char)
  | letters (body : List Char)
  deriving DecidableEq, Repr

def Word.ofText (word : String) : Word :=
  match word.toList with
  | ['-', '-'] => .escape
  | '-' :: '-' :: body => .long body
  | ['-'] => .bare
  | '-' :: body => .letters body
  | _ => .bare

/-- What ends the words of a level: nothing, a command with the words behind it, or a request for
help, with the words behind that. -/
inductive Turn
  | finished
  | command (name : CommandName) (words : List String)
  | help (words : List String)
  deriving DecidableEq, Repr

namespace Level

def turn? (level : Level) (word : String) (rest : List String) : Option Turn :=
  match level with
  | .inner _ => none
  | .outer =>
    if word = "help" then some (.help rest)
    else (CommandName.ofText? word).map fun name => .command name rest

/-- What is wrong with a word that is nothing. Behind two hyphens even a command is none. -/
def stray (level : Level) (isEscaped : Bool) (word : String) : UsageFault :=
  match level with
  | .inner _ => .unknownArgument
  | .outer => if isEscaped && (turn? .outer word []).isSome then .unknownArgument else .unknownCommand

def read (level : Level) (isEscaped : Bool) : List String → Scan → Except UsageFault (Scan × Turn)
  | [], s => .ok (s, .finished)
  | word :: rest, s =>
    if isEscaped then .error (level.stray true word)
    else
      match if s.isWaiting then none else level.turn? word rest with
      | some turn => .ok (s, turn)
      | none =>
        match Word.ofText word with
        | .escape => read level true rest s
        | .long body =>
          match s.long level body with
          | .error e => .error e
          | .ok s => read level false rest s
        | .letters body =>
          match s.letters level body with
          | .error e => .error e
          | .ok s => read level false rest s
        | .bare =>
          if s.isWaiting then read level false rest (s.give word)
          else .error (level.stray false word)

/-- Takes the values of variables for arguments that are not given. -/
def readVariables (env : Environment) : List Spec → Scan → Except UsageFault Scan
  | [], s => .ok s
  | spec :: rest, s =>
    match spec.fallback.bind (List.lookup · env) with
    | none => readVariables env rest s
    | some text =>
      if s.has spec.argument then readVariables env rest s
      else
        match s.accept spec .variable (some text) with
        | .error e => .error e
        | .ok s => readVariables env rest s

def complete (level : Level) (env : Environment) (s : Scan) : Except UsageFault Scan :=
  match s.resolve with
  | .error e => .error e
  | .ok s => readVariables env level.specs s

def isConflicting (s : Scan) : Bool := s.has .quiet && s.has .verbose

end Level

/-- What asking for help on some words comes to: help on nothing else than one command. -/
def helpOn : List String → UsageFault
  | [] => .helpAsked
  | [word] => if (Level.turn? .outer word []).isSome then .helpAsked else .unknownCommand
  | _ => .unknownCommand

def readInner (env : Environment) (name : CommandName) (words : List String) :
    Except UsageFault (List Given) :=
  match Level.read (.inner name) false words .empty with
  | .error e => .error e
  | .ok (s, _) =>
    match Level.complete (.inner name) env s with
    | .error e => .error e
    | .ok s => if Level.isConflicting s then .error .conflict else .ok s.given

/-- What is said of one argument in front of the command and behind it: what is behind counts,
unless it comes from a variable and the other from the line. -/
def prevailing : Option Given → Option Given → Option Given
  | outer, none => outer
  | none, inner => inner
  | some outer, some inner =>
    if outer.origin = .line ∧ inner.origin = .variable then some outer else some inner

def merge (outer inner : List Given) : List Given :=
  let isGlobal (g : Given) : Bool := globals.any fun s => s.argument = g.argument
  (inner.filter fun g => !isGlobal g) ++
    globals.filterMap fun s =>
      prevailing (given? outer s.argument) (given? inner s.argument)

def read (env : Environment) (words : List String) :
    Except UsageFault (CommandName × List Given) :=
  match Level.read .outer false words .empty with
  | .error e => .error e
  | .ok (_, .help rest) => .error (helpOn rest)
  | .ok (s, .finished) =>
    match Level.complete .outer env s with
    | .error e => .error e
    | .ok s => .error (if s.given.isEmpty then .helpNeeded else .noCommand)
  | .ok (s, .command name rest) =>
    match readInner env name rest with
    | .error e => .error e
    | .ok inner =>
      match Level.complete .outer env s with
      | .error e => .error e
      | .ok s =>
        if Level.isConflicting s then .error .conflict else .ok (name, merge s.given inner)

end CommandLine
end MeshTelemetry
