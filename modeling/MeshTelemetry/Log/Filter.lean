import MeshTelemetry.Host
import MeshTelemetry.Text.Alphanumeric
import MeshTelemetry.Text.Blank
import MeshTelemetry.Text.Case
import MeshTelemetry.Text.Natural
import MeshTelemetry.Text.Split

/-!
# MeshTelemetry.Log.Filter

Which entries of the log are written. A filter is a list of directives separated by commas, such
as `warn,dispatcher=debug`: each sets the level of all components, of those whose path begins with
some text, or of what is logged during a replay. Of the directives for components, the one with
the longest text counts.

* `LogFilter.parse?` — the filter that a text stands for.
* `LogFilter.allows` — whether an entry is written.
-/

namespace MeshTelemetry

/-- The least severe level that is written, if any is. -/
abbrev Threshold := Option Level

namespace Threshold

def allows (t : Threshold) (level : Level) : Bool :=
  match t with
  | none => false
  | some least => least.severity ≤ level.severity

def named : List (String × Threshold) :=
  [ ("off", none), ("error", some .error), ("warn", some .warn), ("info", some .info),
    ("debug", some .debug), ("trace", some .trace) ]

/-- The threshold that a text names by number or name; case does not count. -/
def ofText? (text : List Char) : Option Threshold :=
  match Text.natural? text with
  | some n => named[n]?.map (·.2)
  | none => named.lookup (String.ofList (text.map Text.lowerAscii))

/-- The threshold behind an equals sign; none given means all levels. -/
def ofSuffix? (text : List Char) : Option Threshold :=
  if text.isEmpty then some (some .trace) else ofText? text

end Threshold

/-- The component paths and the named stretch of the run that a directive is for. One that asks
for fields of a stretch is for none. -/
structure LogDirective where
  target : Option String
  stretch : Option String
  hasFields : Bool
  threshold : Threshold
  deriving DecidableEq, Repr

namespace LogDirective

/-- The name of a replay, and of all that is logged during it. -/
def replayStretch : String := "processor_run"

def isDuringReplay : Component → Bool
  | .replay => true
  | .dispatcher => true
  | .normalizer => true
  | .receiverSet => true
  | .logReceiver => true
  | .fileReceiver => true
  | _ => false

def afterStretch? (d : LogDirective) : List Char → Option LogDirective
  | [] => some d
  | '=' :: rest => (Threshold.ofSuffix? rest).map fun threshold => { d with threshold }
  | _ => none

/-- What stands in brackets: the name of a stretch, and perhaps fields in braces. -/
def inBrackets? (target : Option String) (rest : List Char) : Option LogDirective :=
  let open? := rest.find? fun c => c = ']' || c = '\x7b'
  let name := String.ofList (rest.takeWhile fun c => c ≠ ']' && c ≠ '\x7b')
  let behind := (rest.dropWhile fun c => c ≠ ']' && c ≠ '\x7b').drop 1
  match open? with
  | some ']' => afterStretch? ⟨target, some name, false, some .trace⟩ behind
  | some _ =>
    let stretch := if name.isEmpty then none else some name
    match Text.cut? '\x7d' behind with
    | some (_ :: _, ']' :: behind) => afterStretch? ⟨target, stretch, true, some .trace⟩ behind
    | _ => none
  | none => none

def begins (c : Char) : Bool :=
  c = '-' || c = ':' || c = '_' || Text.isAlphanumeric c

/-- A directive is a threshold, a target, or a target or stretch with a threshold. Blanks are no
part of one, but a target that stands alone keeps those around it. -/
def parse? (text : List Char) : Option LogDirective :=
  match Text.trimStart text with
  | [] => none
  | '[' :: rest => if text.head? = some '[' then inBrackets? none rest else none
  | c :: cs =>
    if !begins c then none
    else
      match (c :: cs).find? fun c => c = '=' || c = '[' with
      | none =>
        match Threshold.ofText? text with
        | some threshold => some ⟨none, none, false, threshold⟩
        | none => some ⟨some (String.ofList text), none, false, some .trace⟩
      | some mark =>
        if text.head? ≠ some c then none
        else
          let target := some (String.ofList (text.takeWhile fun c => c ≠ '=' && c ≠ '['))
          let behind := (text.dropWhile fun c => c ≠ '=' && c ≠ '[').drop 1
          if mark = '[' then inBrackets? target behind
          else (Threshold.ofSuffix? behind).map fun threshold => ⟨target, none, false, threshold⟩

/-- Whether a directive without a stretch is for all components, or for those whose path begins
like that of `c`. -/
def isForComponent (d : LogDirective) (c : Component) : Bool :=
  d.stretch.isNone && !d.hasFields &&
    match d.target with
    | none => true
    | some target => target.toList.isPrefixOf c.path.toList

/-- Whether a directive is for a replay, of which the component makes entries. -/
def isForReplayOf (d : LogDirective) (c : Component) : Bool :=
  d.stretch = some replayStretch && !d.hasFields && isDuringReplay c &&
    match d.target with
    | none => true
    | some target => target.toList.isPrefixOf Component.replay.path.toList

/-- How long the target is; no target is shorter than any. -/
def specificity (d : LogDirective) : Nat :=
  match d.target with
  | none => 0
  | some target => target.length + 1

end LogDirective

abbrev LogFilter := List LogDirective

namespace LogFilter

/-- The filter that has one level for all components. -/
def ofLevel (level : Level) : LogFilter := [⟨none, none, false, some level⟩]

/-- The directives in order; no filter, if one of them is none. -/
def directives? : List (List Char) → Option LogFilter
  | [] => some []
  | part :: rest =>
    if part.isEmpty then directives? rest
    else
      match LogDirective.parse? part with
      | none => none
      | some d => (directives? rest).map (d :: ·)

def parse? (text : String) : Option LogFilter := directives? (Text.splitAt ',' text.toList)

/-- The most specific directive, of equal ones the last. -/
def best : Option LogDirective → List LogDirective → Option LogDirective
  | found, [] => found
  | none, d :: rest => best (some d) rest
  | some found, d :: rest =>
    best (some (if found.specificity ≤ d.specificity then d else found)) rest

def allows (f : LogFilter) (e : Event) : Bool :=
  (f.any fun d => d.isForReplayOf e.component && d.threshold.allows e.level) ||
    match best none (f.filter fun d => d.isForComponent e.component) with
    | none => false
    | some d => d.threshold.allows e.level

end LogFilter

end MeshTelemetry
