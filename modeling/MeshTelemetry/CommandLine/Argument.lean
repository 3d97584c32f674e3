import MeshTelemetry.Environment
import MeshTelemetry.Log.Format
import MeshTelemetry.Text.Natural

/-!
# MeshTelemetry.CommandLine.Argument

The arguments of the program and its commands: by which names they are given, which variable may
stand for them, and what a value must look like.

* `Argument.spec` — names, variable and kind of an argument.
* `Kind.value` — the value that a text stands for.
* `UsageFault` — what can be wrong with a command line.
-/

namespace MeshTelemetry

/-- Why a command line is not run. Asking for help or the version is no mistake. -/
inductive UsageFault
  | helpAsked
  | versionAsked
  | helpNeeded
  | noCommand
  | unknownCommand
  | unknownArgument
  | missingValue
  | invalidValue
  | extraValue
  | conflict
  deriving DecidableEq, Repr

namespace UsageFault

def exitCode : UsageFault → Nat
  | .helpAsked => 0
  | .versionAsked => 0
  | _ => 2

def message : UsageFault → String
  | .helpAsked => "usage: mesh-analyzer [OPTIONS] <process|validate|info>"
  | .versionAsked => "mesh-analyzer 0.1.0"
  | .helpNeeded => "usage: mesh-analyzer [OPTIONS] <process|validate|info>"
  | .noCommand => "a command is required"
  | .unknownCommand => "unrecognized command"
  | .unknownArgument => "unexpected argument"
  | .missingValue => "a value is required"
  | .invalidValue => "invalid value"
  | .extraValue => "unexpected value"
  | .conflict => "an argument cannot be used with another one"

end UsageFault

namespace CommandLine

inductive Argument
  | verbose
  | quiet
  | logFormat
  | input
  | config
  | maxRecords
  | dryRun
  | metricsPort
  | json
  | rules
  | receivers
  | help
  | version
  deriving DecidableEq, Repr

/-- What an argument takes: a value of some kind, or none. A `tally` counts how often it is given. -/
inductive Kind
  | path
  | natural (limit : Nat)
  | unsigned (limit : Nat)
  | format
  | flag
  | tally
  | help
  | version
  deriving DecidableEq, Repr

inductive Value
  | path (path : String)
  | number (n : Nat)
  | format (format : LogFormat)
  | present
  deriving DecidableEq, Repr

/-- The greatest count of a tally. -/
def tallyLimit : Nat := 255

namespace Kind

def takesValue : Kind → Bool
  | .path => true
  | .natural _ => true
  | .unsigned _ => true
  | .format => true
  | _ => false

/-- A number up to a limit. -/
def numberUpTo (limit : Nat) (n? : Option Nat) : Except UsageFault Value :=
  match n? with
  | none => .error .invalidValue
  | some n => if n ≤ limit then .ok (.number n) else .error .invalidValue

def value (kind : Kind) (text : String) : Except UsageFault Value :=
  match kind with
  | .path => if text.isEmpty then .error .missingValue else .ok (.path text)
  | .natural limit => numberUpTo limit (Text.natural? text.toList)
  | .unsigned limit => numberUpTo limit (Text.unsigned? text.toList)
  | .tally => numberUpTo tallyLimit (Text.unsigned? text.toList)
  | .format =>
    match LogFormat.ofText text with
    | .error _ => .error .invalidValue
    | .ok logFormat => .ok (.format logFormat)
  | .flag => .ok .present
  | .help => .error .helpAsked
  | .version => .error .versionAsked

end Kind

/-- How an argument is given: by its long name behind two hyphens, by a letter behind one, or by
the variable `fallback` if the command line does not have it. -/
structure Spec where
  argument : Argument
  long : String
  short : Option Char
  kind : Kind
  fallback : Option String

/-- Arguments of all commands, which may stand before and behind the command. -/
def globals : List Spec :=
  [ ⟨.verbose, "verbose", some 'v', .tally, some "MESH_ANALYZER_VERBOSE"⟩,
    ⟨.quiet, "quiet", some 'q', .flag, none⟩,
    ⟨.logFormat, "log-format", none, .format, some "MESH_ANALYZER_LOG_FORMAT"⟩ ]

def helpSpec : Spec := ⟨.help, "help", some 'h', .help, none⟩

def versionSpec : Spec := ⟨.version, "version", some 'V', .version, none⟩

def configSpec : Spec := ⟨.config, "config", some 'c', .path, none⟩

def jsonSpec : Spec := ⟨.json, "json", none, .flag, none⟩

inductive CommandName
  | process
  | validate
  | info
  deriving DecidableEq, Repr

namespace CommandName

def ofText? (text : String) : Option CommandName :=
  if text = "process" then some .process
  else if text = "validate" then some .validate
  else if text = "info" then some .info
  else none

/-- The arguments that only this command has. -/
def ownSpecs : CommandName → List Spec
  | .process =>
    [ ⟨.input, "input", some 'i', .path, some "MESH_ANALYZER_INPUT"⟩,
      ⟨.config, "config", some 'c', .path, some "MESH_ANALYZER_CONFIG"⟩,
      ⟨.maxRecords, "max-records", none, .natural (UInt64.size - 1),
        some "MESH_ANALYZER_MAX_RECORDS"⟩,
      ⟨.dryRun, "dry-run", none, .flag, none⟩,
      ⟨.metricsPort, "metrics-port", none, .unsigned (UInt16.size - 1),
        some "MESH_ANALYZER_METRICS_PORT"⟩ ]
  | .validate => [configSpec, jsonSpec]
  | .info =>
    [ configSpec, jsonSpec, ⟨.rules, "rules", none, .flag, none⟩,
      ⟨.receivers, "receivers", none, .flag, none⟩ ]

end CommandName

/-- Where arguments stand: before the command, or behind it. -/
inductive Level
  | outer
  | inner (command : CommandName)
  deriving DecidableEq, Repr

namespace Level

/-- The arguments that may be given, in the order in which variables are looked up for them. -/
def specs : Level → List Spec
  | .outer => globals ++ [helpSpec, versionSpec]
  | .inner command => command.ownSpecs ++ globals ++ [helpSpec]

def byLong? (level : Level) (long : String) : Option Spec :=
  level.specs.find? fun s => s.long = long

def byShort? (level : Level) (c : Char) : Option Spec :=
  level.specs.find? fun s => s.short = some c

end Level

end CommandLine

end MeshTelemetry
