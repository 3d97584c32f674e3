import MeshTelemetry.CommandLine.Scan

/-!
# MeshTelemetry.CommandLine

What a command line asks for.

* `Invocation` — the command with its options, and the options of the log.
* `Invocation.parse` — reads a command line.
-/

namespace MeshTelemetry

/-- Options of replaying: no limit is zero, and so is no port. -/
structure ProcessOptions where
  input : String
  config : Option String
  maxRecords : Nat
  dryRun : Bool
  metricsPort : Nat
  deriving DecidableEq, Repr

structure ValidateOptions where
  config : String
  json : Bool
  deriving DecidableEq, Repr

structure InfoOptions where
  config : String
  json : Bool
  rules : Bool
  receivers : Bool
  deriving DecidableEq, Repr

inductive Command
  | process (options : ProcessOptions)
  | validate (options : ValidateOptions)
  | info (options : InfoOptions)
  deriving DecidableEq, Repr

structure Invocation where
  verbosity : Nat
  quiet : Bool
  logFormat : LogFormat
  command : Command
  deriving DecidableEq, Repr

namespace CommandLine

def pathOf? (given : List Given) (argument : Argument) : Option String :=
  match valueOf? given argument with
  | some (.path path) => some path
  | _ => none

def numberOf (given : List Given) (argument : Argument) : Nat :=
  match valueOf? given argument with
  | some (.number n) => n
  | _ => 0

def isPresent (given : List Given) (argument : Argument) : Bool :=
  (valueOf? given argument).isSome

def formatOf (given : List Given) : LogFormat :=
  match valueOf? given .logFormat with
  | some (.format format) => format
  | _ => .pretty

/-- The configuration that is used if none is named. -/
def defaultConfig : String := "mesh-analyzer.toml"

def command (given : List Given) : CommandName → Command
  | .process =>
    .process
      { input := (pathOf? given .input).getD "-"
        config := pathOf? given .config
        maxRecords := numberOf given .maxRecords
        dryRun := isPresent given .dryRun
        metricsPort := numberOf given .metricsPort }
  | .validate =>
    .validate
      { config := (pathOf? given .config).getD defaultConfig
        json := isPresent given .json }
  | .info =>
    .info
      { config := (pathOf? given .config).getD defaultConfig
        json := isPresent given .json
        rules := isPresent given .rules
        receivers := isPresent given .receivers }

end CommandLine

def Invocation.parse (env : Environment) (words : List String) : Except UsageFault Invocation :=
  match CommandLine.read env words with
  | .error e => .error e
  | .ok (name, given) =>
    .ok
      { verbosity := CommandLine.numberOf given .verbose
        quiet := CommandLine.isPresent given .quiet
        logFormat := CommandLine.formatOf given
        command := CommandLine.command given name }

end MeshTelemetry
