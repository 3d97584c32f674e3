import MeshTelemetry.CommandLine
import MeshTelemetry.Command.Fault

/-!
# MeshTelemetry.Command.Process

Replaying an input. The command works in two steps, so that the time between them can be measured:
the first replays, and the second reports.

* `ProcessOptions.start` — loads the configuration and replays.
* `Replayed.conclude` — reports on a replay that took some time.
-/

namespace MeshTelemetry

/-- What comes of a replay. -/
abbrev Replayed := Outcome ReplayFault ReplayReport

namespace ProcessOptions

def log (h : Host) (level : Level) (message : String) (fields : List (String × String)) : Host :=
  h.log level .processCommand message fields

/-- The configuration that is replayed with: the one of a file, or an empty one. -/
def loadConfig (o : ProcessOptions) (h : Host) : Except CommandFault Config × Host :=
  match o.config with
  | some path =>
    let h := log h .info "Loading configuration" [("config", path)]
    (Config.loadExisting h.store path, h)
  | none => (.ok .empty, log h .info "No configuration given, using defaults" [])

def serviceText (s : ServiceRules) : String :=
  "  - " ++ s.service ++ " (" ++ toString s.rules.length ++ " rules)\n"

def receiverText (r : ReceiverSettings) : String :=
  "  - " ++ r.name ++ " (" ++ r.type.shown ++ ")\n"

/-- What is shown if nothing is to be replayed. -/
def summary (c : Config) : String :=
  "\n=== Configuration Summary ===\n\n" ++
  "Endpoint naming (" ++ toString c.services.length ++ " services, " ++
    toString (Config.ruleCount c.services) ++ " rules):\n" ++
  String.join (c.services.map serviceText) ++
  (if c.receivers.isEmpty then "\nReceivers: none (sources will be logged)\n"
    else "\nReceivers (" ++ toString c.receivers.length ++ "):\n" ++
      String.join (c.receivers.map receiverText)) ++
  "\n"

def settings (o : ProcessOptions) (config : Config) : ReplaySettings where
  config := config
  input := o.input
  limit := if o.maxRecords = 0 then none else some o.maxRecords

def logLoaded (c : Config) (h : Host) : Host :=
  log h .info "Configuration loaded"
    [ ("naming_services", toString c.services.length),
      ("naming_rules", toString (Config.ruleCount c.services)),
      ("receivers", toString c.receivers.length) ]

/-- Ends with the output of a run without a replay, or with what came of the replay. -/
def start (o : ProcessOptions) (stdin : Bytes) (isStopped : Nat → Bool) (h : Host) :
    Except CommandFault (String ⊕ Replayed) × Host :=
  match o.loadConfig h with
  | (.error e, h) => (.error e, h)
  | (.ok c, h) =>
    let h := logLoaded c h
    if o.dryRun then
      (.ok (.inl (summary c)), log h .info "Dry run mode - configuration is valid, exiting" [])
    else if o.input ≠ "-" && !h.store.isPresent o.input then (.error (.noInput o.input), h)
    else
      let h := log h .info "Processing metric records..." [("input", o.input)]
      match (o.settings c).replay stdin isStopped h with
      | (outcome, h) => (.ok (.inr outcome), h)

end ProcessOptions

namespace Replayed

def secondsLayout : Decimal.Layout := ⟨-400, 400, 1⟩

def logInterruption (r : ReplayReport) (h : Host) : Host :=
  if r.interrupted then
    ProcessOptions.log h .warn "Received shutdown signal, processing stopped early" []
  else h

def logReport (r : ReplayReport) (nanos : Nat) (h : Host) : Host :=
  ProcessOptions.log (logInterruption r h) .info "Processing completed"
    [ ("records", toString r.recordsRead), ("failed", toString r.dispatched.failed),
      ("sources", toString r.dispatched.totalSources),
      ("duration_secs", secondsLayout.text (ReplayReport.seconds nanos)) ]

def conclude (outcome : Replayed) (nanos : Nat) (h : Host) :
    Outcome CommandFault Unit × String × Host :=
  match outcome with
  | .failed e => (.failed (.replay e), "", h)
  | .crashed m => (.crashed m, "", h)
  | .done r =>
    (.done (), r.shown nanos,
      ProcessOptions.log (logReport r nanos h) .info "Mesh Analyzer finished" [])

end Replayed
end MeshTelemetry
