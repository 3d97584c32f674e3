import MeshTelemetry.Dispatcher
import MeshTelemetry.Feed
import MeshTelemetry.Metric.Codec
import MeshTelemetry.Receiver.Output
import MeshTelemetry.Replay.Report
import MeshTelemetry.Text.Blank

/-!
# MeshTelemetry.Replay

Replaying recorded metrics. Every line of the input that is not blank holds one record; records
are dispatched in order, and lines that hold none are skipped and counted.

* `Replay.advance` — reads one line; `Replay.run` — reads lines until something ends the replay.
* `ReplaySettings.replay` — opens receivers and input, reads all lines, and flushes the receivers.
-/

namespace MeshTelemetry

/-- What is replayed: the `input` is the path of a file, or `-` for standard input, and no more
than `limit` records are read. -/
structure ReplaySettings where
  config : Config
  input : String
  limit : Option Nat
  deriving DecidableEq, Repr

/-- Why a replay has no report. -/
inductive ReplayFault
  | receivers (cause : OpenFault)
  | naming (cause : Violation)
  | noInput (path : String) (cause : IoFault)
  | unreadable (cause : IoFault)
  | flush (cause : Fault)
  deriving DecidableEq, Repr

namespace ReplayFault

/-- The message, and behind it those of its causes. -/
def chain : ReplayFault → List String
  | .receivers cause => ["Failed to create receivers", cause.message]
  | .naming cause => "Failed to compile endpoint naming rules" :: (Fault.violation cause).chain
  | .noInput path cause => ["Failed to open " ++ path, cause.message]
  | .unreadable cause => ["Failed to read input", cause.message]
  | .flush cause => "Failed to flush receivers" :: cause.chain

end ReplayFault

/-- What was read so far. -/
structure Progress where
  recordsRead : Nat
  malformed : Nat
  dispatched : Stats.Dispatched

def Progress.none : Progress := ⟨0, 0, .none⟩

/-- A replay between two lines; so many lines are read. -/
structure Replay where
  feed : Feed
  lines : Nat
  progress : Progress
  interrupted : Bool
  dispatcher : Dispatcher Output
  host : Host

/-- How a replay goes on after a line. -/
inductive Verdict
  | next
  | finished
  | failed (cause : IoFault)
  | crashed (message : String)
  deriving DecidableEq, Repr

namespace Replay

/-- The settings of the receiver that is used if none is configured. -/
def fallback : ReceiverSettings := ⟨"log", .log, []⟩

def log (r : Replay) (level : Level) (message : String) (fields : List (String × String)) :
    Replay :=
  { r with host := r.host.log level .replay message fields }

def lineField (r : Replay) : String × String := ("line", toString r.lines)

/-- A line holds no record. -/
def skip (r : Replay) (cause : DecodeError) : Replay :=
  let r := r.log .warn "Skipping malformed record" [r.lineField, ("error", cause.message)]
  { r with progress := { r.progress with malformed := r.progress.malformed + 1 } }

def succeed (r : Replay) (m : Metric) (d : Dispatch) : Replay :=
  let r := r.log .debug "Record dispatched"
    [ r.lineField, ("time_bucket", toString d.timeBucket.toInt),
      ("sources", toString d.emitted.length) ]
  let dispatched := r.progress.dispatched.recordSuccess m.latency d.emitted d.renamed
  { r with
    progress := { r.progress with dispatched }
    host := r.host.tally (.records true) }

/-- A record could not be dispatched as a whole. -/
def fail (r : Replay) (cause : DispatchFault) : Replay :=
  let r := r.log .warn "Record dispatch failed" [r.lineField, ("error", cause.message)]
  { r with
    progress := { r.progress with dispatched := r.progress.dispatched.recordFailure }
    host := r.host.tally (.records false) }

def takeRecord (c : Collaborators) (m : Metric) (r : Replay) : Verdict × Replay :=
  let progress := { r.progress with recordsRead := r.progress.recordsRead + 1 }
  match r.dispatcher.process c m r.host with
  | (.done d, dispatcher, host) => (.next, { r with progress, dispatcher, host }.succeed m d)
  | (.failed e, dispatcher, host) => (.next, { r with progress, dispatcher, host }.fail e)
  | (.crashed message, dispatcher, host) =>
    (.crashed message, { r with progress, dispatcher, host })

def isAtLimit (limit : Option Nat) (r : Replay) : Bool :=
  match limit with
  | none => false
  | some n => r.progress.recordsRead ≥ n

/-- Takes the text of a line. A line read at the limit ends the replay and is not looked at. -/
def takeLine (c : Collaborators) (limit : Option Nat) (text : String) (r : Replay) :
    Verdict × Replay :=
  if r.isAtLimit limit then
    (.finished,
      r.log .info "Reached record limit" [("max_records", toString r.progress.recordsRead)])
  else
    let record := Text.trim text.toList
    if record.isEmpty then (.next, r)
    else
      match Metric.decode (String.ofList record) with
      | .error e => (.next, r.skip e)
      | .ok m => r.takeRecord c m

/-- Reads a line, unless a shutdown was requested. -/
def advance (c : Collaborators) (limit : Option Nat) (isStopped : Nat → Bool) (r : Replay) :
    Verdict × Replay :=
  if isStopped r.lines then
    (.finished,
      { r.log .warn "Shutdown requested, stopping replay" [r.lineField] with interrupted := true })
  else
    match r.feed.nextLine r.host.store with
    | .error e => (.failed e, r)
    | .ok (none, feed) => (.finished, { r with feed })
    | .ok (some line, feed) =>
      match Feed.textOf line with
      | .error e => (.failed e, { r with feed })
      | .ok text => { r with feed, lines := r.lines + 1 }.takeLine c limit text

def run (c : Collaborators) (limit : Option Nat) (isStopped : Nat → Bool) :
    Nat → Replay → Verdict × Replay
  | 0, r => (.finished, r)
  | fuel + 1, r =>
    match r.advance c limit isStopped with
    | (.next, r) => run c limit isStopped fuel r
    | (verdict, r) => (verdict, r)

/-- More lines than a replay reads. Each line takes a byte of the input; an input that receivers
append to has more of them than it had at first, but the lines are counted in 64 bits. -/
def lineBound (f : Feed) (s : Store) : Nat := f.remaining s + UInt64.size

def report (r : Replay) (receiver : Receiver Output) : ReplayReport where
  recordsRead := r.progress.recordsRead
  malformed := r.progress.malformed
  interrupted := r.interrupted
  activeReceivers := receiver.memberCounts.length
  receivers := receiver.memberCounts
  dispatched := r.progress.dispatched

/-- Flushes the receivers after the last line, and closes them whatever has happened. -/
def finish : Verdict × Replay → Outcome ReplayFault ReplayReport × Host
  | (.failed e, r) => (.failed (.unreadable e), r.dispatcher.receiver.close r.host)
  | (.crashed m, r) => (.crashed m, r.dispatcher.receiver.close r.host)
  | (_, r) =>
    match r.dispatcher.receiver.flush r.host with
    | (.done (), receiver, h) => (.done (r.report receiver), receiver.close h)
    | (.failed e, receiver, h) => (.failed (.flush e), receiver.close h)
    | (.crashed m, receiver, h) => (.crashed m, receiver.close h)

end Replay

namespace ReplaySettings

/-- Opens the configured receivers, or one that writes to the log if there is none. -/
def openReceivers (s : ReplaySettings) (h : Host) : Except OpenFault (List Output) × Host :=
  if s.config.receivers.isEmpty then
    Output.openAll [Replay.fallback]
      (h.log .info .replay "No receivers configured, logging sources"
        [("receiver", Replay.fallback.name)])
  else Output.openAll s.config.receivers h

def openInput (s : ReplaySettings) (stdin : Bytes) (store : Store) : Except IoFault Feed :=
  if s.input = "-" then .ok (.ofBytes stdin)
  else
    match store.openRead s.input with
    | .error e => .error e
    | .ok loc => .ok (.ofFile loc)

/-- Replays the input. Before each line, `isStopped` tells from the number of lines read whether a
shutdown was requested. -/
def replay (s : ReplaySettings) (stdin : Bytes) (isStopped : Nat → Bool) (h : Host) :
    Outcome ReplayFault ReplayReport × Host :=
  match s.openReceivers h with
  | (.error e, h) => (.failed (.receivers e), h)
  | (.ok outputs, h) =>
    match Naming.ofServices s.config.services with
    | .error v => (.failed (.naming v), h)
    | .ok naming =>
      let h := h.log .info .replay "Dispatcher ready"
        [ ("receivers", toString outputs.length),
          ("naming_services", toString naming.serviceCount),
          ("naming_rules", toString naming.ruleCount) ]
      match s.openInput stdin h.store with
      | .error e => (.failed (.noInput s.input e), h)
      | .ok feed =>
        let start : Replay := ⟨feed, 0, .none, false, ⟨Output.setOf outputs, .metered⟩, h⟩
        Replay.finish
          (start.run (.ofNaming naming) s.limit isStopped (Replay.lineBound feed h.store))

end ReplaySettings

end MeshTelemetry
