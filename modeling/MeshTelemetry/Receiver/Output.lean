import MeshTelemetry.Config
import MeshTelemetry.Receiver
import MeshTelemetry.Receiver.Buffered
import MeshTelemetry.Source.Member

/-!
# MeshTelemetry.Receiver.Output

The receivers of the program: one that writes sources to the log, one that appends them to a file,
a line of JSON each, and one that keeps them in memory.

* `FileOutput.receive` — writes a line; `FileOutput.flush`.
* `Output.ofSettings`, `Output.openAll` — receivers by their settings.
-/

namespace MeshTelemetry

/-- An open file and the bytes on their way to it. -/
structure FileOutput where
  name : String
  location : Location
  buffer : Buffered

namespace FileOutput

/-- An open file takes bytes at its end. -/
def device (location : Location) : Device Host IoFault := fun bytes h =>
  match h.store.append location bytes with
  | (answer, store) => (answer, { h with store })

/-- Writes the text of a source piece by piece and then the line break. A failure in the text is
one of the receiver, a failure in the line break one of the file. -/
def receive (f : FileOutput) (source : Source) (h : Host) : Step FileOutput :=
  let pieces := source.toJson.pieces.map Text.encode
  match f.buffer.writeAll (device f.location) pieces h with
  | (.error e, buffer, h) => (.failed (.receiver f.name e.message), { f with buffer }, h)
  | (.ok (), buffer, h) =>
    match buffer.write (device f.location) (Text.encode "\n") h with
    | (.error e, buffer, h) => (.failed (.io e), { f with buffer }, h)
    | (.ok (), buffer, h) => (.done (), { f with buffer }, h)

def flush (f : FileOutput) (h : Host) : Step FileOutput :=
  match f.buffer.flush (device f.location) h with
  | (.error e, buffer, h) => (.failed (.io e), { f with buffer }, h)
  | (.ok (), buffer, h) =>
    (.done (), { f with buffer },
      h.log .debug .fileReceiver "FileReceiver flushed" [("receiver", f.name)])

/-- What the buffer holds is written, if that is possible. -/
def close (f : FileOutput) (h : Host) : Host := (f.buffer.flush (device f.location) h).2.2

end FileOutput

inductive Output
  | log (name : String)
  | file (f : FileOutput)
  | memory (name : String) (sources : List Source)

namespace Output

def name : Output → String
  | .log name => name
  | .file f => f.name
  | .memory name _ => name

def logSource (name : String) (source : Source) (h : Host) : Host :=
  h.log .info .logReceiver "Source received"
    [ ("receiver", name), ("kind", source.kind.name),
      ("time_bucket", toString source.timeBucket.toInt), ("source", source.shown) ]

def receive : Output → Source → Host → Step Output
  | .log name, source, h => (.done (), .log name, logSource name source h)
  | .file f, source, h =>
    match f.receive source h with
    | (o, f, h) => (o, .file f, h)
  | .memory name sources, source, h => (.done (), .memory name (sources ++ [source]), h)

def flush : Output → Host → Step Output
  | .file f, h =>
    match f.flush h with
    | (o, f, h) => (o, .file f, h)
  | output, h => (.done (), output, h)

def close : Output → Host → Host
  | .file f, h => f.close h
  | _, h => h

instance : Sink Output := ⟨name, receive, flush, close⟩

/-- Where a file receiver writes to if its settings do not say it. -/
def defaultPath : String := "./sources.jsonl"

def pathOf (params : List (String × String)) : String := (params.lookup "path").getD defaultPath

/-- Opens a file to append to it, and creates the directories that it lies in. -/
def openFile (name path : String) (h : Host) : Except IoFault Output × Host :=
  match Store.makeParents h.store path with
  | (.error e, store) => (.error e, { h with store })
  | (.ok (), store) =>
    match store.openAppend path with
    | .error e => (.error e, { h with store })
    | .ok (location, store) => (.ok (.file ⟨name, location, .empty⟩), { h with store })

def ofSettings (settings : ReceiverSettings) (h : Host) : Except OpenFault Output × Host :=
  match settings.type with
  | .log => (.ok (.log settings.name), h)
  | .file =>
    match openFile settings.name (pathOf settings.params) h with
    | (.error e, h) => (.error ⟨settings.name, e⟩, h)
    | (.ok output, h) => (.ok output, h)

/-- Opens receivers in order, up to the first that cannot be opened. -/
def openAll : List ReceiverSettings → Host → Except OpenFault (List Output) × Host
  | [], h => (.ok [], h)
  | settings :: rest, h =>
    match ofSettings settings h with
    | (.error e, h) => (.error e, h)
    | (.ok output, h) =>
      match openAll rest h with
      | (.error e, h) => (.error e, h)
      | (.ok outputs, h) => (.ok (output :: outputs), h)

def setOf (outputs : List Output) : Receiver Output :=
  .set "receivers" (.ofList (outputs.map .sink))

end Output

end MeshTelemetry
