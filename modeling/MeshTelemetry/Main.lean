import MeshTelemetry.Log.Line
import MeshTelemetry.Program

/-!
# MeshTelemetry.Main

The command line. What a run may need of the environment, the files and standard input is taken
in; the program runs on that; and what it wrote is put out.
-/

namespace MeshTelemetry

def absolutePath (loc : Location) : String := "/" ++ "/".intercalate loc

/-- Takes in what stands at a location in a directory, if anything does. What is there and has no
bytes to be read is a directory. -/
def lookAt (s : Store) (loc : Location) : IO Store := do
  if (s.node? loc).isSome then
    pure s
  else
    try
      let bytes ← IO.FS.readBinFile (absolutePath loc)
      pure (s.put loc (.file (.ofBytes bytes.toList)))
    catch
      | .inappropriateType .. => pure (s.put loc .directory)
      | _ => pure s

/-- Takes in what stands on the way along the parts of a path, and at its end. -/
def lookAlong (s : Store) (loc : Location) : List String → IO Store
  | [] => pure s
  | part :: rest =>
    if part = "." then lookAlong s loc rest
    else if part = ".." then lookAlong s loc.dropLast rest
    else do
      let s ← lookAt s (loc ++ [part])
      match s.node? (loc ++ [part]) with
      | some .directory => lookAlong s (loc ++ [part]) rest
      | _ => pure s

def takeIn (s : Store) (path : String) : IO Store :=
  lookAlong s (if Path.isAbsolute path then [] else s.home) (Path.partsOf path)

def inputPaths : Command → List String
  | .process o => o.input :: o.config.toList
  | .validate o => [o.config]
  | .info o => [o.config]

def outputPaths (s : Store) : Command → List String
  | .process o =>
    match o.config.map (Config.loadFile s) with
    | some (.ok c) => c.receivers.map fun r => Output.pathOf r.params
    | _ => []
  | _ => []

def readsStandardInput : Command → Bool
  | .process o => o.input = "-" && !o.dryRun
  | _ => false

/-- Puts out a directory that is new, or what a file has more than before. -/
def putOut (before : Store) : Location × Node → IO Unit
  | (loc, .directory) =>
    if (before.node? loc).isSome then pure () else IO.FS.createDir (absolutePath loc)
  | (loc, .file content) => do
    let known :=
      match before.node? loc with
      | some (.file content) => some content.bytes.length
      | _ => none
    if known = some content.bytes.length then
      pure ()
    else
      let handle ← IO.FS.Handle.mk (absolutePath loc) .append
      handle.write ⟨(content.bytes.drop (known.getD 0)).toArray⟩
  | _ => pure ()

/-- The variable that a text such as `NAME=value` stands for. -/
def variableOf? (text : List Char) : Option (String × String) :=
  (Text.cut? '=' text).map fun (name, value) => (String.ofList name, String.ofList value)

def readEnvironment : IO Environment := do
  try
    let bytes ← IO.FS.readBinFile "/proc/self/environ"
    let text := (Text.decode? bytes.toList).getD ""
    pure ((Text.splitAt (Char.ofNat 0) text.toList).filterMap variableOf?)
  catch _ => pure []

/-- Sets the variables of the file `.env` in the first of some directories that has one. -/
def loadNearest (env : Environment) : List Location → IO Environment
  | [] => pure env
  | loc :: rest => do
    try
      let bytes ← IO.FS.readBinFile (absolutePath (loc ++ [".env"]))
      pure (EnvFile.load env bytes.toList)
    catch _ => loadNearest env rest

/-- Runs a command; returns the exit code. -/
def runInvocation (i : Invocation) (env : Environment) (home : Location) : IO UInt32 := do
  let store ← (inputPaths i.command).foldlM takeIn (.initial home)
  let store ← (outputPaths store i.command).foldlM takeIn store
  let stdin ←
    if readsStandardInput i.command then (← IO.getStdin).readBinToEnd else pure .empty
  let begun ← IO.monoNanosNow
  let (stage, host) ←
    IO.lazyPure fun _ => i.start stdin.toList (fun _ => false) (.withStore store)
  let ended ← IO.monoNanosNow
  let ending := Ending.ofStage stage (ended - begun) host
  ending.host.store.nodes.forM (putOut store)
  (ending.entries (i.filter env)).forM fun e => IO.eprint (e.shown i.logFormat)
  IO.print ending.output
  if !ending.failure.isEmpty then
    IO.eprintln ("Error: " ++ ": ".intercalate ending.failure)
  pure ending.exitCode.toUInt32

end MeshTelemetry

open MeshTelemetry in
def main (words : List String) : IO UInt32 := do
  let home := Path.partsOf (toString (← IO.currentDir))
  let env ← loadNearest (← readEnvironment) ((Store.trail home).reverse ++ [[]])
  match Invocation.parse env words with
  | .error e =>
    IO.eprintln e.message
    pure e.exitCode.toUInt32
  | .ok i => runInvocation i env home
