import MeshTelemetry.Fault
import MeshTelemetry.Pairs
import MeshTelemetry.Path
import MeshTelemetry.Store.Content
import MeshTelemetry.Store.Shortage

/-!
# MeshTelemetry.Store

Files and directories. A path is followed from the working directory, or from the root if it
begins with a slash; every part but the last must lead to a directory.

* `Store.locate` — where a path leads.
* `Store.openAppend`, `Store.openRead`, `Store.createDir`, `Store.makeDirs` — what a program may do
  with a path.
* `Store.append`, `Store.content` — what it may do with an open file.
-/

namespace MeshTelemetry

/-- The names on the way from the root. -/
abbrev Location := List String

/-- What stands at a location. The null device takes everything and holds nothing; the full
device takes nothing. -/
inductive Node
  | file (content : Content)
  | directory
  | nullDevice
  | fullDevice
  deriving DecidableEq, Repr

/-- What stands where. The working directory is `home`, and writes to files may find too little room
for their bytes. -/
structure Store where
  home : Location
  nodes : List (Location × Node)
  shortages : Shortages
  deriving DecidableEq, Repr

/-- The last part of a path. -/
inductive LastPart
  | named (name : String) (slash : Bool)
  | dots
  deriving DecidableEq, Repr

namespace Store

/-- The directories that a location lies in, from the outermost, and the location itself. -/
def trail : Location → List Location
  | [] => []
  | name :: rest => [name] :: (trail rest).map (name :: ·)

/-- Nothing but the devices and the way to the working directory, and room for everything. -/
def initial (home : Location) : Store where
  home := home
  nodes :=
    (["dev"], .directory) :: (["dev", "null"], .nullDevice) :: (["dev", "full"], .fullDevice) ::
      (trail home).map (·, .directory)
  shortages := []

/-- What stands at a location; the root is a directory. -/
def node? (s : Store) (loc : Location) : Option Node :=
  if loc = [] then some .directory else s.nodes.lookup loc

def put (s : Store) (loc : Location) (node : Node) : Store :=
  { s with nodes := Pairs.assign loc node s.nodes }

/-- The longest name of a file, in bytes. -/
def nameLimit : Nat := 255

def checkName (name : String) : Except IoFault Unit :=
  if name.utf8ByteSize > nameLimit then .error .nameTooLong else .ok ()

/-- The longest path, in bytes. -/
def pathLimit : Nat := 4095

/-- Follows one part of a path from a directory into another one. -/
def enter (s : Store) (loc : Location) (part : String) : Except IoFault Location :=
  if part = "." then .ok loc
  else if part = ".." then .ok loc.dropLast
  else
    match checkName part with
    | .error e => .error e
    | .ok () =>
      let next := loc ++ [part]
      match s.node? next with
      | none => .error .notFound
      | some .directory => .ok next
      | some _ => .error .notDirectory

/-- Follows all parts but the last. -/
def walk (s : Store) (slash : Bool) : Location → List String → Except IoFault (Location × LastPart)
  | loc, [] => .ok (loc, .dots)
  | loc, [part] =>
    if part = "." ∨ part = ".." then
      match s.enter loc part with
      | .error e => .error e
      | .ok next => .ok (next, .dots)
    else
      match checkName part with
      | .error e => .error e
      | .ok () => .ok (loc, .named part slash)
  | loc, part :: rest =>
    match s.enter loc part with
    | .error e => .error e
    | .ok next => s.walk slash next rest

/-- The directory that a path leads into, and its last part. -/
def locate (s : Store) (path : String) : Except IoFault (Location × LastPart) :=
  let cs := path.toList
  if cs.isEmpty then .error .notFound
  else if cs.contains (Char.ofNat 0) then .error .nulInName
  else if path.utf8ByteSize > pathLimit then .error .nameTooLong
  else
    s.walk (cs.getLast? = some '/') (if Path.isAbsolute path then [] else s.home) (Path.partsOf path)

def find (s : Store) (path : String) : Except IoFault (Location × Node) :=
  match s.locate path with
  | .error e => .error e
  | .ok (loc, .dots) => .ok (loc, .directory)
  | .ok (loc, .named name slash) =>
    match s.node? (loc ++ [name]) with
    | none => .error .notFound
    | some .directory => .ok (loc ++ [name], .directory)
    | some node => if slash then .error .notDirectory else .ok (loc ++ [name], node)

/-- Opens a file to append to it; a file that does not exist is created. -/
def openAppend (s : Store) (path : String) : Except IoFault (Location × Store) :=
  match s.locate path with
  | .error e => .error e
  | .ok (_, .dots) => .error .isDirectory
  | .ok (loc, .named name slash) =>
    if slash then .error .isDirectory
    else
      match s.node? (loc ++ [name]) with
      | none => .ok (loc ++ [name], s.put (loc ++ [name]) (.file .empty))
      | some .directory => .error .isDirectory
      | some _ => .ok (loc ++ [name], s)

def openRead (s : Store) (path : String) : Except IoFault Location := (s.find path).map (·.1)

def createDir (s : Store) (path : String) : Except IoFault Store :=
  match s.locate path with
  | .error e => .error e
  | .ok (_, .dots) => .error .alreadyExists
  | .ok (loc, .named name _) =>
    match s.node? (loc ++ [name]) with
    | none => .ok (s.put (loc ++ [name]) .directory)
    | some _ => .error .alreadyExists

def isDirectory (s : Store) (path : String) : Bool :=
  match s.find path with
  | .ok (_, .directory) => true
  | _ => false

def isPresent (s : Store) (path : String) : Bool :=
  match s.find path with
  | .ok _ => true
  | .error _ => false

/-- Makes a directory if there is none, after those it lies in. What was made stays, also if another
one cannot be. -/
def makeDirs : Nat → Store → String → Except IoFault Unit × Store
  | 0, s, _ => (.error .notFound, s)
  | fuel + 1, s, path =>
    if path.isEmpty then (.ok (), s)
    else
      match s.createDir path with
      | .ok s => (.ok (), s)
      | .error .notFound =>
        match Path.parent? path with
        | none => (.error .notFound, s)
        | some up =>
          match makeDirs fuel s up with
          | (.error e, s) => (.error e, s)
          | (.ok (), s) =>
            match s.createDir path with
            | .ok s => (.ok (), s)
            | .error e => (if s.isDirectory path then .ok () else .error e, s)
      | .error e => (if s.isDirectory path then .ok () else .error e, s)

/-- Makes the directories that a path lies in. -/
def makeParents (s : Store) (path : String) : Except IoFault Unit × Store :=
  match Path.parent? path with
  | none => (.ok (), s)
  | some up => makeDirs (path.length + 1) s up

/-- The store with all directories that a path lies in, if they can be made. -/
def createParents (s : Store) (path : String) : Except IoFault Store :=
  match s.makeParents path with
  | (.error e, _) => .error e
  | (.ok (), s) => .ok s

/-- Appends bytes to an open file, or as many of them as there is room for. A failure tells how many
these are. -/
def append (s : Store) (loc : Location) (bytes : Bytes) : Except (IoFault × Nat) Unit × Store :=
  match s.node? loc with
  | some (.file content) =>
    (s.shortages.answer bytes,
      { s.put loc (.file (content.append (s.shortages.taken bytes))) with
        shortages := s.shortages.tail })
  | some .fullDevice => (if bytes.isEmpty then .ok () else .error (.noSpace, 0), s)
  | some .nullDevice => (.ok (), s)
  | some .directory => (.error (.isDirectory, 0), s)
  | none => (.ok (), s)

/-- All bytes of an open file. -/
def content (s : Store) (loc : Location) : Except IoFault Bytes :=
  match s.node? loc with
  | some (.file content) => .ok content.bytes
  | some .directory => .error .isDirectory
  | _ => .ok []

/-- All bytes of the file that a path leads to. -/
def read (s : Store) (path : String) : Except IoFault Bytes :=
  match s.openRead path with
  | .error e => .error e
  | .ok loc => s.content loc

def readText (s : Store) (path : String) : Except IoFault String :=
  match s.read path with
  | .error e => .error e
  | .ok bytes =>
    match Text.decode? bytes with
    | none => .error .notText
    | some text => .ok text

end Store

end MeshTelemetry
