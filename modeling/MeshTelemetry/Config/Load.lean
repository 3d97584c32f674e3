import MeshTelemetry.Config.Codec
import MeshTelemetry.Config.Validation
import MeshTelemetry.Store
import MeshTelemetry.Text.Case
import MeshTelemetry.Toml.Reader

/-!
# MeshTelemetry.Config.Load

Loading configurations. A text in one of two formats is read, decoded and validated; the format of
a file follows from its extension.

* `Config.load` — from a text; `Config.loadFile` — from a file.
-/

namespace MeshTelemetry

inductive ConfigFormat
  | toml
  | json
  deriving DecidableEq, Repr

namespace ConfigFormat

/-- The format of files with an extension. Case does not count; no character beyond ASCII has one
of the letters of these names as its lower case. -/
def ofExtension? (extension : String) : Option ConfigFormat :=
  let name := extension.map Text.lowerAscii
  if name = "toml" then some .toml else if name = "json" then some .json else none

def ofPath (path : String) : Except ConfigFault ConfigFormat :=
  match Path.extension? path with
  | none => .error .noExtension
  | some extension =>
    match ofExtension? extension with
    | none => .error (.unknownExtension extension)
    | some format => .ok format

end ConfigFormat

namespace Config

def parse : ConfigFormat → String → Except ConfigFault Config
  | .toml, text => (Toml.decode (decoder .toml) text).mapError .toml
  | .json, text => (Json.decode (decoder .json) text).mapError .json

def load (format : ConfigFormat) (text : String) : Except Fault Config :=
  match parse format text with
  | .error e => .error (.config e)
  | .ok c =>
    match validate c with
    | .error v => .error (.violation v)
    | .ok () => .ok c

def loadFile (s : Store) (path : String) : Except Fault Config :=
  match ConfigFormat.ofPath path with
  | .error e => .error (.config e)
  | .ok format =>
    match s.readText path with
    | .error e => .error (.io e)
    | .ok text => load format text

end Config

end MeshTelemetry
