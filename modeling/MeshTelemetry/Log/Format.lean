import MeshTelemetry.Text.Case

/-!
# MeshTelemetry.Log.Format

The formats in which the log can be written.
-/

namespace MeshTelemetry

inductive LogFormat
  | json
  | pretty
  | compact
  deriving DecidableEq, Repr

/-- A text, in small letters, that names no format of the log. -/
structure UnknownLogFormat where
  text : String
  deriving DecidableEq, Repr

def UnknownLogFormat.message (e : UnknownLogFormat) : String :=
  "unknown log format '" ++ e.text ++ "' (expected json, pretty or compact)"

namespace LogFormat

def name : LogFormat → String
  | .json => "json"
  | .pretty => "pretty"
  | .compact => "compact"

/-- The format that a text names; case does not count. -/
def ofText (text : String) : Except UnknownLogFormat LogFormat :=
  let text := text.map Text.lowerAscii
  if text = "json" then .ok .json
  else if text = "pretty" then .ok .pretty
  else if text = "compact" then .ok .compact
  else .error ⟨text⟩

end LogFormat

end MeshTelemetry
