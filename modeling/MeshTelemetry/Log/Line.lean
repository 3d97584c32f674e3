import MeshTelemetry.Host
import MeshTelemetry.Json.Text
import MeshTelemetry.Log.Format

/-!
# MeshTelemetry.Log.Line

Entries of the log as text: a JSON object, or the message with its fields, on one line or on a
line each.

* `Event.shown` — an entry in a format.
-/

namespace MeshTelemetry
namespace Event

def toJson (e : Event) : Json :=
  .object
    [ ("level", .text e.level.name),
      ("fields", .object (("message", .text e.message) :: e.fields.map fun (k, v) => (k, .text v))),
      ("target", .text e.component.path) ]

def headline (e : Event) : String := e.level.name ++ " " ++ e.component.path ++ ": " ++ e.message

/-- The fields, each behind a separator. -/
def fieldsText (separator : String) (e : Event) : String :=
  String.join (e.fields.map fun (k, v) => separator ++ k ++ "=" ++ v)

/-- An entry in a format, with its line break. -/
def shown (e : Event) : LogFormat → String
  | .json => e.toJson.compact ++ "\n"
  | .pretty => e.headline ++ e.fieldsText "\n    " ++ "\n"
  | .compact => e.headline ++ e.fieldsText " " ++ "\n"

end Event
end MeshTelemetry
