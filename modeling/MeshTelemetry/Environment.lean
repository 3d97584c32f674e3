/-!
# MeshTelemetry.Environment

Environment variables: texts by name.
-/

namespace MeshTelemetry

/-- The variables that are set, each once. -/
abbrev Environment := List (String × String)

namespace Environment

/-- The variables with one more, unless it is set already. -/
def setDefault (env : Environment) (name value : String) : Environment :=
  if (env.lookup name).isSome then env else env ++ [(name, value)]

end Environment

end MeshTelemetry
