import MeshTelemetry.Text.Split

/-!
# MeshTelemetry.Path

Paths as texts: their parts, what they lie in, and the extension of a file's name. Repeated slashes
do not count, nor do single dots, unless a relative path begins with one.

* `Path.parent?`, `Path.extension?`.
-/

namespace MeshTelemetry
namespace Path

def partsOf (path : String) : List String :=
  ((Text.splitAt '/' path.toList).filter fun part => !part.isEmpty).map String.ofList

def isAbsolute (path : String) : Bool := path.toList.head? = some '/'

def components (path : String) : List String :=
  match partsOf path with
  | [] => []
  | part :: rest =>
    let rest := rest.filter (· ≠ ".")
    if isAbsolute path && part = "." then rest else part :: rest

/-- The path without its last part. -/
def parent? (path : String) : Option String :=
  let parts := components path
  if parts.isEmpty then none
  else some ((if isAbsolute path then "/" else "") ++ "/".intercalate parts.dropLast)

/-- What stands before and behind the last dot of a name. -/
def splitLastDot (name : List Char) : Option (List Char × List Char) :=
  (Text.cut? '.' name.reverse).map fun (behind, before) => (before.reverse, behind.reverse)

/-- What stands behind the last dot of a file's name, unless the name begins with that dot. -/
def extension? (path : String) : Option String :=
  match (components path).getLast? with
  | none => none
  | some name =>
    if name = "." ∨ name = ".." then none
    else
      match splitLastDot name.toList with
      | some (_ :: _, behind) => some (String.ofList behind)
      | _ => none

end Path
end MeshTelemetry
