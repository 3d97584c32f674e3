import MeshTelemetry.Regex.CharSet
import MeshTelemetry.Regex.Unicode.Category
import MeshTelemetry.Regex.Unicode.Property
import MeshTelemetry.Regex.Unicode.Script

/-!
# MeshTelemetry.Regex.Unicode.Table

The sets that the tables give for the full name of a binary property or a script, or for the short
name of a general category.
-/

namespace MeshTelemetry
namespace Regex
namespace Unicode

def ofTable (table : List (String × List String)) (name : String) : CharSet :=
  match table.lookup name with
  | some rows => Text.Ranges.ofRows rows
  | none => []

def categorySet (name : String) : CharSet := ofTable categoryTable name

def categoriesSet (names : List String) : CharSet := CharSet.ofRanges (names.flatMap categorySet)

def propertySet (name : String) : CharSet := ofTable propertyTable name

def scriptSet (name : String) : CharSet := ofTable scriptTable name

end Unicode
end Regex
end MeshTelemetry
