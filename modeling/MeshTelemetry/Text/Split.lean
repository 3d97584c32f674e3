/-!
# MeshTelemetry.Text.Split

Splitting at a character.
-/

namespace MeshTelemetry
namespace Text

/-- The parts of a text between the places where `sep` stands: one more than there are places. -/
def splitAt (sep : Char) : List Char → List (List Char)
  | [] => [[]]
  | c :: cs =>
    if c = sep then [] :: splitAt sep cs
    else
      match splitAt sep cs with
      | [] => [[c]]
      | part :: parts => (c :: part) :: parts

/-- What stands before the first place of `sep` and what stands behind it, if there is one. -/
def cut? (sep : Char) : List Char → Option (List Char × List Char)
  | [] => none
  | c :: cs => if c = sep then some ([], cs) else (cut? sep cs).map fun (a, b) => (c :: a, b)

end Text
end MeshTelemetry
