import MeshTelemetry.Regex.Unicode.Age
import MeshTelemetry.Regex.Unicode.Folding
import MeshTelemetry.Regex.Unicode.ScriptExtension
import MeshTelemetry.Regex.Unicode.Segmentation
import MeshTelemetry.Regex.Unicode.Word
import MeshTelemetry.Text.Case
import MeshTelemetry.Text.Split

/-!
# MeshTelemetry.Regex.Unicode

Character sets by the name of a property: binary properties, general categories, scripts, script
extensions, ages and the classes of segmentation. Names are compared loosely: case, blanks,
hyphens, underscores and a leading `is` do not count.
-/

namespace MeshTelemetry
namespace Regex
namespace Unicode

def wordSet : CharSet := Text.Ranges.ofRows wordRows

def digitSet : CharSet := categorySet "Nd"

def blankSet : CharSet := propertySet "White_Space"

def isSeparator (c : Char) : Bool := c = ' ' || c = '_' || c = '-'

def significant (cs : List Char) : List Char :=
  (cs.filter fun c => !isSeparator c && c.toNat < 128).map Text.lowerAscii

/-- The loose form of a name. The name `isc` is no abbreviation of `c`. -/
def loose (name : String) : String :=
  match name.toList with
  | a :: b :: rest =>
    if Text.lowerAscii a = 'i' && Text.lowerAscii b = 's' then
      let rest := significant rest
      if rest = ['c'] then "isc" else String.ofList rest
    else String.ofList (significant (a :: b :: rest))
  | cs => String.ofList (significant cs)

/-- The set of a general category or group of them, by loose name. -/
def category? (name : String) : Option CharSet :=
  if name = "any" then some CharSet.everything
  else if name = "ascii" then some [(0, 127)]
  else if name = "assigned" then some (CharSet.complement (categorySet "Cn"))
  else
    match categoryNames.lookup name with
    | none => none
    | some short =>
      match categoryGroups.lookup short with
      | some members => some (categoriesSet members)
      | none => some (categorySet short)

def script? (name : String) : Option CharSet :=
  (scriptNames.lookup name).map scriptSet

def scriptExtension? (name : String) : Option CharSet :=
  match scriptNames.lookup name with
  | none => none
  | some full =>
    match restrictedTable.lookup full with
    | some rows => some (Text.Ranges.ofRows rows)
    | none => some (CharSet.union (scriptSet full) (ofTable extensionTable full))

def property? (name : String) : Option CharSet :=
  (propertyNames.lookup name).map propertySet

/-- The characters that had been assigned by a version of the standard, by its loose name. -/
def age? (name : String) : Option CharSet :=
  match ageTable.findIdx? fun ((short, long), _) => name = short ∨ name = long with
  | none => none
  | some i => some
    (CharSet.ofRanges ((ageTable.take (i + 1)).flatMap fun (_, rows) => Text.Ranges.ofRows rows))

/-- The set of a name that stands alone: a binary property, a category or a script. -/
def named? (name : String) : Option CharSet :=
  let name := loose name
  match property? name with
  | some s => some s
  | none =>
    match category? name with
    | some s => some s
    | none => script? name

/-- The set of the characters for which the property has the value. -/
def valued? (property value : String) : Option CharSet :=
  let property := loose property
  let value := loose value
  if property = "gc" || property = "generalcategory" then category? value
  else if property = "sc" || property = "script" then script? value
  else if property = "scx" || property = "scriptextensions" then scriptExtension? value
  else if property = "age" then age? value
  else if property = "gcb" || property = "graphemeclusterbreak" then Grapheme.named? value
  else if property = "wb" || property = "wordbreak" then Word.named? value
  else if property = "sb" || property = "sentencebreak" then Sentence.named? value
  else none

def foldingOfWords : List (List Char) → Option CharSet.Folding
  | [a, b, c, d] =>
    let number (cs : List Char) : Nat := cs.foldl
      (fun n c => n * 16 + (if c.toNat < 58 then c.toNat - 48 else c.toNat - 87)) 0
    some ⟨number a, number b, number c, number d⟩
  | _ => none

def foldings : List CharSet.Folding :=
  foldingRows.flatMap fun row =>
    (Text.splitAt ' ' row.toList).filterMap fun entry => foldingOfWords (Text.splitAt ',' entry)

/-- Case folding of the ASCII letters only. -/
def asciiFoldings : List CharSet.Folding := [⟨0x41, 0x5a, 1, 0x20⟩]

end Unicode
end Regex
end MeshTelemetry
