import MeshTelemetry.Document

/-!
# MeshTelemetry.Toml.Table

Tables under construction. How a table came about decides what may be added to it later: a header
may complete a table that exists only as the parent of another one, dotted keys may add only to
tables made by dotted keys, and a table in braces is complete.

* `Members.assign` — the value of a dotted key.
* `Members.openTable`, `Members.openElement` — headers.
* `Members.within` — the table that a header has opened.
-/

namespace MeshTelemetry
namespace Toml

/-- How a table came about. -/
inductive Origin
  | header
  | parent
  | dotted
  | braces
  deriving DecidableEq, Repr

/-- A value under construction; `tables` are the elements that headers in double brackets opened. -/
inductive Item
  | leaf (d : Document)
  | array (items : List Item)
  | table (origin : Origin) (members : List (String × Item))
  | tables (elements : List (List (String × Item)))

abbrev Members := List (String × Item)

namespace Members

def replace (key : String) (item : Item) (ms : Members) : Members :=
  ms.map fun (k, v) => if k = key then (k, item) else (k, v)

def add (key : String) (item : Item) (ms : Members) : Option Members :=
  match ms.lookup key with
  | some _ => none
  | none => some (ms ++ [(key, item)])

/-- Gives a value to a dotted key, `path` in front of `key`. -/
def assign (key : String) (item : Item) : List String → Members → Option Members
  | [], ms => ms.add key item
  | part :: path, ms =>
    match ms.lookup part with
    | none => (assign key item path []).map fun inner => ms ++ [(part, .table .dotted inner)]
    | some (.table .dotted inner) =>
      (assign key item path inner).map fun inner => ms.replace part (.table .dotted inner)
    | some (.table .parent inner) =>
      if path.isEmpty then none
      else (assign key item path inner).map fun inner => ms.replace part (.table .parent inner)
    | some (.tables elements) =>
      if path.isEmpty then none
      else
        match elements.getLast? with
        | none => none
        | some last =>
          (assign key item path last).map fun last =>
            ms.replace part (.tables (elements.dropLast ++ [last]))
    | some _ => none

/-- Follows the path of a header and changes the members found there. -/
def within (change : Members → Option Members) : List String → Members → Option Members
  | [], ms => change ms
  | part :: path, ms =>
    match ms.lookup part with
    | none => (within change path []).map fun inner => ms ++ [(part, .table .parent inner)]
    | some (.table .braces _) => none
    | some (.table origin inner) =>
      (within change path inner).map fun inner => ms.replace part (.table origin inner)
    | some (.tables elements) =>
      match elements.getLast? with
      | none => none
      | some last =>
        (within change path last).map fun last =>
          ms.replace part (.tables (elements.dropLast ++ [last]))
    | some _ => none

def openTable (key : String) (ms : Members) : Option Members :=
  match ms.lookup key with
  | none => some (ms ++ [(key, .table .header [])])
  | some (.table .parent inner) => some (ms.replace key (.table .header inner))
  | some _ => none

/-- Opens one more element of an array of tables. -/
def openElement (key : String) (ms : Members) : Option Members :=
  match ms.lookup key with
  | none => some (ms ++ [(key, .tables [[]])])
  | some (.tables elements) => some (ms.replace key (.tables (elements ++ [[]])))
  | some _ => none

/-- Puts a member where its key belongs in the order of the keys. -/
def insertSorted (key : String) (d : Document) :
    List (Option String × Document) → List (Option String × Document)
  | [] => [(some key, d)]
  | (k, v) :: rest =>
    if k.getD "" < key then (k, v) :: insertSorted key d rest else (some key, d) :: (k, v) :: rest

end Members

mutual

/-- The document of a finished value. The members of a table are read in the order of their
keys. -/
def Item.document : Item → Document
  | .leaf d => d
  | .array items => .seq (documents items) true
  | .table _ members => .map (memberDocuments members) true
  | .tables elements => .seq (tableDocuments elements) true

def documents : List Item → List Document
  | [] => []
  | item :: rest => item.document :: documents rest

def memberDocuments : List (String × Item) → List (Option String × Document)
  | [] => []
  | (key, item) :: rest => Members.insertSorted key item.document (memberDocuments rest)

def tableDocuments : List (List (String × Item)) → List Document
  | [] => []
  | members :: rest => .map (memberDocuments members) true :: tableDocuments rest

end

end Toml
end MeshTelemetry
