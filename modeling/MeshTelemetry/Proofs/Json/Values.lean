import MeshTelemetry.Proofs.Document.Decoder
import MeshTelemetry.Proofs.Json.Completeness

/-!
# MeshTelemetry.Proofs.Json.Values

Which values of a JSON text the decoders of single values take, and as what.

* `Tree.text?`, `Tree.integer?`, `Tree.flag?`, `Tree.name?`: what a value is, by its spelling.
* `Decoder.text_document` and its companions: each decoder takes exactly these values.
-/

namespace MeshTelemetry

namespace Json.Tree

/-- Every value is read to its end, also one that stands for nothing. -/
theorem isWhole_document (t : Tree) : t.document.isWhole = true := by
  cases t with
  | number n =>
    obtain ⟨z, h⟩ | ⟨spelling, h⟩ | h := n.numberDocument_cases <;> rw [document, h] <;> rfl
  | text glyphs => cases h : meaning glyphs <;> rw [document, h] <;> rfl
  | _ => rfl

/-- The names of the members of an object, and their values. -/
def named (members : List (Item (List Glyph) × Item Tree)) : List (Option String × Tree) :=
  members.map fun (name, value) => (meaning name.value, value.value)

/-- What a reader finds of named values. -/
def found (members : List (Option String × Tree)) : List (Option String × Document) :=
  members.map fun (name, t) => (name, t.document)

theorem memberDocuments_eq (members : List (Item (List Glyph) × Item Tree)) :
    memberDocuments members = found (named members) := by
  induction members with
  | nil => rfl
  | cons member members ih => rw [memberDocuments, ih, named, named, found, found, List.map_cons,
      List.map_cons]

def text? : Tree → Option String
  | .text glyphs => meaning glyphs
  | _ => none

/-- A number with a point or an exponent is no integer, and neither is a negative zero. -/
def integer? : Tree → Option Int
  | .number n => n.integer?
  | _ => none

def int64? (t : Tree) : Option Int64 :=
  (t.integer?.filter fun z => Int64.minValue.toInt ≤ z ∧ z ≤ Int64.maxValue.toInt).map Int64.ofInt

def int32? (t : Tree) : Option Int32 :=
  (t.integer?.filter fun z => Int32.minValue.toInt ≤ z ∧ z ≤ Int32.maxValue.toInt).map Int32.ofInt

def flag? : Tree → Option Bool
  | .bool b => some b
  | _ => none

/-- A name stands alone, or as the name of the only member of an object, which is `null`. -/
def name? : Tree → Option String
  | .text glyphs => meaning glyphs
  | .object _ [(⟨_, glyphs, _⟩, ⟨_, .null, _⟩)] => meaning glyphs
  | _ => none

section Documents

variable {t : Tree}

theorem document_eq_null : t.document = .null ↔ t = .null := by
  cases t with
  | number n =>
    obtain ⟨z, h⟩ | ⟨spelling, h⟩ | h := n.numberDocument_cases <;> simp [document, h]
  | text glyphs => cases h : meaning glyphs <;> simp [document, h]
  | _ => simp [document]

theorem document_eq_bool {b : Bool} : t.document = .bool b ↔ t.flag? = some b := by
  cases t with
  | number n =>
    obtain ⟨z, h⟩ | ⟨spelling, h⟩ | h := n.numberDocument_cases <;> simp [document, flag?, h]
  | text glyphs => cases h : meaning glyphs <;> simp [document, flag?, h]
  | _ => simp [document, flag?]

theorem document_eq_text {s : String} : t.document = .text s ↔ t.text? = some s := by
  cases t with
  | number n =>
    obtain ⟨z, h⟩ | ⟨spelling, h⟩ | h := n.numberDocument_cases <;> simp [document, text?, h]
  | text glyphs => cases h : meaning glyphs <;> simp [document, text?, h]
  | _ => simp [document, text?]

theorem document_eq_int {z : Int} : t.document = .int z ↔ t.integer? = some z ∧ InRange z := by
  cases t with
  | number n => exact n.numberDocument_eq_int
  | text glyphs => cases h : meaning glyphs <;> simp [document, integer?, h]
  | _ => simp [document, integer?]

theorem document_eq_name {name : String} :
    (t.document = .text name ∨ t.document = .map [(some name, .null)] true) ↔
      t.name? = some name := by
  match t with
  | .object _ [(⟨_, glyphs, _⟩, ⟨_, t, _⟩)] =>
    -- only `null` is read as `null`, so the member is looked at before its value is
    rw [document, memberDocuments, memberDocuments]
    simp only [reduceCtorEq, Document.map.injEq, List.cons.injEq, Prod.mk.injEq, document_eq_null,
      and_true, false_or]
    cases t with
    | null => simp [name?]
    | _ => simp [name?]
  | .object _ [] => simp [document, memberDocuments, name?]
  | .object _ (_ :: _ :: _) => simp [document, memberDocuments, name?]
  | .number n =>
    obtain ⟨z, h⟩ | ⟨spelling, h⟩ | h := n.numberDocument_cases <;> simp [document, name?, h]
  | .text glyphs => cases h : meaning glyphs <;> simp [document, name?, h]
  | .null | .bool _ | .list _ _ => simp [document, name?]

theorem int64?_eq_some {n : Int64} : t.int64? = some n ↔ t.integer? = some n.toInt := by
  simp only [int64?, Option.map_eq_some_iff, Option.filter_eq_some_iff, decide_eq_true_eq]
  constructor
  · rintro ⟨z, ⟨hz, hlow, hhigh⟩, rfl⟩
    rw [hz, Int64.toInt_ofInt_of_le hlow (Int.lt_add_one_of_le hhigh)]
  · intro h
    exact ⟨n.toInt, ⟨h, n.minValue_le_toInt, n.toInt_le⟩, n.ofInt_toInt⟩

theorem int32?_eq_some {n : Int32} : t.int32? = some n ↔ t.integer? = some n.toInt := by
  simp only [int32?, Option.map_eq_some_iff, Option.filter_eq_some_iff, decide_eq_true_eq]
  constructor
  · rintro ⟨z, ⟨hz, hlow, hhigh⟩, rfl⟩
    rw [hz, Int32.toInt_ofInt_of_le hlow (Int.lt_add_one_of_le hhigh)]
  · intro h
    exact ⟨n.toInt, ⟨h, n.minValue_le_toInt, n.toInt_le⟩, n.ofInt_toInt⟩

end Documents

end Json.Tree

namespace Json

/-- The text of an object with white space around it. -/
def objectText (before inner : Blanks) (members : List (Item (List Glyph) × Item Tree))
    (after : Blanks) : String :=
  Item.text ⟨before, .object inner members, after⟩

/-- The glyphs of a text that needs no escapes. -/
def plain (s : String) : List Glyph :=
  s.toList.filterMap fun c =>
    if h : 0x20 ≤ c.toNat ∧ c ≠ '"' ∧ c ≠ '\\' then some (.plain c h) else none

/-- A member without white space. -/
def bare (name : List Glyph) (value : Tree) : Item (List Glyph) × Item Tree :=
  (⟨[], name, []⟩, ⟨[], value, []⟩)

end Json

namespace Decoder

open Json

variable {t : Tree}

theorem text_document {s : String} : text t.document = .ok s ↔ t.text? = some s :=
  text_eq_ok.trans Tree.document_eq_text

theorem flag_document {b : Bool} : flag t.document = .ok b ↔ t.flag? = some b :=
  flag_eq_ok.trans Tree.document_eq_bool

theorem int64_document {n : Int64} : int64 t.document = .ok n ↔ t.int64? = some n := by
  rw [int64_eq_ok, Tree.document_eq_int, Tree.int64?_eq_some, and_iff_left (inRange_int64 n)]

theorem int32_document {n : Int32} : int32 t.document = .ok n ↔ t.int32? = some n := by
  rw [int32_eq_ok, Tree.document_eq_int, Tree.int32?_eq_some, and_iff_left (inRange_int32 n)]

theorem named_document {α : Type} {names : Names α} {meant : String → α}
    (h : ∀ name, names.find name = .ok (meant name)) {a : α} :
    named .json names t.document = .ok a ↔ t.name?.map meant = some a := by
  simp only [named_eq_ok, Tree.document_eq_name, h, Except.ok.injEq, Option.map_eq_some_iff]

end Decoder
end MeshTelemetry
