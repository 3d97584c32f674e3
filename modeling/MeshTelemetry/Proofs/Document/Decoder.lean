import MeshTelemetry.Document.Decoder

/-!
# MeshTelemetry.Proofs.Document.Decoder

Which documents the decoders of single values take: one shape each, and a named choice two.

* `Decoder.text_eq_ok`, `Decoder.flag_eq_ok`, `Decoder.integer_eq_ok` and its two widths.
* `Decoder.named_eq_ok`: named choices, as JSON text has them.
-/

namespace MeshTelemetry
namespace Decoder

section Results

variable {α : Type} {r : Except DecodeError α}

theorem map_eq_ok {β : Type} {f : α → β} {b : β} :
    r.map f = .ok b ↔ ∃ a, r = .ok a ∧ f a = b := by
  cases r <;> simp [Except.map]

theorem toOption_eq_some {a : α} : r.toOption = some a ↔ r = .ok a := by
  cases r <;> simp [Except.toOption]

end Results

variable {d : Document}

theorem text_eq_ok {s : String} : text d = .ok s ↔ d = .text s := by
  cases d <;> simp [text]

theorem flag_eq_ok {b : Bool} : flag d = .ok b ↔ d = .bool b := by
  cases d <;> simp [flag]

theorem integer_eq_ok {low high : Int} {expected : String} {z : Int} :
    integer low high expected d = .ok z ↔ d = .int z ∧ low ≤ z ∧ z ≤ high := by
  cases d with
  | int z' =>
    by_cases h : low ≤ z' ∧ z' ≤ high
    · simp only [integer, if_pos h, Except.ok.injEq, Document.int.injEq]
      exact ⟨fun heq => ⟨heq, heq ▸ h⟩, And.left⟩
    · simp only [integer, if_neg h, Document.int.injEq, reduceCtorEq, false_iff]
      rintro ⟨rfl, hz⟩
      exact h hz
  | _ => simp [integer]

theorem int64_eq_ok {n : Int64} : int64 d = .ok n ↔ d = .int n.toInt := by
  rw [int64, map_eq_ok]
  constructor
  · rintro ⟨z, hz, rfl⟩
    obtain ⟨rfl, hlow, hhigh⟩ := integer_eq_ok.mp hz
    rw [Int64.toInt_ofInt_of_le hlow (Int.lt_add_one_of_le hhigh)]
  · exact fun hd => ⟨n.toInt, integer_eq_ok.mpr ⟨hd, n.minValue_le_toInt, n.toInt_le⟩, n.ofInt_toInt⟩

theorem int32_eq_ok {n : Int32} : int32 d = .ok n ↔ d = .int n.toInt := by
  rw [int32, map_eq_ok]
  constructor
  · rintro ⟨z, hz, rfl⟩
    obtain ⟨rfl, hlow, hhigh⟩ := integer_eq_ok.mp hz
    rw [Int32.toInt_ofInt_of_le hlow (Int.lt_add_one_of_le hhigh)]
  · exact fun hd => ⟨n.toInt, integer_eq_ok.mpr ⟨hd, n.minValue_le_toInt, n.toInt_le⟩, n.ofInt_toInt⟩

theorem int64_toInt (n : Int64) : int64 (.int n.toInt) = .ok n := int64_eq_ok.mpr rfl

theorem int32_toInt (n : Int32) : int32 (.int n.toInt) = .ok n := int32_eq_ok.mpr rfl

section Named

variable {α : Type} {names : Names α} {a : α}

theorem named_map {name : String} {content : Document} {rest : List (Option String × Document)}
    {whole : Bool} :
    named .json names (.map ((some name, content) :: rest) whole) = .ok a ↔
      names.find name = .ok a ∧ content = .null ∧ rest = [] ∧ whole = true := by
  simp only [named]
  cases names.find name with
  | error e => simp
  | ok b =>
    cases content with
    | null =>
      by_cases h : rest = [] ∧ whole = true <;> simp [noContent, h]
    | _ => simp [noContent]

theorem Names.find_other {name : String} (hother : names.otherwise = some a)
    (hnone : names.known.lookup name = none) : names.find name = .ok a := by
  simp only [Names.find, hnone, hother]

/-- A name stands alone, or is that of the only member of a map, which is `null`. -/
theorem named_eq_ok :
    named .json names d = .ok a ↔
      ∃ name, (d = .text name ∨ d = .map [(some name, .null)] true) ∧ names.find name = .ok a := by
  cases d with
  | text name => simp [named]
  | map members whole =>
    match members with
    | [] => simp [named]
    | (none, _) :: _ => simp [named]
    | (some name, content) :: rest =>
      rw [named_map]
      constructor
      · rintro ⟨hfind, rfl, rfl, rfl⟩
        exact ⟨name, .inr rfl, hfind⟩
      · rintro ⟨name', h | h, hfind⟩
        · cases h
        · cases h
          exact ⟨hfind, rfl, rfl, rfl⟩
  | _ => simp [named]

end Named

end Decoder
end MeshTelemetry
