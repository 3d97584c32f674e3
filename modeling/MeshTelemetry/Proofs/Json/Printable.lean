import MeshTelemetry.Proofs.Json.Numeral
import MeshTelemetry.Proofs.Json.Quoted

/-!
# MeshTelemetry.Proofs.Json.Printable

The compact text of a value has no control character in it, and so is one line.

* `Json.Printable`: characters that are no control characters.
* `Json.compact_printable`, `Json.lineBreak_notMem_compact`.
-/

namespace MeshTelemetry
namespace Json

/-- No control character is among these, such as a line break. -/
def Printable (cs : List Char) : Prop := ∀ c ∈ cs, 0x20 ≤ c.toNat

instance : DecidablePred Printable := fun cs =>
  decidable_of_iff (cs.all (0x20 ≤ ·.toNat) = true) (by simp [Printable])

theorem printable_cons {c : Char} {cs : List Char} :
    Printable (c :: cs) ↔ 0x20 ≤ c.toNat ∧ Printable cs := List.forall_mem_cons

theorem printable_append {cs cs' : List Char} :
    Printable (cs ++ cs') ↔ Printable cs ∧ Printable cs' := List.forall_mem_append

theorem printable_glyph (g : Glyph) : Printable g.chars := by
  cases g with
  | plain c h => exact printable_cons.mpr ⟨h.1, List.forall_mem_nil _⟩
  | short mark c h =>
    have hall : ∀ p ∈ shortEscapes, Printable ['\\', p.1] := by decide
    exact hall _ h
  | unit d₁ d₂ d₃ d₄ =>
    have hdigit : ∀ d : HexDigit, 0x20 ≤ d.char.toNat := by
      rintro ⟨value, upper⟩
      revert value upper
      decide
    simp only [Glyph.chars, printable_cons, hdigit, true_and]
    exact ⟨by decide, by decide, List.forall_mem_nil _⟩

theorem printable_quoted (s : String) : Printable ((quotedPieces s).flatMap String.toList) := by
  rw [← chars_quoted, quotedChars, printable_cons, printable_append]
  refine ⟨by decide, fun c hc => ?_, by decide⟩
  obtain ⟨g, -, hmem⟩ := List.mem_flatMap.mp hc
  exact printable_glyph g c hmem

theorem printable_toString (z : Int) : Printable (toString z).toList := by
  have hdigits : ∀ n, Printable (Nat.toDigits 10 n) := by
    intro n c hc
    have hdigit := isDigit_toDigits n c hc
    simp only [Numeral.isDigit, Bool.and_eq_true, decide_eq_true_eq] at hdigit
    exact Nat.le_trans (by decide) hdigit.1
  rw [toList_toString]
  cases z with
  | ofNat n => exact hdigits n
  | negSucc n => exact printable_cons.mpr ⟨by decide, hdigits (n + 1)⟩

mutual

theorem printable_pieces : ∀ v : Json, Printable ((pieces v).flatMap String.toList)
  | .null => by decide
  | .bool true => by decide
  | .bool false => by decide
  | .int z => by
    rw [pieces, List.flatMap_singleton]
    exact printable_toString z
  | .text s => printable_quoted s
  | .list items => by
    rw [pieces, List.flatMap_append, List.flatMap_cons, printable_append, printable_append]
    exact ⟨⟨by decide, printable_items true items⟩, by decide⟩
  | .object members => by
    rw [pieces, List.flatMap_append, List.flatMap_cons, printable_append, printable_append]
    exact ⟨⟨by decide, printable_members true members⟩, by decide⟩

theorem printable_items : ∀ (isFirst : Bool) (items : List Json),
    Printable ((itemPieces isFirst items).flatMap String.toList)
  | _, [] => List.forall_mem_nil _
  | isFirst, v :: rest => by
    rw [itemPieces, List.flatMap_append, List.flatMap_append, printable_append, printable_append]
    exact ⟨⟨by cases isFirst <;> decide, printable_pieces v⟩, printable_items false rest⟩

theorem printable_members : ∀ (isFirst : Bool) (members : List (String × Json)),
    Printable ((memberPieces isFirst members).flatMap String.toList)
  | _, [] => List.forall_mem_nil _
  | isFirst, (k, v) :: rest => by
    rw [memberPieces]
    simp only [List.flatMap_append, printable_append]
    exact ⟨⟨⟨⟨by cases isFirst <;> decide, printable_quoted k⟩, by decide⟩, printable_pieces v⟩,
      printable_members false rest⟩

end

theorem compact_printable (v : Json) : Printable v.compact.toList := by
  rw [compact, String.toList_join]
  exact printable_pieces v

theorem lineBreak_notMem_compact (v : Json) : '\n' ∉ v.compact.toList :=
  fun hmem => absurd (compact_printable v _ hmem) (by decide)

end Json
end MeshTelemetry
