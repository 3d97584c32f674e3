import MeshTelemetry.Json.Text
import MeshTelemetry.Proofs.Json.Grammar

/-!
# MeshTelemetry.Proofs.Json.Quoted

Texts between their quotes. Each character is written as one glyph of the grammar, whatever it is,
and the glyphs stand for the text.

* `Json.escape?_eq_none`: the characters that are written as they are.
* `Json.glyph`: a character as it is written; `Json.spelled`: a text.
* `Json.meaning_spelled`, `Json.chars_quoted`: what the glyphs stand for, and how they are written.
-/

namespace MeshTelemetry
namespace Json

/-- A character that needs no escape. -/
def Bare (c : Char) : Prop := 0x20 ≤ c.toNat ∧ c ≠ '"' ∧ c ≠ '\\'

instance : DecidablePred Bare := fun c =>
  inferInstanceAs (Decidable (0x20 ≤ c.toNat ∧ c ≠ '"' ∧ c ≠ '\\'))

theorem not_bare {c : Char} : ¬Bare c ↔ c.toNat < 0x20 ∨ c = '"' ∨ c = '\\' := by
  simp only [Bare, Classical.not_and_iff_not_or_not, Nat.not_le, ne_eq, Classical.not_not]

theorem escape?_eq_none {c : Char} : escape? c = none ↔ Bare c := by
  constructor
  · intro he
    have hcontrol : ∀ n < 0x20, escape? (.ofNat n) ≠ none := by decide
    by_cases hbare : Bare c
    · exact hbare
    rcases not_bare.mp hbare with hlt | rfl | rfl
    · exact absurd (by rw [Char.ofNat_toNat, he]) (hcontrol c.toNat hlt)
    · cases he
    · cases he
  · rintro ⟨hprintable, hquote, hbackslash⟩
    have hne : ∀ d : Char, d.toNat < 0x20 → c ≠ d := by
      rintro d hd rfl
      exact Nat.not_lt.mpr hprintable hd
    simp [escape?, hquote, hbackslash, Nat.not_lt.mpr hprintable, hne '\x08' (by decide),
      hne '\x0c' (by decide), hne '\n' (by decide), hne '\r' (by decide), hne '\t' (by decide)]

theorem contents_plain (cs : List Char) : ∀ run : List Char, (∀ c ∈ cs, escape? c = none) →
    run ++ cs ≠ [] → contents run cs = [String.ofList (run.reverse ++ cs)] := by
  induction cs with
  | nil =>
    intro run _ hne
    cases run with
    | nil => exact absurd rfl hne
    | cons c run => rw [contents, List.append_nil]; rintro ⟨⟩
  | cons c cs ih =>
    intro run hplain hne
    rw [List.forall_mem_cons] at hplain
    rw [contents, hplain.1]
    have hrest := ih (c :: run) hplain.2 (List.cons_ne_nil _ _)
    rwa [List.reverse_cons, List.append_assoc, List.singleton_append] at hrest

theorem quotedPieces_plain {s : String} (hplain : ∀ c ∈ s.toList, escape? c = none)
    (hne : s ≠ "") : quotedPieces s = ["\"", s, "\""] := by
  have hcs : [] ++ s.toList ≠ [] := fun hnil => hne (String.toList_eq_nil_iff.mp hnil)
  rw [quotedPieces, contents_plain _ [] hplain hcs, List.reverse_nil, List.nil_append,
    String.ofList_toList]
  rfl

/-- The last hexadecimal digit of a number. -/
def lastDigit (n : Nat) : HexDigit := ⟨⟨n % 16, Nat.mod_lt n (Nat.succ_pos 15)⟩, false⟩

/-- A character as it is written in a text. One that may not stand there as it is has a letter behind
a backslash, or else its number. -/
def glyph (c : Char) : Glyph :=
  if h : Bare c then .plain c h
  else
    match h : shortEscapes.find? (·.2 = c) with
    | some (mark, d) => .short mark d (List.mem_of_find?_eq_some h)
    | none => .unit (lastDigit 0) (lastDigit 0) (lastDigit (c.toNat / 16)) (lastDigit c.toNat)

theorem piece_glyph (c : Char) : (glyph c).piece = .char c := by
  unfold glyph
  split
  · rfl
  · next hbare =>
    split
    · next hfind =>
      have heq := List.find?_some hfind
      rw [decide_eq_true_eq] at heq
      exact congrArg Piece.char heq
    · have hbyte : c.toNat < 0x100 := by
        rcases not_bare.mp hbare with hlt | rfl | rfl
        · omega
        · decide
        · decide
      have hunit : ((0 * 16 + 0) * 16 + c.toNat / 16 % 16) * 16 + c.toNat % 16 = c.toNat := by omega
      simp only [Glyph.piece, lastDigit, Nat.zero_mod, hunit]
      rw [Piece.ofUnit, if_neg (by omega), Char.ofNat_toNat]

theorem chars_glyph (c : Char) : (glyph c).chars = (escape? c).elim [c] String.toList := by
  by_cases hbare : Bare c
  · rw [escape?_eq_none.mpr hbare, glyph, dif_pos hbare]
    rfl
  · have hcontrol : ∀ n < 0x20, (glyph (.ofNat n)).chars =
        (escape? (.ofNat n)).elim [.ofNat n] String.toList := by decide
    rcases not_bare.mp hbare with hlt | rfl | rfl
    · have hchars := hcontrol c.toNat hlt
      rwa [Char.ofNat_toNat] at hchars
    · decide
    · decide

/-- A text as it is written between its quotes. -/
def spelled (s : String) : List Glyph := s.toList.map glyph

theorem join?_chars (cs : List Char) : Piece.join? (cs.map .char) = some cs := by
  induction cs with
  | nil => rfl
  | cons c cs ih => rw [List.map_cons, Piece.join?, ih, Option.map_some]

@[simp]
theorem meaning_spelled (s : String) : meaning (spelled s) = some s := by
  have hpieces : (spelled s).map Glyph.piece = s.toList.map .char := by
    rw [spelled, List.map_map]
    exact List.map_congr_left fun c _ => piece_glyph c
  rw [meaning, hpieces, join?_chars, Option.map_some, String.ofList_toList]

/-- The pieces of a text are the spellings of its characters; a run is kept with its last character
first. -/
theorem flatMap_contents (cs : List Char) : ∀ run : List Char,
    (contents run cs).flatMap String.toList =
      run.reverse ++ (cs.map glyph).flatMap Glyph.chars := by
  induction cs with
  | nil =>
    intro run
    cases run with
    | nil => rfl
    | cons c run => simp [contents]
  | cons c cs ih =>
    intro run
    rw [List.map_cons, List.flatMap_cons, chars_glyph]
    cases he : escape? c with
    | none =>
      rw [contents, he]
      simp [ih (c :: run)]
    | some e =>
      rw [contents, he]
      cases run with
      | nil => simp [ih []]
      | cons d run => simp [ih []]

theorem chars_quoted (s : String) :
    quotedChars (spelled s) = (quotedPieces s).flatMap String.toList := by
  simp [quotedChars, quotedPieces, spelled, flatMap_contents]

theorem chars_quotedText (s : String) : quotedChars (spelled s) = (quotedText s).toList := by
  rw [quotedText, String.toList_join, chars_quoted]

end Json
end MeshTelemetry
