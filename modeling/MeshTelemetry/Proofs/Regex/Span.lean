import MeshTelemetry.Regex.Match
import Mathlib.Data.Finset.Card
import Mathlib.Data.Finset.Range

/-!
# MeshTelemetry.Proofs.Regex.Span

What it means that an expression matches from one position of a text to another, without a word
about how matches are found.

* `Rounds`: a relation so many times in a row.
* `Expr.Spans`: the matches of an expression, from position to position.
* `Expr.Ordered`: no counted repetition has a greatest count below its least one.
* `rounds_short`: where any number of rounds leads, few rounds lead.
-/

namespace MeshTelemetry
namespace Regex

/-- From `i` to `j` in `n` steps of the relation. -/
def Rounds (R : Nat → Nat → Prop) : Nat → Nat → Nat → Prop
  | 0, i, j => i = j
  | n + 1, i, j => ∃ k, R i k ∧ Rounds R n k j

/-- The characters on both sides of position `i` of a text. -/
def Neighbours.at (text : List Char) (i : Nat) : Neighbours :=
  ⟨if i = 0 then none else text[i - 1]?, text[i]?⟩

namespace Expr

/-- `Spans text e i j`: the expression has a match in the text that begins at position `i` and ends
at position `j`. -/
def Spans (text : List Char) : Expr → Nat → Nat → Prop
  | .empty => fun i j => i = j
  | .set s => fun i j => j = i + 1 ∧ ∃ c, text[i]? = some c ∧ s.mem c = true
  | .look l => fun i j => i = j ∧ i ≤ text.length ∧ l.holds (.at text i) = true
  | .cat left right => fun i j => ∃ k, left.Spans text i k ∧ right.Spans text k j
  | .alt left right => fun i j => left.Spans text i j ∨ right.Spans text i j
  | .repetition least greatest body => fun i j =>
    ∃ n, least ≤ n ∧ (∀ m, greatest = some m → n ≤ m) ∧ Rounds (body.Spans text) n i j
  | .capture body => body.Spans text

/-- The expression matches the text as a whole. -/
def SpansAll (e : Expr) (text : String) : Prop :=
  e.Spans text.toList 0 text.toList.length

/-- Every counted repetition can be made. -/
def Ordered : Expr → Prop
  | .empty => True
  | .set _ => True
  | .look _ => True
  | .cat left right => left.Ordered ∧ right.Ordered
  | .alt left right => left.Ordered ∧ right.Ordered
  | .repetition least greatest body => (∀ m, greatest = some m → least ≤ m) ∧ body.Ordered
  | .capture body => body.Ordered

end Expr

section Rounds

variable {R : Nat → Nat → Prop}

theorem rounds_succ {n i j : Nat} : Rounds R (n + 1) i j ↔ ∃ k, R i k ∧ Rounds R n k j := Iff.rfl

theorem rounds_add {m n i j : Nat} :
    Rounds R (m + n) i j ↔ ∃ k, Rounds R m i k ∧ Rounds R n k j := by
  induction m generalizing i with
  | zero => simp [Rounds]
  | succ m ih =>
    rw [Nat.succ_add, rounds_succ]
    constructor
    · rintro ⟨k, hk, hrest⟩
      obtain ⟨l, hl, hn⟩ := ih.mp hrest
      exact ⟨l, ⟨k, hk, hl⟩, hn⟩
    · rintro ⟨l, ⟨k, hk, hl⟩, hn⟩
      exact ⟨k, hk, ih.mpr ⟨l, hl, hn⟩⟩

theorem rounds_le {b : Nat} (hR : ∀ i j, i ≤ b → R i j → j ≤ b) {n i j : Nat} (hi : i ≤ b)
    (h : Rounds R n i j) : j ≤ b := by
  induction n generalizing i with
  | zero => cases h; exact hi
  | succ n ih =>
    obtain ⟨k, hk, hrest⟩ := h
    exact ih (hR i k hi hk) hrest

open Classical in
/-- The positions up to `b` that at most `n` rounds lead to. -/
noncomputable def reached (R : Nat → Nat → Prop) (b i n : Nat) : Finset Nat :=
  (Finset.range (b + 1)).filter fun j => ∃ m, m ≤ n ∧ Rounds R m i j

theorem mem_reached {b i n j : Nat} :
    j ∈ reached R b i n ↔ j ≤ b ∧ ∃ m, m ≤ n ∧ Rounds R m i j := by
  simp only [reached, Finset.mem_filter, Finset.mem_range, Nat.lt_succ_iff]

theorem reached_mono {b i n : Nat} : reached R b i n ⊆ reached R b i (n + 1) := by
  intro j hj
  obtain ⟨hb, m, hm, h⟩ := mem_reached.mp hj
  exact mem_reached.mpr ⟨hb, m, by omega, h⟩

/-- A set of positions cannot grow more often than there are positions. -/
theorem exists_reached_stable {b i : Nat} (hi : i ≤ b) :
    ∃ n, n ≤ b ∧ reached R b i (n + 1) ⊆ reached R b i n := by
  by_contra hcon
  have hgrow : ∀ n, n ≤ b + 1 → n + 1 ≤ (reached R b i n).card := by
    intro n
    induction n with
    | zero =>
      intro _
      exact Finset.card_pos.mpr ⟨i, mem_reached.mpr ⟨hi, 0, le_refl 0, rfl⟩⟩
    | succ n ih =>
      intro hn
      have hstep : reached R b i n ⊂ reached R b i (n + 1) :=
        ⟨reached_mono, fun hsub => hcon ⟨n, by omega, hsub⟩⟩
      have hlt := Finset.card_lt_card hstep
      have := ih (by omega)
      omega
  have hcard : (reached R b i (b + 1)).card ≤ b + 1 := by
    have hsub : reached R b i (b + 1) ⊆ Finset.range (b + 1) := fun j hj =>
      Finset.mem_range.mpr (Nat.lt_succ_of_le (mem_reached.mp hj).1)
    simpa using Finset.card_le_card hsub
  have := hgrow (b + 1) (le_refl _)
  omega

theorem rounds_short {b i j : Nat} (hR : ∀ i j, i ≤ b → R i j → j ≤ b) (hi : i ≤ b) {n : Nat}
    (h : Rounds R n i j) : ∃ m, m ≤ b ∧ Rounds R m i j := by
  obtain ⟨n0, hn0, hstable⟩ := exists_reached_stable (R := R) hi
  have hclosed : ∀ n j, Rounds R n i j → j ∈ reached R b i n0 := by
    intro n
    induction n with
    | zero =>
      intro j hj
      cases hj
      exact mem_reached.mpr ⟨hi, 0, Nat.zero_le _, rfl⟩
    | succ n ih =>
      intro j hj
      obtain ⟨k, hk, hlast⟩ := rounds_add.mp hj
      obtain ⟨hkb, m, hm, hkm⟩ := mem_reached.mp (ih k hk)
      refine hstable (mem_reached.mpr ⟨?_, m + 1, by omega, rounds_add.mpr ⟨k, hkm, hlast⟩⟩)
      exact rounds_le hR hkb hlast
  obtain ⟨-, m, hm, hj⟩ := mem_reached.mp (hclosed n j h)
  exact ⟨m, by omega, hj⟩

end Rounds

theorem Expr.spans_le {text : List Char} {e : Expr} {i j : Nat} (hi : i ≤ text.length)
    (h : e.Spans text i j) : j ≤ text.length := by
  induction e generalizing i j with
  | empty => cases h; exact hi
  | set s =>
    obtain ⟨rfl, c, hc, -⟩ := h
    obtain ⟨hlt, -⟩ := List.getElem?_eq_some_iff.mp hc
    omega
  | look l => obtain ⟨rfl, -⟩ := h; exact hi
  | cat left right ihl ihr =>
    obtain ⟨k, hl, hr⟩ := h
    exact ihr (ihl hi hl) hr
  | alt left right ihl ihr =>
    rcases h with h | h
    · exact ihl hi h
    · exact ihr hi h
  | repetition least greatest body ih =>
    obtain ⟨n, -, -, hrounds⟩ := h
    exact rounds_le (fun _ _ => ih) hi hrounds
  | capture body ih => exact ih hi h

end Regex
end MeshTelemetry
