import Mathlib.Data.List.TakeWhile
import MeshTelemetry.Json.Token

/-!
# MeshTelemetry.Proofs.Json.Numeral

The digits of numbers in JSON text, and how they are scanned.

* `Json.InRange`: the integers that fit into sixty-four bits.
* `Json.ofLexeme_digits`, `Json.natOfDigits_toDigits`: digits stand for the number they are of.
* `Json.Scanner.Settled`: a scanner at the end of a token; `Json.settled_number`: behind a number.
-/

namespace MeshTelemetry
namespace Json

/-- The integers that a number without point and exponent stands for. -/
def InRange (z : Int) : Prop := Int64.minValue.toInt ≤ z ∧ z < UInt64.size

theorem inRange_int64 (n : Int64) : InRange n.toInt := by
  have hsize : Int64.maxValue.toInt < UInt64.size := by decide
  exact ⟨n.minValue_le_toInt, Int.lt_of_le_of_lt n.toInt_le hsize⟩

theorem inRange_int32 (n : Int32) : InRange n.toInt := by
  have hmin : Int64.minValue.toInt ≤ Int32.minValue.toInt := by decide
  have hsize : Int32.maxValue.toInt < UInt64.size := by decide
  exact ⟨Int.le_trans hmin n.minValue_le_toInt, Int.lt_of_le_of_lt n.toInt_le hsize⟩

section Digits

theorem digitChar_toNat {d : Nat} (h : d < 10) : (Nat.digitChar d).toNat = 48 + d := by
  revert d
  decide

theorem isDigit_digitChar {d : Nat} (h : d < 10) : Numeral.isDigit (Nat.digitChar d) = true := by
  revert d
  decide

theorem isDigit_toDigits (n : Nat) : ∀ c ∈ Nat.toDigits 10 n, Numeral.isDigit c = true := by
  induction n using Nat.strongRecOn with
  | ind n ih =>
    intro c hc
    by_cases hn : n < 10
    · rw [Nat.toDigits_of_lt_base hn, List.mem_singleton] at hc
      rw [hc]
      exact isDigit_digitChar hn
    · rw [Nat.toDigits_of_base_le (by decide) (Nat.le_of_not_lt hn), List.mem_append,
        List.mem_singleton] at hc
      rcases hc with hc | rfl
      · exact ih (n / 10) (by omega) c hc
      · exact isDigit_digitChar (Nat.mod_lt n (by decide))

theorem toDigits_cons {n : Nat} (hpos : 0 < n) :
    ∃ c cs, Nat.toDigits 10 n = c :: cs ∧ isNonZeroDigit c = true := by
  induction n using Nat.strongRecOn with
  | ind n ih =>
    by_cases hn : n < 10
    · refine ⟨Nat.digitChar n, [], Nat.toDigits_of_lt_base hn, ?_⟩
      simp only [isNonZeroDigit, digitChar_toNat hn, Bool.and_eq_true, decide_eq_true_eq]
      omega
    · obtain ⟨c, cs, hcs, hc⟩ := ih (n / 10) (by omega) (by omega)
      refine ⟨c, cs ++ [Nat.digitChar (n % 10)], ?_, hc⟩
      rw [Nat.toDigits_of_base_le (by decide) (Nat.le_of_not_lt hn), hcs, List.cons_append]

theorem natOfDigits_toDigits (n : Nat) :
    Numeral.natOfDigits (Numeral.digitsOf (Nat.toDigits 10 n)) = n := by
  induction n using Nat.strongRecOn with
  | ind n ih =>
    by_cases hn : n < 10
    · rw [Nat.toDigits_of_lt_base hn]
      simp [Numeral.natOfDigits, Numeral.digitsOf, digitChar_toNat hn]
    · have hmod := Nat.mod_lt n (show 0 < 10 by decide)
      have hhead := ih (n / 10) (by omega)
      simp only [Numeral.natOfDigits, Numeral.digitsOf] at hhead
      rw [Nat.toDigits_of_base_le (by decide) (Nat.le_of_not_lt hn)]
      simp only [Numeral.natOfDigits, Numeral.digitsOf, List.map_append, List.foldl_append, hhead,
        List.map_cons, List.map_nil, List.foldl_cons, List.foldl_nil, digitChar_toNat hmod]
      omega

end Digits

theorem takeWhile_digits {cs : List Char} (h : ∀ c ∈ cs, Numeral.isDigit c = true) :
    cs.takeWhile Numeral.isDigit = cs ∧ cs.dropWhile Numeral.isDigit = [] := by
  refine ⟨List.takeWhile_eq_self_iff.mpr h, List.dropWhile_eq_nil_iff.mpr h⟩

theorem ofLexeme_digits (n : Nat) :
    Numeral.ofLexeme (Nat.toDigits 10 n) =
        ⟨false, Numeral.digitsOf (Nat.toDigits 10 n), none, none⟩ ∧
      Numeral.ofLexeme ('-' :: Nat.toDigits 10 n) =
        ⟨true, Numeral.digitsOf (Nat.toDigits 10 n), none, none⟩ := by
  obtain ⟨htake, hdrop⟩ := takeWhile_digits (isDigit_toDigits n)
  constructor
  · cases hcs : Nat.toDigits 10 n with
    | nil => rfl
    | cons c cs =>
      have hc : c ≠ '-' := by
        rintro rfl
        have hdigit := isDigit_toDigits n '-' (by rw [hcs]; exact List.mem_cons_self)
        cases hdigit
      rw [hcs] at htake hdrop
      simp [Numeral.ofLexeme, hc, htake, hdrop]
  · simp only [Numeral.ofLexeme, htake, hdrop]

theorem toList_toString (z : Int) : (toString z).toList =
    match z with
    | .ofNat n => Nat.toDigits 10 n
    | .negSucc n => '-' :: Nat.toDigits 10 (n + 1) := by
  cases z with
  | ofNat n =>
    show (Nat.repr n).toList = _
    rw [Nat.repr, String.toList_ofList]
  | negSucc n =>
    show ("-" ++ Nat.repr (n + 1)).toList = _
    rw [String.toList_append, Nat.repr, String.toList_ofList, String.toList_ofList]
    exact List.singleton_append

/-- The characters go through the scanner one after the other. -/
def scan (s : Scanner) (cs : List Char) : Scanner := cs.foldl Scanner.step s

theorem scan_append (s : Scanner) (cs cs' : List Char) :
    scan s (cs ++ cs') = scan (scan s cs) cs' := List.foldl_append

/-- A character that ends a number in front of it. -/
def Ends (c : Char) : Prop := Numeral.isDigit c = false ∧ c ≠ '.' ∧ c ≠ 'e' ∧ c ≠ 'E'

/-- The scanner is at the end of a token: whatever may come next finds it as if it were ready, with
these tokens, of which the last one stands first. -/
structure Scanner.Settled (s : Scanner) (ts : List Token) : Prop where
  finish : s.finish = ts.reverse
  step : ∀ c, Ends c → s.step c = (⟨.ready, ts⟩ : Scanner).begin c

theorem settled_ready (ts : List Token) : Scanner.Settled ⟨.ready, ts⟩ ts := ⟨rfl, fun _ _ => rfl⟩

theorem step_number {state next : NumberState} {c : Char} (h : state.next? c = some next)
    (read : List Char) (ts : List Token) :
    Scanner.step ⟨.number state read, ts⟩ c = ⟨.number next (c :: read), ts⟩ := by
  simp only [Scanner.step, h]
  rfl

theorem scan_digits {state : NumberState}
    (hstate : ∀ c, Numeral.isDigit c = true → state.next? c = some state) {cs : List Char}
    (h : ∀ c ∈ cs, Numeral.isDigit c = true) (read : List Char) (ts : List Token) :
    scan ⟨.number state read, ts⟩ cs = ⟨.number state (cs.reverse ++ read), ts⟩ := by
  induction cs generalizing read with
  | nil => rfl
  | cons c cs ih =>
    rw [List.forall_mem_cons] at h
    have hrest := ih h.2 (c :: read)
    rw [scan] at hrest ⊢
    rw [List.foldl_cons, step_number (hstate c h.1), hrest, List.reverse_cons, List.append_assoc,
      List.singleton_append]

theorem next?_whole {c : Char} (hc : Numeral.isDigit c = true) :
    NumberState.whole.next? c = some .whole := if_pos hc

/-- A character that may stand behind a token does not go on with a number that may end. -/
theorem ends_number {state : NumberState} (hstate : state.mayEnd none = true) {c : Char}
    (hc : Ends c) : state.next? c = none ∧ state.mayEnd (some c) = true := by
  obtain ⟨hdigit, hpoint, he, hE⟩ := hc
  cases state with
  | zero =>
    have hend : NumberState.zero.mayEnd (some c) = !Numeral.isDigit c := rfl
    rw [hend, hdigit]
    simp [NumberState.next?, hpoint, he, hE]
  | whole | fraction | exponent =>
    refine ⟨?_, rfl⟩
    simp [NumberState.next?, hdigit, hpoint, he, hE]
  | sign | point | mark | markSign => cases hstate

theorem settled_number {state : NumberState} (hstate : state.mayEnd none = true)
    (read : List Char) (ts : List Token) :
    Scanner.Settled ⟨.number state read, ts⟩ (.scalar (numberDocument read.reverse) :: ts) where
  finish := if_pos hstate
  step c hc := by
    obtain ⟨hnext, hend⟩ := ends_number hstate hc
    simp only [Scanner.step, hnext, hend, if_true, Scanner.emit]

/-- The digits of a positive number behind a first character that may begin one. -/
theorem scan_positive {n : Nat} (hpos : 0 < n) {s : Scanner} {read : List Char} {ts : List Token}
    (hs : ∀ c, isNonZeroDigit c = true → s.step c = ⟨.number .whole (c :: read), ts⟩) :
    scan s (Nat.toDigits 10 n) = ⟨.number .whole ((Nat.toDigits 10 n).reverse ++ read), ts⟩ := by
  obtain ⟨c, cs, hcs, hc⟩ := toDigits_cons hpos
  have hdigits : ∀ d ∈ cs, Numeral.isDigit d = true := fun d hd =>
    isDigit_toDigits n d (by rw [hcs]; exact List.mem_cons_of_mem c hd)
  have hrest := scan_digits (fun _ => next?_whole) hdigits (c :: read) ts
  rw [hcs, scan, List.foldl_cons, hs c hc, ← scan, hrest, List.reverse_cons, List.append_assoc,
    List.singleton_append]

theorem begin_nonZero {c : Char} (hc : isNonZeroDigit c = true) (ts : List Token) :
    (⟨.ready, ts⟩ : Scanner).begin c = ⟨.number .whole [c], ts⟩ := by
  have hne : ∀ d : Char, isNonZeroDigit d = false → c ≠ d := by
    rintro d hd rfl
    exact absurd hc (by rw [hd]; decide)
  simp [Scanner.begin, Scanner.enter, hc, hne ' ' rfl, hne '\n' rfl, hne '\t' rfl, hne '\r' rfl,
    hne '"' rfl, hne '\x7b' rfl, hne '\x7d' rfl, hne '[' rfl, hne ']' rfl, hne ':' rfl, hne ',' rfl,
    hne '-' rfl, hne '0' rfl]

theorem step_sign {c : Char} (hc : isNonZeroDigit c = true) (ts : List Token) :
    Scanner.step ⟨.number .sign ['-'], ts⟩ c = ⟨.number .whole [c, '-'], ts⟩ := by
  have hne : c ≠ '0' := by
    rintro rfl
    cases hc
  simp [Scanner.step, NumberState.next?, Scanner.enter, hc, hne]

end Json
end MeshTelemetry
