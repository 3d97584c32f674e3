import MeshTelemetry.Proofs.Regex.Token
import MeshTelemetry.Regex.Pattern.Bracket

/-!
# MeshTelemetry.Proofs.Regex.Bracket

A set of characters between brackets is read up to its closing bracket.

* `setItems_found`: the items of a set, with all the brackets inside, end at a bracket, whatever
  stands behind it.
* `bracketed_reads`: what the parser calls.
-/

namespace MeshTelemetry
namespace Regex
namespace Pattern

theorem cut?_found {sep : Char} {cs a b : List Char} (h : Text.cut? sep cs = some (a, b)) :
    cs = a ++ sep :: b ∧ ∀ w, Text.cut? sep (a ++ sep :: w) = some (a, w) := by
  induction cs generalizing a with
  | nil => cases h
  | cons c cs ih =>
    rw [Text.cut?] at h
    split at h
    · next hc =>
      obtain ⟨rfl, rfl⟩ := Prod.mk.inj (Option.some.inj h)
      subst hc
      exact ⟨rfl, fun w => by rw [List.nil_append, Text.cut?, if_pos rfl]⟩
    · next hc =>
      obtain ⟨⟨a', b'⟩, hcut, heq⟩ := Option.map_eq_some_iff.mp h
      obtain ⟨rfl, rfl⟩ := Prod.mk.inj heq
      obtain ⟨rfl, ha⟩ := ih hcut
      exact ⟨rfl, fun w => by rw [List.cons_append, Text.cut?, if_neg hc, ha]; rfl⟩

theorem cut?_append (sep : Char) (x y : List Char) :
    Text.cut? sep (x ++ y) =
      match Text.cut? sep x with
      | some (a, b) => some (a, b ++ y)
      | none => (Text.cut? sep y).map fun r => (x ++ r.1, r.2) := by
  induction x with
  | nil => cases h : Text.cut? sep y <;> simp [Text.cut?, h]
  | cons c x ih =>
    rw [List.cons_append, Text.cut?, Text.cut?]
    split
    · rfl
    · rw [ih]
      cases Text.cut? sep x with
      | some r => rfl
      | none => cases Text.cut? sep y <;> rfl

theorem asciiClass?_none {name : List Char} (h : ']' ∈ name) : asciiClass? name = none := by
  rw [asciiClass?, List.lookup_eq_none_iff]
  intro entry hentry
  have hkeys : ∀ entry ∈ [ ("alnum", AsciiClass.alnum), ("alpha", .alpha), ("ascii", .ascii),
      ("blank", .blank), ("cntrl", .cntrl), ("digit", .digit), ("graph", .graph),
      ("lower", .lower), ("print", .print), ("punct", .punct), ("space", .space),
      ("upper", .upper), ("word", .word), ("xdigit", .xdigit) ], ']' ∉ entry.1.toList := by
    decide
  have := hkeys entry hentry
  simp only [bne_iff_ne, ne_eq]
  intro heq
  exact this (by rw [← heq, String.toList_ofList]; exact h)

/-- The name of a class behind its colon, up to the closing bracket. -/
def asciiBody? (negated : Bool) (cs : List Char) : Option (SetPattern × List Char) :=
  match Text.cut? ':' cs with
  | some (name, ']' :: rest) => (asciiClass? name).map fun a => (.ascii a negated, rest)
  | _ => none

/-- The sign before the name of a class. -/
def asciiSign (cs : List Char) : Bool × List Char :=
  match cs with
  | '^' :: rest => (true, rest)
  | _ => (false, cs)

theorem asciiItem?_colon (cs : List Char) :
    asciiItem? (':' :: cs) = asciiBody? (asciiSign cs).1 (asciiSign cs).2 := rfl

theorem asciiItem?_other {c : Char} {cs : List Char} (h : c ≠ ':') :
    asciiItem? (c :: cs) = none := by
  unfold asciiItem?
  split
  · next heq => exact absurd (List.cons.inj heq).1 h
  · rfl

theorem asciiSign_plain {c : Char} {cs : List Char} (h : c ≠ '^') :
    asciiSign (c :: cs) = (false, c :: cs) := by
  unfold asciiSign
  split
  · next heq => exact absurd (List.cons.inj heq).1 h
  · rfl

theorem asciiBody?_found {negated : Bool} {cs rest : List Char} {item : SetPattern}
    (h : asciiBody? negated cs = some (item, rest)) :
    ∃ u, cs = u ++ rest ∧ ∀ w, asciiBody? negated (u ++ w) = some (item, w) := by
  rw [asciiBody?] at h
  split at h
  · next name behind hcut =>
    obtain ⟨a, ha, heq⟩ := Option.map_eq_some_iff.mp h
    obtain ⟨rfl, rfl⟩ := Prod.mk.inj heq
    obtain ⟨rfl, hname⟩ := cut?_found hcut
    refine ⟨name ++ [':', ']'], by simp, fun w => ?_⟩
    have htext : name ++ [':', ']'] ++ w = name ++ ':' :: ']' :: w := by simp
    rw [htext, asciiBody?, hname]
    exact congrArg (Option.map _) ha
  · cases h

/-- Whether a class is named is decided up to the next closing bracket. -/
theorem asciiBody?_none {negated : Bool} {v r : List Char}
    (h : asciiBody? negated (v ++ ']' :: r) = none) (w : List Char) :
    asciiBody? negated (v ++ ']' :: w) = none := by
  cases hcut : Text.cut? ':' v with
  | none =>
    -- a name that reached beyond the bracket would hold the bracket
    rw [asciiBody?, cut?_append, hcut]
    cases hbehind : Text.cut? ':' (']' :: w) with
    | none => rfl
    | some r' =>
      obtain ⟨name, behind⟩ := r'
      have hmem : ']' ∈ v ++ name := by
        obtain ⟨heq, -⟩ := cut?_found hbehind
        cases name with
        | nil => cases heq
        | cons c name => cases heq; simp
      simp only [Option.map_some]
      split
      · next heq =>
        obtain ⟨rfl, -⟩ := Prod.mk.inj (Option.some.inj heq)
        rw [asciiClass?_none hmem]
        rfl
      · rfl
  | some r' =>
    obtain ⟨name, behind⟩ := r'
    rw [asciiBody?, cut?_append, hcut] at h ⊢
    cases behind with
    | nil =>
      simp only [List.nil_append, Option.map_eq_none_iff] at h ⊢
      exact h
    | cons c behind =>
      by_cases hc : c = ']'
      · subst hc
        simp only [List.cons_append, Option.map_eq_none_iff] at h ⊢
        exact h
      · simp only [List.cons_append]
        split
        · next heq =>
          obtain ⟨-, heq⟩ := Prod.mk.inj (Option.some.inj heq)
          exact absurd (List.cons.inj heq).1 hc
        · rfl

theorem asciiItem?_plain {c : Char} {cs : List Char} (h : c ≠ '^') :
    asciiItem? (':' :: c :: cs) = asciiBody? false (c :: cs) := by
  rw [asciiItem?_colon, asciiSign_plain h]

theorem asciiItem?_found {cs rest : List Char} {item : SetPattern}
    (h : asciiItem? cs = some (item, rest)) :
    ∃ u, cs = u ++ rest ∧ ∀ w, asciiItem? (u ++ w) = some (item, w) := by
  rcases cs with _ | ⟨c, cs⟩
  · cases h
  by_cases hc : c = ':'
  · subst hc
    rcases cs with _ | ⟨d, cs⟩
    · cases h
    by_cases hd : d = '^'
    · subst hd
      obtain ⟨u, rfl, hu⟩ := asciiBody?_found (show asciiBody? true cs = _ from h)
      exact ⟨':' :: '^' :: u, rfl, hu⟩
    · rw [asciiItem?_plain hd] at h
      obtain ⟨u, heq, hu⟩ := asciiBody?_found h
      cases u with
      | nil => cases hu []
      | cons e u =>
        obtain ⟨rfl, rfl⟩ := List.cons.inj heq
        exact ⟨':' :: d :: u, rfl, fun w => (asciiItem?_plain hd).trans (hu w)⟩
  · rw [asciiItem?_other hc] at h
    cases h

theorem asciiItem?_none {v r : List Char} (h : asciiItem? (v ++ ']' :: r) = none)
    (w : List Char) : asciiItem? (v ++ ']' :: w) = none := by
  rcases v with _ | ⟨c, v⟩
  · rfl
  by_cases hc : c = ':'
  · subst hc
    rcases v with _ | ⟨d, v⟩
    · exact (asciiItem?_plain (by decide)).trans
        (asciiBody?_none (v := []) ((asciiItem?_plain (by decide)).symm.trans h) w)
    by_cases hd : d = '^'
    · subst hd
      exact asciiBody?_none (show asciiBody? true (v ++ ']' :: r) = none from h) w
    · exact (asciiItem?_plain hd).trans
        (asciiBody?_none (v := d :: v) ((asciiItem?_plain hd).symm.trans h) w)
  · exact asciiItem?_other hc

theorem leadingMinus_found {spaced : Bool} {fuel : Nat} {items items' : List SetPattern}
    {cs rest : List Char} {c : Char}
    (h : leadingMinus spaced fuel items cs = .ok (items', c :: rest)) :
    ∃ u, cs = u ++ c :: rest ∧ ∀ w n, u.length < n →
      leadingMinus spaced n items (u ++ c :: w) = .ok (items', c :: w) := by
  induction fuel generalizing items cs with
  | zero => cases h
  | succ fuel ih =>
    rcases cs with _ | ⟨d, cs⟩
    · cases h
    by_cases hd : d = '-'
    · subst hd
      rw [leadingMinus] at h
      split at h
      · cases h
      · next hne =>
        obtain ⟨u, hu, hminus⟩ := ih h
        obtain ⟨s, rfl, hs⟩ := skip_front hu
        refine ⟨'-' :: (s ++ u), by simp, fun w n hn => ?_⟩
        cases n with
        | zero => cases hn
        | succ n =>
          rw [List.cons_append, List.append_assoc, leadingMinus, hs]
          split
          · next heq => simp at heq
          · exact hminus w n (by simp only [List.length_cons, List.length_append] at hn; omega)
    · have hstop : ∀ n w, leadingMinus spaced (n + 1) items (d :: w) = .ok (items, d :: w) := by
        intro n w
        rw [leadingMinus]
        rintro x ⟨⟩
        exact hd rfl
      rw [hstop] at h
      obtain ⟨rfl, heq⟩ := Prod.mk.inj (Except.ok.inj h)
      obtain ⟨rfl, rfl⟩ := List.cons.inj heq
      refine ⟨[], rfl, fun w n hn => ?_⟩
      cases n with
      | zero => cases hn
      | succ n => exact hstop n w

theorem leadingMinus_nonempty {spaced : Bool} {fuel : Nat} {items items' : List SetPattern}
    {cs rest : List Char} (hne : cs ≠ [])
    (h : leadingMinus spaced fuel items cs = .ok (items', rest)) : rest ≠ [] := by
  induction fuel generalizing items cs with
  | zero => cases h
  | succ fuel ih =>
    rcases cs with _ | ⟨d, cs⟩
    · exact absurd rfl hne
    by_cases hd : d = '-'
    · subst hd
      rw [leadingMinus] at h
      split at h
      · cases h
      · next hskip => exact ih hskip h
    · rw [leadingMinus] at h
      · cases h
        exact hne
      · rintro x ⟨⟩
        exact hd rfl

/-- What `openBracket` does behind the negation. -/
def bracketBody (spaced negated : Bool) (cs : List Char) : Taken (Bool × List SetPattern) :=
  match cs with
  | [] => .error .setUnclosed
  | cs =>
    match leadingMinus spaced (cs.length + 1) [] cs with
    | .error e => .error e
    | .ok ([], ']' :: rest) =>
      match skip spaced rest with
      | [] => .error .setUnclosed
      | rest => .ok ((negated, [.literal ⟨']', false⟩]), rest)
    | .ok (items, rest) => .ok ((negated, items), rest)

theorem openBracket_eq {spaced : Bool} {cs rest : List Char} {c : Char}
    (h : skip spaced cs = c :: rest) :
    openBracket spaced cs =
      bracketBody spaced (c = '^') (if c = '^' then skip spaced rest else c :: rest) := by
  rw [openBracket, h]
  rfl

/-- A closing bracket behind the negation stands for itself. -/
theorem bracketBody_close {spaced negated : Bool} {cs rest front : List Char} {c : Char}
    (h : leadingMinus spaced (cs.length + 1) [] cs = .ok ([], ']' :: rest)) (hne : cs ≠ [])
    (hfront : skip spaced rest = c :: front) :
    bracketBody spaced negated cs =
      .ok ((negated, [.literal ⟨']', false⟩]), c :: front) := by
  cases cs with
  | nil => exact absurd rfl hne
  | cons d cs => simp only [bracketBody, h, hfront]

theorem bracketBody_items {spaced negated : Bool} {cs rest : List Char}
    {items : List SetPattern} {c : Char}
    (h : leadingMinus spaced (cs.length + 1) [] cs = .ok (items, c :: rest)) (hne : cs ≠ [])
    (hc : items = [] → c ≠ ']') :
    bracketBody spaced negated cs = .ok ((negated, items), c :: rest) := by
  cases cs with
  | nil => exact absurd rfl hne
  | cons d cs =>
    simp only [bracketBody, h]
    split
    · next heq => cases heq
    · next heq => cases heq; exact absurd rfl (hc rfl)
    · next heq => cases heq; rfl

theorem bracketBody_unclosed {spaced negated : Bool} {cs rest : List Char}
    (h : leadingMinus spaced (cs.length + 1) [] cs = .ok ([], ']' :: rest))
    (hfront : skip spaced rest = []) : bracketBody spaced negated cs = .error .setUnclosed := by
  cases cs with
  | nil => rfl
  | cons d cs => simp only [bracketBody, h, hfront]

theorem bracketBody_found {spaced negated : Bool} {cs rest : List Char}
    {x : Bool × List SetPattern} (h : bracketBody spaced negated cs = .ok (x, rest)) :
    ∃ c r u, rest = c :: r ∧ cs = u ++ c :: r ∧
      ∀ w, bracketBody spaced negated (u ++ c :: w) = .ok (x, c :: w) := by
  by_cases hne : cs = []
  · subst hne; cases h
  cases hminus : leadingMinus spaced (cs.length + 1) [] cs with
  | error e => cases cs <;> simp only [bracketBody, hminus] at h <;> cases h
  | ok r =>
    obtain ⟨items, behind⟩ := r
    cases behind with
    | nil => exact absurd rfl (leadingMinus_nonempty hne hminus)
    | cons d behind =>
      obtain ⟨u, rfl, hu⟩ := leadingMinus_found hminus
      have hu' : ∀ w, leadingMinus spaced ((u ++ d :: w).length + 1) [] (u ++ d :: w) =
          .ok (items, d :: w) := fun w => hu w _ (by simp only [List.length_append]; omega)
      by_cases hclose : items = [] ∧ d = ']'
      · obtain ⟨rfl, rfl⟩ := hclose
        cases hskip : skip spaced behind with
        | nil => rw [bracketBody_unclosed hminus hskip] at h; cases h
        | cons c front =>
          rw [bracketBody_close hminus hne hskip] at h
          cases h
          obtain ⟨s, rfl, hs⟩ := skip_found hskip
          refine ⟨c, front, u ++ ']' :: s, rfl, by simp, fun w => ?_⟩
          rw [List.append_assoc, List.cons_append]
          exact bracketBody_close (hu' _) (by simp) (hs w)
      · have hc : items = [] → d ≠ ']' := fun hi hd => hclose ⟨hi, hd⟩
        rw [bracketBody_items hminus hne hc] at h
        cases h
        exact ⟨d, behind, u, rfl, rfl, fun w => bracketBody_items (hu' w) (by simp) hc⟩

theorem openBracket_found {spaced : Bool} {cs rest : List Char} {x : Bool × List SetPattern}
    (h : openBracket spaced cs = .ok (x, rest)) :
    ∃ c r u, rest = c :: r ∧ cs = u ++ c :: r ∧
      ∀ w, openBracket spaced (u ++ c :: w) = .ok (x, c :: w) := by
  cases hskip : skip spaced cs with
  | nil => rw [openBracket, hskip] at h; cases h
  | cons d front =>
    rw [openBracket_eq hskip] at h
    obtain ⟨s, rfl, hs⟩ := skip_found hskip
    obtain ⟨c, r, u, rfl, hu, hbody⟩ := bracketBody_found h
    split at hu
    · next hd =>
      obtain ⟨s', rfl, hs'⟩ := skip_front hu
      refine ⟨c, r, s ++ d :: (s' ++ u), rfl, by simp, fun w => ?_⟩
      rw [List.append_assoc, List.cons_append, List.append_assoc, openBracket_eq (hs _), if_pos hd,
        hs' w]
      exact hbody w
    · next hd =>
      have hopen : ∀ w, openBracket spaced (s ++ d :: w) =
          bracketBody spaced (d = '^') (d :: w) := fun w => by rw [openBracket_eq (hs w), if_neg hd]
      cases u with
      | nil =>
        obtain ⟨rfl, rfl⟩ := List.cons.inj hu
        exact ⟨d, front, s, rfl, rfl, fun w => (hopen w).trans (hbody w)⟩
      | cons e u =>
        obtain ⟨rfl, rfl⟩ := List.cons.inj hu
        refine ⟨c, r, s ++ d :: u, rfl, by simp, fun w => ?_⟩
        rw [List.append_assoc, List.cons_append, hopen]
        exact hbody w

theorem openBracket_front {spaced : Bool} {cs v rest : List Char} {x : Bool × List SetPattern}
    {c : Char} (h : openBracket spaced cs = .ok (x, v ++ c :: rest)) :
    ∃ u, cs = u ++ (v ++ c :: rest) ∧
      ∀ w, openBracket spaced (u ++ (v ++ c :: w)) = .ok (x, v ++ c :: w) := by
  obtain ⟨d, r, u, hrest, rfl, hu⟩ := openBracket_found h
  cases v with
  | nil =>
    obtain ⟨rfl, rfl⟩ := List.cons.inj hrest
    exact ⟨u, rfl, hu⟩
  | cons e v =>
    obtain ⟨rfl, rfl⟩ := List.cons.inj hrest
    exact ⟨u, rfl, fun w => hu _⟩

/-- A character or an escape in a set, but for a word boundary, which no set may hold. -/
theorem setPrimitive_takes {spaced : Bool} {cs rest : List Char} {p : Pattern}
    (h : setPrimitive spaced cs = .ok (p, rest)) (hp : ∀ a, p ≠ .assertion a) :
    ∃ c u w b, (b = true → spaced = true) ∧ cs = c :: (u ++ w) ∧ rest = skip b w ∧
      Takes b (setPrimitive spaced) (c :: u) p := by
  rcases cs with _ | ⟨c, cs⟩
  · cases h
  by_cases hc : c = '\\'
  · subst hc
    rcases cs with _ | ⟨d, cs⟩
    · cases h
    by_cases hd : d = 'b'
    · subst hd
      obtain ⟨⟨edge, rfl⟩, -⟩ := wordBoundary_shape (show wordBoundary spaced cs = _ from h)
      exact absurd rfl (hp _)
    · obtain ⟨u, w, b, hb, rfl, rfl, htakes⟩ := escape_reads hd _ _ _ h
      exact ⟨'\\', d :: u, w, b, hb, rfl, rfl, htakes⟩
  · have hplain : ∀ w, setPrimitive spaced (c :: w) = .ok (.literal ⟨c, false⟩, w) := by
      intro w
      rw [setPrimitive]
      exact hc
    rw [hplain] at h
    cases h
    exact ⟨c, [], rest, false, by simp, rfl, rfl, hplain⟩

theorem toItem_assertion {p : Pattern} {item : SetPattern} (h : toItem p = .ok item) (a : Assertion) :
    p ≠ .assertion a := by
  rintro rfl
  cases h

theorem toRangeEnd_assertion {p : Pattern} {l : Literal} (h : toRangeEnd p = .ok l)
    (a : Assertion) : p ≠ .assertion a := by
  rintro rfl
  cases h

theorem peekFrom_close (inComment : Bool) (v r w : List Char) :
    peekFrom inComment (v ++ ']' :: r) = peekFrom inComment (v ++ ']' :: w) ∧
      peekFrom inComment (v ++ ']' :: r) ≠ none := by
  induction v generalizing inComment with
  | nil => cases inComment <;> exact ⟨rfl, nofun⟩
  | cons c v ih =>
    simp only [List.cons_append, peekFrom]
    split
    · exact ih _
    · split
      · exact ih _
      · exact ⟨rfl, nofun⟩

theorem peekSpaced_close (spaced : Bool) (v r w : List Char) :
    peekSpaced spaced (v ++ ']' :: r) = peekSpaced spaced (v ++ ']' :: w) := by
  cases spaced with
  | false => cases v <;> rfl
  | true =>
    obtain ⟨heq, hne⟩ := peekFrom_close false v r w
    obtain ⟨c, hc⟩ := Option.ne_none_iff_exists'.mp hne
    rw [hc] at heq
    simp only [peekSpaced, hc, ← heq]
    rfl

theorem setItem_single {spaced : Bool} {cs behind rest : List Char} {first : Pattern}
    {item : SetPattern} {c : Char} (hfirst : setPrimitive spaced cs = .ok (first, behind))
    (hskip : skip spaced behind = c :: rest) (hitem : toItem first = .ok item)
    (hc : c ≠ '-' ∨ peekSpaced spaced rest = some ']' ∨ peekSpaced spaced rest = some '-') :
    setItem spaced cs = .ok (item, c :: rest) := by
  have hc' : (decide (c ≠ '-') || decide (peekSpaced spaced rest = some ']') ||
      decide (peekSpaced spaced rest = some '-')) = true := by
    simpa only [Bool.or_eq_true, decide_eq_true_eq, or_assoc] using hc
  simp only [setItem, hfirst, hskip, hitem]
  rw [if_pos hc']

theorem setItem_range {spaced : Bool} {cs behind rest front rest' : List Char}
    {first last : Pattern} {a b : Literal} {c d : Char}
    (hfirst : setPrimitive spaced cs = .ok (first, behind))
    (hskip : skip spaced behind = c :: rest)
    (hc : ¬ (c ≠ '-' ∨ peekSpaced spaced rest = some ']' ∨ peekSpaced spaced rest = some '-'))
    (hfront : skip spaced rest = d :: front)
    (hlast : setPrimitive spaced (d :: front) = .ok (last, rest'))
    (ha : toRangeEnd first = .ok a) (hb : toRangeEnd last = .ok b)
    (hle : a.char.toNat ≤ b.char.toNat) :
    setItem spaced cs = .ok (.range a b, rest') := by
  have hc' : ¬ (decide (c ≠ '-') || decide (peekSpaced spaced rest = some ']') ||
      decide (peekSpaced spaced rest = some '-')) = true := by
    simpa only [Bool.or_eq_true, decide_eq_true_eq, or_assoc] using hc
  simp only [setItem, hfirst, hskip, hfront, hlast, ha, hb]
  rw [if_neg hc', if_pos hle]

/-- The two ways to read an item. -/
theorem setItem_cases {spaced : Bool} {cs rest' : List Char} {item : SetPattern}
    (h : setItem spaced cs = .ok (item, rest')) :
    ∃ first behind c rest, setPrimitive spaced cs = .ok (first, behind) ∧
      skip spaced behind = c :: rest ∧
      ((toItem first = .ok item ∧ rest' = c :: rest ∧
          (c ≠ '-' ∨ peekSpaced spaced rest = some ']' ∨ peekSpaced spaced rest = some '-')) ∨
        ¬ (c ≠ '-' ∨ peekSpaced spaced rest = some ']' ∨ peekSpaced spaced rest = some '-') ∧
          ∃ d front last a b, skip spaced rest = d :: front ∧
            setPrimitive spaced (d :: front) = .ok (last, rest') ∧ toRangeEnd first = .ok a ∧
            toRangeEnd last = .ok b ∧ a.char.toNat ≤ b.char.toNat ∧ item = .range a b) := by
  rw [setItem] at h
  split at h
  · cases h
  · next first behind hfirst =>
    split at h
    · cases h
    · next c rest hskip =>
      refine ⟨first, behind, c, rest, hfirst, hskip, ?_⟩
      simp only [Bool.or_eq_true, decide_eq_true_eq, or_assoc] at h
      split at h
      · next hc =>
        split at h
        · cases h
        · next hitem => cases h; exact .inl ⟨hitem, rfl, hc⟩
      · next hc =>
        refine .inr ⟨hc, ?_⟩
        cases hfront : skip spaced rest with
        | nil => rw [hfront] at h; cases h
        | cons d front =>
          rw [hfront] at h
          dsimp only at h
          split at h
          · cases h
          · next last behind' hlast =>
            split at h
            · next a b ha hb =>
              split at h
              · next hle =>
                cases h
                exact ⟨d, front, last, a, b, rfl, hlast, ha, hb, hle, rfl⟩
              · cases h
            · cases h
            · cases h

theorem setItem_found {spaced : Bool} {cs v r : List Char} {item : SetPattern}
    (h : setItem spaced cs = .ok (item, v ++ ']' :: r)) :
    ∃ c u, cs = c :: (u ++ (v ++ ']' :: r)) ∧
      ∀ w, setItem spaced (c :: (u ++ (v ++ ']' :: w))) = .ok (item, v ++ ']' :: w) := by
  obtain ⟨first, behind, c, rest, hfirst, hskip, ⟨hitem, hrest, hc⟩ | ⟨hc, d, front, last, a, b,
    hfront, hlast, ha, hb, hle, rfl⟩⟩ := setItem_cases h
  · obtain ⟨c0, u, w0, b, hb, rfl, rfl, htakes⟩ := setPrimitive_takes hfirst (toItem_assertion hitem)
    rw [skip_of_skip hb, ← hrest] at hskip
    obtain ⟨s, rfl, hs⟩ := skip_front hskip
    refine ⟨c0, u ++ s, by simp, fun w => ?_⟩
    have hprimitive := htakes (s ++ (v ++ ']' :: w))
    rw [List.cons_append, ← List.append_assoc] at hprimitive
    have hskip' : skip spaced (skip b (s ++ (v ++ ']' :: w))) = v ++ ']' :: w := by
      rw [skip_of_skip hb, hs]
    cases v with
    | nil => exact setItem_single hprimitive hskip' hitem (.inl (by decide))
    | cons c' v =>
      obtain ⟨rfl, hrest'⟩ := List.cons.inj hrest
      rw [← hrest', List.append_eq, peekSpaced_close spaced v r w] at hc
      exact setItem_single hprimitive hskip' hitem hc
  · obtain ⟨c0, u, w0, b0, hb0, rfl, rfl, htakes⟩ :=
      setPrimitive_takes hfirst (toRangeEnd_assertion ha)
    rw [skip_of_skip hb0] at hskip
    obtain ⟨s, rfl, hs⟩ := skip_found hskip
    obtain ⟨s', rfl, hs'⟩ := skip_found hfront
    obtain ⟨d', u', w', b', -, heq, hrest, htakes'⟩ :=
      setPrimitive_takes hlast (toRangeEnd_assertion hb)
    obtain ⟨rfl, rfl⟩ := List.cons.inj heq
    obtain ⟨s'', rfl, hs''⟩ := skip_front hrest.symm
    refine ⟨c0, u ++ (s ++ c :: (s' ++ d :: (u' ++ s''))), by simp, fun w => ?_⟩
    have htext : c0 :: (u ++ (s ++ c :: (s' ++ d :: (u' ++ s''))) ++ (v ++ ']' :: w)) =
        c0 :: u ++ (s ++ c :: (s' ++ d :: (u' ++ (s'' ++ (v ++ ']' :: w))))) := by simp
    have hpeek : ∀ w, s' ++ d :: (u' ++ (s'' ++ (v ++ ']' :: w))) =
        s' ++ d :: (u' ++ (s'' ++ v)) ++ ']' :: w := fun w => by simp
    rw [hpeek, peekSpaced_close spaced _ r w, ← hpeek] at hc
    have hlast' := htakes' (s'' ++ (v ++ ']' :: w))
    rw [hs''] at hlast'
    rw [htext]
    exact setItem_range (htakes _) (by rw [skip_of_skip hb0, hs]) hc (hs' _) hlast' ha hb hle

/-- Two characters that stand for an operation on sets. -/
def IsOperation (c : Char) (rest : List Char) : Prop :=
  c = '&' ∧ rest.head? = some '&' ∨ c = '-' ∧ rest.head? = some '-' ∨
    c = '~' ∧ rest.head? = some '~'

theorem not_isOperation {c : Char} {rest : List Char}
    (hinter : ∀ x, c :: rest = '&' :: '&' :: x → False)
    (hdiff : ∀ x, c :: rest = '-' :: '-' :: x → False)
    (hsymm : ∀ x, c :: rest = '~' :: '~' :: x → False) : ¬ IsOperation c rest := by
  rintro (⟨rfl, h⟩ | ⟨rfl, h⟩ | ⟨rfl, h⟩)
  · obtain ⟨x, rfl⟩ := List.head?_eq_some_iff.mp h
    exact hinter x rfl
  · obtain ⟨x, rfl⟩ := List.head?_eq_some_iff.mp h
    exact hdiff x rfl
  · obtain ⟨x, rfl⟩ := List.head?_eq_some_iff.mp h
    exact hsymm x rfl

theorem isOperation_close {c : Char} {v r w : List Char} (h : IsOperation c (v ++ ']' :: w)) :
    IsOperation c (v ++ ']' :: r) := by
  have hhead : (v ++ ']' :: w).head? = (v ++ ']' :: r).head? := by cases v <;> rfl
  rw [IsOperation, hhead] at h
  exact h

theorem setItems_item {spaced : Bool} {n : Nat} {frames : List SetFrame}
    {items : List SetPattern} {cs front rest : List Char} {item : SetPattern} {c : Char}
    (hskip : skip spaced cs = c :: front) (hopen : c ≠ '[') (hclose : c ≠ ']')
    (hoperation : ¬ IsOperation c front) (hitem : setItem spaced (c :: front) = .ok (item, rest)) :
    setItems spaced (n + 1) frames items cs = setItems spaced n frames (item :: items) rest := by
  simp only [setItems, hskip]
  split
  · next heq => cases heq
  · next heq => exact absurd (List.cons.inj heq).1 hopen
  · next heq => exact absurd (List.cons.inj heq).1 hclose
  · next heq => cases heq; exact absurd (.inl ⟨rfl, rfl⟩) hoperation
  · next heq => cases heq; exact absurd (.inr (.inl ⟨rfl, rfl⟩)) hoperation
  · next heq => cases heq; exact absurd (.inr (.inr ⟨rfl, rfl⟩)) hoperation
  · rw [hitem]

/-- With these characters and a closing bracket behind them the set is read, whatever else stands
there. Rounds are never missing while there are characters. -/
def CloseSet (spaced : Bool) (frames : List SetFrame) (items : List SetPattern) (v : List Char)
    (p : Pattern) : Prop :=
  ∀ (w : List Char) (n : Nat), v.length < n →
    setItems spaced n frames items (v ++ ']' :: w) = .ok (p, w)

theorem CloseSet.round {spaced : Bool} {frames frames' : List SetFrame}
    {items items' : List SetPattern} {front v : List Char} {p : Pattern}
    (h : CloseSet spaced frames' items' v p) (hfront : front ≠ [])
    (hround : ∀ w n, setItems spaced (n + 1) frames items (front ++ (v ++ ']' :: w)) =
      setItems spaced n frames' items' (v ++ ']' :: w)) :
    CloseSet spaced frames items (front ++ v) p := by
  intro w n hn
  cases n with
  | zero => cases hn
  | succ n =>
    have hpos := List.length_pos_iff.mpr hfront
    rw [List.length_append] at hn
    rw [List.append_assoc, hround]
    exact h w n (by omega)

/-- The items of a set are read up to the bracket that closes the outermost set, by induction on
the rounds. -/
theorem setItems_found {spaced : Bool} {fuel : Nat} {frames : List SetFrame}
    {items : List SetPattern} {cs r : List Char} {p : Pattern}
    (h : setItems spaced fuel frames items cs = .ok (p, r)) :
    ∃ v, cs = v ++ ']' :: r ∧ CloseSet spaced frames items v p := by
  induction fuel generalizing frames items cs with
  | zero => cases h
  | succ fuel ih =>
    simp only [setItems] at h
    split at h
    · cases h
    · next rest hskip =>
      obtain ⟨s, rfl, hs⟩ := skip_found hskip
      split at h
      · next item rest' hclass =>
        obtain ⟨v, rfl, hv⟩ := ih h
        obtain ⟨u, rfl, hu⟩ := asciiItem?_found hclass
        refine ⟨s ++ '[' :: u ++ v, by simp, hv.round (by simp) fun w n => ?_⟩
        rw [List.append_assoc, List.cons_append]
        simp only [setItems, hs, hu]
      · next hclass =>
        split at h
        · cases h
        · next negated inner rest' hopen =>
          obtain ⟨v, rfl, hv⟩ := ih h
          obtain ⟨u, rfl, hu⟩ := openBracket_front hopen
          rw [← List.append_assoc] at hclass
          refine ⟨s ++ '[' :: u ++ v, by simp, hv.round (by simp) fun w n => ?_⟩
          have hclass' := asciiItem?_none hclass w
          rw [List.append_assoc] at hclass'
          rw [List.append_assoc, List.cons_append]
          simp only [setItems, hs, hclass', hu]
    · next rest hskip =>
      obtain ⟨s, rfl, hs⟩ := skip_found hskip
      split at h
      · next set items' negated hclosed =>
        cases h
        refine ⟨s, rfl, fun w n hn => ?_⟩
        cases n with
        | zero => cases hn
        | succ n => simp only [setItems, hs, hclosed]
      · next set outer negated frames' hmore hclosed =>
        obtain ⟨v, rfl, hv⟩ := ih h
        refine ⟨s ++ [']'] ++ v, by simp, hv.round (by simp) fun w n => ?_⟩
        rw [List.append_assoc, List.singleton_append]
        simp only [setItems, hs, hclosed]
      · cases h
    · next rest hskip =>
      obtain ⟨v, rfl, hv⟩ := ih h
      obtain ⟨s, rfl, hs⟩ := skip_found hskip
      refine ⟨s ++ ['&', '&'] ++ v, by simp, hv.round (by simp) fun w n => ?_⟩
      rw [List.append_assoc, List.cons_append, List.singleton_append]
      simp only [setItems, hs]
    · next rest hskip =>
      obtain ⟨v, rfl, hv⟩ := ih h
      obtain ⟨s, rfl, hs⟩ := skip_found hskip
      refine ⟨s ++ ['-', '-'] ++ v, by simp, hv.round (by simp) fun w n => ?_⟩
      rw [List.append_assoc, List.cons_append, List.singleton_append]
      simp only [setItems, hs]
    · next rest hskip =>
      obtain ⟨v, rfl, hv⟩ := ih h
      obtain ⟨s, rfl, hs⟩ := skip_found hskip
      refine ⟨s ++ ['~', '~'] ++ v, by simp, hv.round (by simp) fun w n => ?_⟩
      rw [List.append_assoc, List.cons_append, List.singleton_append]
      simp only [setItems, hs]
    · next hnil hopen hclose hinter hdiff hsymm =>
      split at h
      · cases h
      · next item rest hitem =>
        obtain ⟨v, rfl, hv⟩ := ih h
        obtain ⟨c, u, hfront, hu⟩ := setItem_found hitem
        obtain ⟨s, rfl, hs⟩ := skip_found hfront
        rw [hfront] at hopen hclose hinter hdiff hsymm
        have hnone : ∀ w, ¬ IsOperation c (u ++ (v ++ ']' :: w)) := by
          intro w hoperation
          rw [← List.append_assoc] at hoperation
          have hsame := isOperation_close (r := r) hoperation
          rw [List.append_assoc] at hsame
          exact not_isOperation hinter hdiff hsymm hsame
        refine ⟨s ++ c :: u ++ v, by simp, hv.round (by simp) fun w n => ?_⟩
        rw [List.append_assoc, List.cons_append]
        exact setItems_item (hs _) (fun hc => hopen _ (by rw [hc]))
          (fun hc => hclose _ (by rw [hc])) (hnone w) (hu w)

/-- What is read is a set, by induction on the rounds. -/
theorem setItems_shape {spaced : Bool} {fuel : Nat} {frames : List SetFrame}
    {items : List SetPattern} {cs r : List Char} {p : Pattern}
    (h : setItems spaced fuel frames items cs = .ok (p, r)) :
    ∃ negated set, p = .bracket negated set := by
  induction fuel generalizing frames items cs with
  | zero => cases h
  | succ fuel ih =>
    simp only [setItems] at h
    split at h
    · cases h
    · split at h
      · exact ih h
      · split at h
        · cases h
        · exact ih h
    · split at h
      · cases h; exact ⟨_, _, rfl⟩
      · exact ih h
      · cases h
    · exact ih h
    · exact ih h
    · exact ih h
    · split at h
      · cases h
      · exact ih h

theorem bracketed_shape {spaced : Bool} {cs rest : List Char} {p : Pattern}
    (h : bracketed spaced cs = .ok (p, rest)) : ∃ negated set, p = .bracket negated set := by
  rw [bracketed] at h
  split at h
  · cases h
  · exact setItems_shape h

theorem bracketed_reads (spaced : Bool) : Reads false (bracketed spaced) := by
  refine reads_of_exact fun cs p r h => ?_
  rw [bracketed] at h
  split at h
  · cases h
  · next negated items rest hopen =>
    obtain ⟨v, rfl, hv⟩ := setItems_found h
    obtain ⟨u, rfl, hu⟩ := openBracket_front hopen
    refine ⟨u ++ (v ++ [']']), by simp, fun w => ?_⟩
    have htext : u ++ (v ++ [']']) ++ w = u ++ (v ++ ']' :: w) := by simp
    rw [htext, bracketed, hu]
    exact hv w _ (by simp only [List.length_append]; omega)

end Pattern
end Regex
end MeshTelemetry
