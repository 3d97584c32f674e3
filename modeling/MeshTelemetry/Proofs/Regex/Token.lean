import MeshTelemetry.Proofs.Regex.Reading
import Mathlib.Tactic.SplitIfs

/-!
# MeshTelemetry.Proofs.Regex.Token

The readers of the parts of a pattern that hold no other pattern read off the front of the text.

* `bounds_reads`, `escape_reads`, `opening_extends`: what the parser calls.
* `Dangling`: the one text whose meaning an end behind it can change without being read.
-/

namespace MeshTelemetry
namespace Regex
namespace Pattern

theorem dropWhile_found {p : Char → Bool} {cs rest : List Char} {c : Char}
    (h : cs.dropWhile p = c :: rest) :
    ∃ s, cs = s ++ c :: rest ∧ ∀ w, (s ++ c :: w).dropWhile p = c :: w := by
  induction cs with
  | nil => cases h
  | cons d ds ih =>
    by_cases hd : p d = true
    · rw [List.dropWhile_cons_of_pos hd] at h
      obtain ⟨s, rfl, hs⟩ := ih h
      exact ⟨d :: s, rfl, fun w => by rw [List.cons_append, List.dropWhile_cons_of_pos hd, hs]⟩
    · rw [List.dropWhile_cons_of_neg hd] at h
      obtain ⟨rfl, rfl⟩ := List.cons.inj h
      exact ⟨[], rfl, fun w => List.dropWhile_cons_of_neg hd⟩

theorem dropWhile_front {p : Char → Bool} {cs v rest : List Char} {c : Char}
    (h : cs.dropWhile p = v ++ c :: rest) :
    ∃ s, cs = s ++ (v ++ c :: rest) ∧ ∀ w, (s ++ (v ++ c :: w)).dropWhile p = v ++ c :: w := by
  cases v with
  | nil => exact dropWhile_found h
  | cons d v =>
    obtain ⟨s, hcs, hs⟩ := dropWhile_found h
    exact ⟨s, hcs, fun w => hs (v ++ c :: w)⟩

/-- The digits of a count end at a character, whatever stands behind it. -/
theorem digits_found {spaced inComment : Bool} {cs rest : List Char} {ds : List Nat} {c : Char}
    (h : digits spaced inComment cs = (ds, c :: rest)) :
    ∃ u, cs = u ++ c :: rest ∧ ∀ w, digits spaced inComment (u ++ c :: w) = (ds, c :: w) := by
  induction cs generalizing inComment ds with
  | nil => cases inComment <;> cases h
  | cons d cs ih =>
    cases inComment with
    | true =>
      by_cases hd : d = '\n'
      · rw [digits, if_pos hd] at h
        obtain ⟨u, rfl, hu⟩ := ih h
        exact ⟨d :: u, rfl, fun w => by rw [List.cons_append, digits, if_pos hd, hu]⟩
      · rw [digits, if_neg hd] at h
        obtain ⟨u, rfl, hu⟩ := ih h
        exact ⟨d :: u, rfl, fun w => by rw [List.cons_append, digits, if_neg hd, hu]⟩
    | false =>
      by_cases hblank : (spaced && Text.isBlank d) = true
      · rw [digits, if_pos hblank] at h
        obtain ⟨u, rfl, hu⟩ := ih h
        exact ⟨d :: u, rfl, fun w => by rw [List.cons_append, digits, if_pos hblank, hu]⟩
      by_cases hsign : (spaced && d = '#') = true
      · rw [digits, if_neg hblank, if_pos hsign] at h
        obtain ⟨u, rfl, hu⟩ := ih h
        exact ⟨d :: u, rfl, fun w => by
          rw [List.cons_append, digits, if_neg hblank, if_pos hsign, hu]⟩
      by_cases hdigit : isDecimal d = true
      · rw [digits, if_neg hblank, if_neg hsign, if_pos hdigit] at h
        obtain ⟨rfl, hrest⟩ := Prod.mk.inj h
        obtain ⟨u, rfl, hu⟩ := ih (Prod.ext rfl hrest)
        exact ⟨d :: u, rfl, fun w => by
          rw [List.cons_append, digits, if_neg hblank, if_neg hsign, if_pos hdigit, hu]⟩
      · rw [digits, if_neg hblank, if_neg hsign, if_neg hdigit] at h
        obtain ⟨rfl, hrest⟩ := Prod.mk.inj h
        obtain ⟨rfl, rfl⟩ := List.cons.inj hrest
        exact ⟨[], rfl, fun w => by
          rw [List.nil_append, digits, if_neg hblank, if_neg hsign, if_neg hdigit]⟩

theorem digits_front {spaced inComment : Bool} {cs v rest : List Char} {ds : List Nat} {c : Char}
    (h : digits spaced inComment cs = (ds, v ++ c :: rest)) :
    ∃ u, cs = u ++ (v ++ c :: rest) ∧
      ∀ w, digits spaced inComment (u ++ (v ++ c :: w)) = (ds, v ++ c :: w) := by
  cases v with
  | nil => exact digits_found h
  | cons d v =>
    obtain ⟨u, hcs, hu⟩ := digits_found h
    exact ⟨u, hcs, fun w => hu (v ++ c :: w)⟩

theorem count_found {spaced : Bool} {cs rest : List Char} {n : Nat} {c : Char}
    (h : count spaced cs = .ok (n, c :: rest)) :
    ∃ u, cs = u ++ c :: rest ∧ ∀ w, count spaced (u ++ c :: w) = .ok (n, c :: w) := by
  cases hds : digits spaced false (cs.dropWhile Text.isBlank) with
  | mk ds behind =>
    simp only [count, hds] at h
    split at h
    · cases h
    · next hne =>
      split at h
      · next hn =>
        obtain ⟨rfl, hbehind⟩ := Prod.mk.inj (Except.ok.inj h)
        obtain ⟨s, rfl, hs⟩ := dropWhile_found hbehind
        obtain ⟨u, hfront, hu⟩ := digits_front hds
        obtain ⟨s', rfl, hs'⟩ := dropWhile_front (v := u ++ s) (by rw [hfront, List.append_assoc])
        refine ⟨s' ++ (u ++ s), by simp, fun w => ?_⟩
        simp only [count, List.append_assoc] at hs' ⊢
        simp only [hs', hu, hs, if_neg hne, if_pos hn]
      · cases h

theorem bounds_eq {spaced : Bool} {cs front : List Char} (h : skip spaced cs = front)
    (hne : front ≠ []) :
    bounds spaced cs =
      match count spaced front with
      | .error e => .error e
      | .ok (least, '\x7d' :: rest) => .ok ((least, some least), rest)
      | .ok (least, ',' :: rest) =>
        match skip spaced rest with
        | '\x7d' :: rest => .ok ((least, none), rest)
        | rest =>
          match count spaced rest with
          | .error e => .error e
          | .ok (greatest, '\x7d' :: rest) =>
            if least ≤ greatest then .ok ((least, some greatest), rest)
            else .error .repetitionRange
          | .ok _ => .error .repetitionUnclosed
      | .ok _ => .error .repetitionUnclosed := by
  cases front with
  | nil => exact absurd rfl hne
  | cons c cs =>
    rewrite [bounds, h]
    rfl

theorem bounds_reads (spaced : Bool) : Reads false (bounds spaced) := by
  refine reads_of_exact fun cs a rest h => ?_
  cases hcs : skip spaced cs with
  | nil => simp only [bounds, hcs] at h; cases h
  | cons c cs' =>
    rw [bounds_eq hcs (by simp)] at h
    split at h
    · cases h
    · next least behind hcount =>
      obtain ⟨rfl, rfl⟩ := Prod.mk.inj (Except.ok.inj h)
      obtain ⟨u, hu, hcounts⟩ := count_found hcount
      obtain ⟨s, rfl, hs⟩ := skip_front (hcs.trans hu)
      refine ⟨s ++ (u ++ ['\x7d']), by simp, fun w => ?_⟩
      rw [List.append_assoc, List.append_assoc, List.singleton_append, bounds_eq (hs w) (by simp),
        hcounts]
      rfl
    · next least behind hcount =>
      obtain ⟨u, hu, hcounts⟩ := count_found hcount
      obtain ⟨s, rfl, hs⟩ := skip_front (hcs.trans hu)
      split at h
      · next behind' hskip =>
        obtain ⟨rfl, rfl⟩ := Prod.mk.inj (Except.ok.inj h)
        obtain ⟨s', rfl, hs'⟩ := skip_found hskip
        refine ⟨s ++ (u ++ ',' :: (s' ++ ['\x7d'])), by simp, fun w => ?_⟩
        have htext : s ++ (u ++ ',' :: (s' ++ ['\x7d'])) ++ w =
            s ++ (u ++ ',' :: (s' ++ '\x7d' :: w)) := by simp
        rw [htext, bounds_eq (hs _) (by simp), hcounts]
        simp only [hs']
        rfl
      · next behind' hopen =>
        split at h
        · cases h
        · next greatest behind'' hcount' =>
          split at h
          · next hle =>
            obtain ⟨rfl, rfl⟩ := Prod.mk.inj (Except.ok.inj h)
            obtain ⟨u', hu', hcounts'⟩ := count_found hcount'
            obtain ⟨s', rfl, hs'⟩ := skip_front hu'
            refine ⟨s ++ (u ++ ',' :: (s' ++ (u' ++ ['\x7d']))), by simp, fun w => ?_⟩
            have htext : s ++ (u ++ ',' :: (s' ++ (u' ++ ['\x7d']))) ++ w =
                s ++ (u ++ ',' :: (s' ++ (u' ++ '\x7d' :: w))) := by simp
            rw [htext, bounds_eq (hs _) (by simp), hcounts]
            simp only [hs']
            split
            · next heq =>
              -- the second count does not begin with the brace, or it would have been none
              cases u' with
              | nil => exact absurd (hs' _) (hopen behind'')
              | cons d u' =>
                obtain ⟨rfl, -⟩ := List.cons.inj heq
                exact absurd (hs' _) (hopen _)
            · simp only [hcounts', if_pos hle]
              rfl
          · cases h
        · cases h
    · cases h

/-- A number of hexadecimal digits is read; blanks are dropped behind each of them. -/
theorem hexFixed_takes {spaced : Bool} {missing value : Nat} {cs rest : List Char} {c : Char}
    (h : hexFixed spaced (missing + 1) value cs = .ok (c, rest)) :
    ∃ d u w, cs = d :: (u ++ w) ∧ rest = skip spaced w ∧
      Takes spaced (hexFixed spaced (missing + 1) value) (d :: u) c := by
  induction missing generalizing value cs with
  | zero =>
    cases cs with
    | nil => cases h
    | cons d ds =>
      simp only [hexFixed] at h
      split at h
      · cases h
      · next n hn =>
        split at h
        · cases h
        · next c' hc =>
          obtain ⟨rfl, rfl⟩ := Prod.mk.inj (Except.ok.inj h)
          exact ⟨d, [], ds, rfl, rfl, fun w => by simp [hexFixed, hn, hc]⟩
  | succ missing ih =>
    cases cs with
    | nil => cases h
    | cons d ds =>
      rw [hexFixed] at h
      split at h
      · cases h
      · next n hn =>
        obtain ⟨d', u, w, hds, rfl, htakes⟩ := ih h
        obtain ⟨s, rfl, hs⟩ := skip_found hds
        refine ⟨d, s ++ d' :: u, w, by simp, rfl, fun w' => ?_⟩
        rw [List.cons_append, List.append_assoc, List.cons_append, hexFixed, hn]
        simp only [hs]
        exact htakes w'

theorem braced_found {spaced inComment : Bool} {cs name rest : List Char}
    (h : braced spaced inComment cs = some (name, rest)) :
    ∃ u, cs = u ++ rest ∧ ∀ w, braced spaced inComment (u ++ w) = some (name, w) := by
  induction cs generalizing inComment name with
  | nil => cases inComment <;> cases h
  | cons c cs ih =>
    cases inComment with
    | true =>
      by_cases hc : c = '\n'
      · rw [braced, if_pos hc] at h
        obtain ⟨u, rfl, hu⟩ := ih h
        exact ⟨c :: u, rfl, fun w => by rw [List.cons_append, braced, if_pos hc, hu]⟩
      · rw [braced, if_neg hc] at h
        obtain ⟨u, rfl, hu⟩ := ih h
        exact ⟨c :: u, rfl, fun w => by rw [List.cons_append, braced, if_neg hc, hu]⟩
    | false =>
      by_cases hblank : (spaced && Text.isBlank c) = true
      · rw [braced, if_pos hblank] at h
        obtain ⟨u, rfl, hu⟩ := ih h
        exact ⟨c :: u, rfl, fun w => by rw [List.cons_append, braced, if_pos hblank, hu]⟩
      by_cases hsign : (spaced && c = '#') = true
      · rw [braced, if_neg hblank, if_pos hsign] at h
        obtain ⟨u, rfl, hu⟩ := ih h
        exact ⟨c :: u, rfl, fun w => by
          rw [List.cons_append, braced, if_neg hblank, if_pos hsign, hu]⟩
      by_cases hclose : c = '\x7d'
      · rw [braced, if_neg hblank, if_neg hsign, if_pos hclose] at h
        obtain ⟨rfl, rfl⟩ := Prod.mk.inj (Option.some.inj h)
        exact ⟨[c], rfl, fun w => by
          rw [List.singleton_append, braced, if_neg hblank, if_neg hsign, if_pos hclose]⟩
      · rw [braced, if_neg hblank, if_neg hsign, if_neg hclose] at h
        obtain ⟨⟨name', rest'⟩, hname, heq⟩ := Option.map_eq_some_iff.mp h
        obtain ⟨rfl, rfl⟩ := Prod.mk.inj heq
        obtain ⟨u, rfl, hu⟩ := ih hname
        exact ⟨c :: u, rfl, fun w => by
          rw [List.cons_append, braced, if_neg hblank, if_neg hsign, if_neg hclose, hu]
          rfl⟩

theorem hexBraced_reads (spaced : Bool) : Reads spaced (hexBraced spaced) := by
  intro cs a rest h
  cases hb : braced spaced false cs with
  | none => simp only [hexBraced, hb] at h; cases h
  | some r =>
    obtain ⟨ds, behind⟩ := r
    obtain ⟨u, rfl, hu⟩ := braced_found hb
    simp only [hexBraced, hb] at h
    split at h
    · cases h
    · next hne =>
      split at h
      · cases h
      · next values hvalues =>
        split at h
        · cases h
        · next c hc =>
          obtain ⟨rfl, rfl⟩ := Prod.mk.inj (Except.ok.inj h)
          refine ⟨u, behind, spaced, id, rfl, rfl, fun w => ?_⟩
          simp only [hexBraced, hu, if_neg hne, hvalues, hc]

theorem hex_reads {spaced : Bool} {width : Nat} (hwidth : 0 < width) :
    Reads spaced (hex spaced width) := by
  intro cs a rest h
  cases hcs : skip spaced cs with
  | nil => simp only [hex, hcs] at h; cases h
  | cons d ds =>
    obtain ⟨s, rfl, hs⟩ := skip_found hcs
    simp only [hex, hcs] at h
    split at h
    · cases h
    · next behind heq =>
      obtain ⟨rfl, rfl⟩ := List.cons.inj heq
      split at h
      · cases h
      · next c behind' hbraced =>
        obtain ⟨rfl, rfl⟩ := Prod.mk.inj (Except.ok.inj h)
        obtain ⟨u, w, b, hb, rfl, rfl, htakes⟩ := hexBraced_reads spaced _ _ _ hbraced
        refine ⟨s ++ '\x7b' :: u, w, b, hb, by simp, rfl, fun w' => ?_⟩
        rw [List.append_assoc, List.cons_append]
        simp only [hex, hs, htakes w']
    · next hne hopen =>
      split at h
      · cases h
      · next c behind hfixed =>
        obtain ⟨rfl, rfl⟩ := Prod.mk.inj (Except.ok.inj h)
        obtain ⟨missing, rfl⟩ := Nat.exists_eq_add_of_lt hwidth
        rw [Nat.zero_add] at hfixed
        obtain ⟨d', u, w, heq, rfl, htakes⟩ := hexFixed_takes hfixed
        obtain ⟨rfl, rfl⟩ := List.cons.inj heq
        refine ⟨s ++ d :: u, w, spaced, id, by simp, rfl, fun w' => ?_⟩
        have htakes' := htakes w'
        rw [List.cons_append] at htakes'
        rw [List.append_assoc, List.cons_append]
        simp only [hex, hs]
        split
        · next heq => cases heq
        · next heq => exact absurd heq (by rintro ⟨⟩; exact hopen _ rfl)
        · simp only [Nat.zero_add, htakes']

theorem takeProperty_reads (spaced negated : Bool) :
    Reads spaced (takeProperty spaced negated) := by
  intro cs a rest h
  cases hcs : skip spaced cs with
  | nil => simp only [takeProperty, hcs] at h; cases h
  | cons d ds =>
    obtain ⟨s, rfl, hs⟩ := skip_found hcs
    simp only [takeProperty, hcs] at h
    split at h
    · cases h
    · next behind heq =>
      obtain ⟨rfl, rfl⟩ := List.cons.inj heq
      split at h
      · cases h
      · next name behind' hbraced =>
        obtain ⟨rfl, rfl⟩ := Prod.mk.inj (Except.ok.inj h)
        obtain ⟨u, rfl, hu⟩ := braced_found hbraced
        refine ⟨s ++ '\x7b' :: u, behind', false, by simp, by simp, rfl, fun w => ?_⟩
        rw [List.append_assoc, List.cons_append]
        simp only [takeProperty, hs, hu w]
        rfl
    · next c behind hopen heq =>
      obtain ⟨rfl, rfl⟩ := List.cons.inj heq
      split at h
      · cases h
      · next hslash =>
        obtain ⟨rfl, rfl⟩ := Prod.mk.inj (Except.ok.inj h)
        refine ⟨s ++ [d], ds, spaced, id, by simp, rfl, fun w => ?_⟩
        rw [List.append_assoc, List.singleton_append]
        simp only [takeProperty, hs]
        rw [if_neg hslash]

/-- What the letter behind a backslash announces. -/
inductive Escaped (spaced : Bool) (c : Char) : Prop
  | wrong (e : PatternError) : (∀ cs, escape spaced (c :: cs) = .error e) → Escaped spaced c
  | letter (p : Pattern) :
      p.depth = 0 → (∀ cs, escape spaced (c :: cs) = .ok (p, cs)) → Escaped spaced c
  | number (width : Nat) : 0 < width →
      (∀ cs, escape spaced (c :: cs) =
        (hex spaced width cs).map fun r => (.literal r.1, r.2)) → Escaped spaced c
  | property (negated : Bool) :
      (∀ cs, escape spaced (c :: cs) = takeProperty spaced negated cs) → Escaped spaced c
  | boundary : c = 'b' → (∀ cs, escape spaced (c :: cs) = wordBoundary spaced cs) →
      Escaped spaced c

/-- The characters that stand for more than themselves behind a backslash. -/
def escapeLetters : List Char :=
  ['x', 'u', 'U', 'p', 'P', 'd', 'D', 's', 'S', 'w', 'W', 'a', 'f', 't', 'n', 'r', 'v', 'A', 'z',
    'b', 'B', '<', '>']

theorem escaped_number {spaced : Bool} {c : Char} {width : Nat} (hwidth : 0 < width)
    (h : ∀ cs, escape spaced (c :: cs) =
      match hex spaced width cs with
      | .error e => .error e
      | .ok (l, rest) => .ok (.literal l, rest)) : Escaped spaced c :=
  .number width hwidth fun cs => by rw [h]; cases hex spaced width cs <;> rfl

theorem escaped (spaced : Bool) (c : Char) : Escaped spaced c := by
  by_cases hc : c ∈ escapeLetters
  · simp only [escapeLetters, List.mem_cons, List.not_mem_nil, or_false] at hc
    rcases hc with rfl | rfl | rfl | rfl | rfl | rfl | rfl | rfl | rfl | rfl | rfl | rfl | rfl |
      rfl | rfl | rfl | rfl | rfl | rfl | rfl | rfl | rfl | rfl
    · exact escaped_number (by decide) fun _ => rfl
    · exact escaped_number (by decide) fun _ => rfl
    · exact escaped_number (by decide) fun _ => rfl
    · exact .property _ fun _ => rfl
    · exact .property _ fun _ => rfl
    all_goals first
      | exact .letter _ rfl fun _ => rfl
      | exact .boundary rfl fun _ => rfl
  · simp only [escapeLetters, List.mem_cons, List.not_mem_nil, or_false, not_or] at hc
    by_cases hdigit : isDecimal c = true
    · exact .wrong .backReference fun cs => by simp [escape, hdigit]
    by_cases hsign : (c.toNat < 128 && !isLetterOrDigit c) = true
    · exact .letter (.literal ⟨c, false⟩) rfl fun cs => by simp only [escape, hc]; simp [hdigit, hsign]
    · exact .wrong .escapeUnknown fun cs => by simp only [escape, hc]; simp [hdigit, hsign]

theorem Reads.map {α β : Type} {spaced : Bool} {f : List Char → Taken α} (hf : Reads spaced f)
    (g : α → β) : Reads spaced fun cs => (f cs).map fun r => (g r.1, r.2) := by
  intro cs b rest h
  dsimp only at h
  cases hcs : f cs with
  | error e => rw [hcs] at h; cases h
  | ok r =>
    obtain ⟨a, behind⟩ := r
    rw [hcs] at h
    cases h
    obtain ⟨u, w, b, hb, hu, hw, htakes⟩ := hf cs a behind hcs
    exact ⟨u, w, b, hb, hu, hw, fun w' => by dsimp only; rw [htakes w']; rfl⟩

/-- Behind a letter other than the one for word boundaries, an escape is read off the text. -/
theorem escape_reads {spaced : Bool} {c : Char} (hc : c ≠ 'b') :
    Reads spaced fun cs => escape spaced (c :: cs) := by
  rcases escaped spaced c with ⟨e, h⟩ | ⟨p, -, h⟩ | ⟨width, hwidth, h⟩ | ⟨negated, h⟩ | ⟨rfl, -⟩
  · intro cs a rest hok
    cases (h cs).symm.trans hok
  · intro cs a rest hok
    cases (h cs).symm.trans hok
    exact ⟨[], cs, false, by simp, rfl, rfl, fun w => h w⟩
  · rw [funext h]
    exact (hex_reads hwidth).map _
  · rw [funext h]
    exact takeProperty_reads spaced negated
  · exact absurd rfl hc

theorem boundaryName_found {spaced inComment : Bool} {cs name rest : List Char} {c : Char}
    (h : boundaryName spaced inComment cs = (name, c :: rest)) :
    ∃ u, cs = u ++ c :: rest ∧
      ∀ w, boundaryName spaced inComment (u ++ c :: w) = (name, c :: w) := by
  induction cs generalizing inComment name with
  | nil => cases inComment <;> cases h
  | cons d cs ih =>
    cases inComment with
    | true =>
      by_cases hd : d = '\n'
      · rw [boundaryName, if_pos hd] at h
        obtain ⟨u, rfl, hu⟩ := ih h
        exact ⟨d :: u, rfl, fun w => by rw [List.cons_append, boundaryName, if_pos hd, hu]⟩
      · rw [boundaryName, if_neg hd] at h
        obtain ⟨u, rfl, hu⟩ := ih h
        exact ⟨d :: u, rfl, fun w => by rw [List.cons_append, boundaryName, if_neg hd, hu]⟩
    | false =>
      by_cases hblank : (spaced && Text.isBlank d) = true
      · rw [boundaryName, if_pos hblank] at h
        obtain ⟨u, rfl, hu⟩ := ih h
        exact ⟨d :: u, rfl, fun w => by rw [List.cons_append, boundaryName, if_pos hblank, hu]⟩
      by_cases hsign : (spaced && d = '#') = true
      · rw [boundaryName, if_neg hblank, if_pos hsign] at h
        obtain ⟨u, rfl, hu⟩ := ih h
        exact ⟨d :: u, rfl, fun w => by
          rw [List.cons_append, boundaryName, if_neg hblank, if_pos hsign, hu]⟩
      by_cases hletter : isBoundaryLetter d = true
      · rw [boundaryName, if_neg hblank, if_neg hsign, if_pos hletter] at h
        obtain ⟨rfl, hrest⟩ := Prod.mk.inj h
        obtain ⟨u, rfl, hu⟩ := ih (Prod.ext rfl hrest)
        exact ⟨d :: u, rfl, fun w => by
          rw [List.cons_append, boundaryName, if_neg hblank, if_neg hsign, if_pos hletter, hu]⟩
      · rw [boundaryName, if_neg hblank, if_neg hsign, if_neg hletter] at h
        obtain ⟨rfl, hrest⟩ := Prod.mk.inj h
        obtain ⟨rfl, rfl⟩ := List.cons.inj hrest
        exact ⟨[], rfl, fun w => by
          rw [List.nil_append, boundaryName, if_neg hblank, if_neg hsign, if_neg hletter]⟩

theorem boundaryName_append {t : List Char} (ht : Ending t) {spaced inComment : Bool}
    {cs name : List Char} (h : boundaryName spaced inComment cs = (name, [])) :
    boundaryName spaced inComment (cs ++ t) = (name, t) ∨
      boundaryName spaced inComment (cs ++ t) = (name, []) := by
  induction cs generalizing inComment name with
  | nil =>
    rcases ht with rfl | rfl <;> cases inComment <;> cases spaced <;> cases h <;> decide
  | cons d cs ih =>
    cases inComment with
    | true =>
      rw [boundaryName] at h
      rw [List.cons_append, boundaryName]
      split at h
      · next hd => rw [if_pos hd]; exact ih h
      · next hd => rw [if_neg hd]; exact ih h
    | false =>
      rw [boundaryName] at h
      rw [List.cons_append, boundaryName]
      split at h
      · next hblank => rw [if_pos hblank]; exact ih h
      · next hblank =>
        rw [if_neg hblank]
        split at h
        · next hsign => rw [if_pos hsign]; exact ih h
        · next hsign =>
          rw [if_neg hsign]
          split at h
          · next hletter =>
            obtain ⟨rfl, hrest⟩ := Prod.mk.inj h
            rw [if_pos hletter]
            rcases ih (Prod.ext rfl hrest) with heq | heq
            · exact .inl (by rw [heq])
            · exact .inr (by rw [heq])
          · cases h

/-- The beginning of the name of a word boundary, with nothing behind the brace. -/
def Dangling (spaced : Bool) (cs : List Char) : Prop :=
  ∃ w, cs = '\x7b' :: w ∧ boundaryName spaced false w = ([], [])

theorem wordBoundary_plain {spaced : Bool} {cs : List Char} (h : ∀ w, cs ≠ '\x7b' :: w) :
    wordBoundary spaced cs = .ok (.assertion (.word .boundary), cs) := by
  rw [wordBoundary]
  exact h

theorem wordBoundary_unclosed {spaced : Bool} {cs name behind : List Char} {c : Char}
    (h : boundaryName spaced false cs = (c :: name, behind)) (hopen : ∀ w, behind ≠ '\x7d' :: w) :
    wordBoundary spaced ('\x7b' :: cs) = .error .boundaryUnclosed := by
  simp only [wordBoundary, h]
  split
  · next heq => cases heq
  · next heq => cases heq
  · next heq => exact absurd (Prod.mk.inj heq).2 (hopen _)
  · rfl

theorem wordBoundary_extends {Q : Pattern → Prop} {t : List Char} (ht : Ending t) {spaced : Bool}
    {cs : List Char} (h : ¬ Dangling spaced cs) :
    Extends Q t (wordBoundary spaced cs) (wordBoundary spaced (cs ++ t)) := by
  have hopen : ∀ w, t ≠ '\x7b' :: w := by rcases ht with rfl | rfl <;> rintro w ⟨⟩
  have hclose : ∀ w, t ≠ '\x7d' :: w := by rcases ht with rfl | rfl <;> rintro w ⟨⟩
  cases cs with
  | nil =>
    have hend : wordBoundary spaced ([] ++ t) = _ := wordBoundary_plain hopen
    rw [wordBoundary_plain (by rintro w ⟨⟩), hend]
    exact .same
  | cons c cs =>
    by_cases hc : c = '\x7b'
    · subst hc
      rw [List.cons_append]
      cases hname : boundaryName spaced false cs with
      | mk name behind =>
        cases behind with
        | nil =>
          cases name with
          | nil => exact absurd ⟨cs, rfl, hname⟩ h
          | cons n name =>
            rw [wordBoundary_unclosed hname (by rintro w ⟨⟩)]
            rcases boundaryName_append ht hname with heq | heq
            · rw [wordBoundary_unclosed heq hclose]
              exact .failed
            · rw [wordBoundary_unclosed heq (by rintro w ⟨⟩)]
              exact .failed
        | cons d behind =>
          obtain ⟨u, rfl, hu⟩ := boundaryName_found hname
          have hname' := hu (behind ++ t)
          rw [← List.cons_append, ← List.append_assoc] at hname'
          cases name with
          | nil =>
            simp only [wordBoundary, hname, hname']
            exact .same
          | cons n name =>
            by_cases hd : d = '\x7d'
            · subst hd
              simp only [wordBoundary, hname, hname', List.cons_append]
              split_ifs
              · exact .same
              · exact .same
              · exact .same
              · exact .same
              · exact .failed
            · rw [wordBoundary_unclosed hname (by rintro w ⟨⟩; exact hd rfl),
                wordBoundary_unclosed hname' (by rintro w ⟨⟩; exact hd rfl)]
              exact .failed
    · rw [wordBoundary_plain (by rintro w ⟨⟩; exact hc rfl),
        wordBoundary_plain (by rintro w ⟨⟩; exact hc rfl)]
      exact .same

theorem wordBoundary_shape {spaced : Bool} {cs rest : List Char} {p : Pattern}
    (h : wordBoundary spaced cs = .ok (p, rest)) :
    (∃ edge, p = .assertion (.word edge)) ∧ rest <:+ cs := by
  by_cases hcs : ∃ w, cs = '\x7b' :: w
  · obtain ⟨w, rfl⟩ := hcs
    simp only [wordBoundary] at h
    split at h
    · cases h
    · cases h
      exact ⟨⟨_, rfl⟩, List.suffix_rfl⟩
    · next name behind hnone hname =>
      obtain ⟨u, rfl, -⟩ := boundaryName_found hname
      have hsuffix : behind <:+ '\x7b' :: (u ++ '\x7d' :: behind) :=
        ⟨'\x7b' :: (u ++ ['\x7d']), by simp⟩
      split_ifs at h
      · cases h; exact ⟨⟨_, rfl⟩, hsuffix⟩
      · cases h; exact ⟨⟨_, rfl⟩, hsuffix⟩
      · cases h; exact ⟨⟨_, rfl⟩, hsuffix⟩
      · cases h; exact ⟨⟨_, rfl⟩, hsuffix⟩
    · cases h
  · rw [wordBoundary_plain fun w hw => hcs ⟨w, hw⟩] at h
    cases h
    exact ⟨⟨_, rfl⟩, List.suffix_rfl⟩

theorem takeProperty_depth {spaced negated : Bool} {cs rest : List Char} {p : Pattern}
    (h : takeProperty spaced negated cs = .ok (p, rest)) : p.depth = 0 := by
  simp only [takeProperty] at h
  split at h
  · cases h
  · split at h
    · cases h
    · cases h; rfl
  · split at h
    · cases h
    · cases h; rfl

theorem escape_depth {spaced : Bool} {cs rest : List Char} {p : Pattern}
    (h : escape spaced cs = .ok (p, rest)) : p.depth = 0 := by
  rcases cs with _ | ⟨c, cs⟩
  · cases h
  rcases escaped spaced c with ⟨e, heq⟩ | ⟨q, hq, heq⟩ | ⟨width, -, heq⟩ | ⟨negated, heq⟩ |
    ⟨-, heq⟩ <;> rw [heq] at h
  · cases h
  · cases h; exact hq
  · cases hhex : hex spaced width cs with
    | error e => rw [hhex] at h; cases h
    | ok r => rw [hhex] at h; cases h; rfl
  · exact takeProperty_depth h
  · obtain ⟨⟨edge, rfl⟩, -⟩ := wordBoundary_shape h
    rfl

theorem takeFlags_reads (done : FlagChanges) (on dangling : Bool) :
    Reads false (takeFlags done on dangling) := by
  refine reads_of_exact fun cs a rest h => ?_
  induction cs generalizing done on dangling with
  | nil => cases h
  | cons c cs ih =>
    rw [takeFlags] at h
    split at h
    · next hend =>
      split at h
      · cases h
      · next hdangling =>
        obtain ⟨rfl, rfl⟩ := Prod.mk.inj (Except.ok.inj h)
        exact ⟨[c], rfl, fun w => by
          rw [List.singleton_append, takeFlags, if_pos hend, if_neg hdangling]; rfl⟩
    · next hend =>
      split at h
      · next hminus =>
        split at h
        · next hon =>
          obtain ⟨u, rfl, hu⟩ := ih _ _ _ h
          exact ⟨c :: u, rfl, fun w => by
            rw [List.cons_append, takeFlags, if_neg hend, if_pos hminus, if_pos hon, hu]⟩
        · cases h
      · next hminus =>
        split at h
        · cases h
        · next f hf =>
          split at h
          · cases h
          · next hnew =>
            obtain ⟨u, rfl, hu⟩ := ih _ _ _ h
            refine ⟨c :: u, rfl, fun w => ?_⟩
            rw [List.cons_append, takeFlags, if_neg hend, if_neg hminus]
            simp only [hf]
            rw [if_neg hnew, hu]

theorem groupName_reads (done : List Char) : Reads false (groupName done) := by
  refine reads_of_exact fun cs a rest h => ?_
  induction cs generalizing done with
  | nil => cases h
  | cons c cs ih =>
    rw [groupName] at h
    split at h
    · next hend =>
      split at h
      · cases h
      · next hne =>
        obtain ⟨rfl, rfl⟩ := Prod.mk.inj (Except.ok.inj h)
        exact ⟨[c], rfl, fun w => by
          rw [List.singleton_append, groupName, if_pos hend, if_neg hne]; rfl⟩
    · next hend =>
      split at h
      · next hname =>
        obtain ⟨u, rfl, hu⟩ := ih _ h
        exact ⟨c :: u, rfl, fun w => by
          rw [List.cons_append, groupName, if_neg hend, if_pos hname, hu]⟩
      · cases h

theorem named_reads : Reads false named := by
  have heq : named = fun cs =>
      (groupName [] cs).map fun r => (.group .capture (some r.1), r.2) := by
    funext cs
    rw [named]
    cases groupName [] cs <;> rfl
  rw [heq]
  exact (groupName_reads []).map fun name => Opening.group .capture (some name)

theorem opening_skip (spaced : Bool) (cs : List Char) :
    opening spaced cs = opening false (skip spaced cs) := rfl

theorem opening_capture {c : Char} {cs : List Char} (h : c ≠ '?') :
    opening false (c :: cs) = .ok (.group .capture none, c :: cs) := by
  unfold opening
  split <;> first
    | rfl
    | next heq => exact absurd (List.cons.inj heq).1 h

theorem opening_named {c : Char} {cs : List Char} (h1 : c ≠ '=') (h2 : c ≠ '!') :
    opening false ('?' :: '<' :: c :: cs) = named (c :: cs) := by
  unfold opening
  split
  case h_6 heq => cases heq; rfl
  case h_8 hneq _ heq => cases heq; exact absurd rfl (hneq _)
  case h_9 heq => exact absurd rfl (heq _)
  all_goals next heq => cases heq <;> contradiction

/-- What flags open, with the text behind them. -/
def flagsOpening : (FlagChanges × Bool) × List Char → Taken Opening
  | ((changes, closed), rest) =>
    if closed then
      if changes.isEmpty then .error .repetitionMissing else .ok (.flags changes, rest)
    else .ok (.group (.plain changes) none, rest)

theorem opening_flags {c : Char} {cs : List Char} (h : c ∉ ['=', '!', '<'])
    (hname : c = 'P' → ∀ w, cs ≠ '<' :: w) :
    opening false ('?' :: c :: cs) = (takeFlags [] true false (c :: cs)).bind flagsOpening := by
  unfold opening
  split
  case h_5 heq => cases heq; exact absurd rfl (hname rfl _)
  case h_8 heq =>
    cases heq
    cases takeFlags [] true false (c :: cs) <;> rfl
  case h_9 heq => exact absurd rfl (heq _)
  all_goals next heq => cases heq <;> simp at h

theorem flagsOpening_exact {x : FlagChanges × Bool} {a : Opening} {behind rest : List Char}
    (h : flagsOpening (x, behind) = .ok (a, rest)) :
    rest = behind ∧ ∀ w, flagsOpening (x, w) = .ok (a, w) := by
  obtain ⟨changes, closed⟩ := x
  simp only [flagsOpening] at h ⊢
  split_ifs at h ⊢
  · cases h; exact ⟨rfl, fun _ => rfl⟩
  · cases h; exact ⟨rfl, fun _ => rfl⟩

theorem opening_option_reads : Reads false fun cs => opening false ('?' :: cs) := by
  refine reads_of_exact fun cs a rest h => ?_
  rcases cs with _ | ⟨c, cs⟩
  · cases h
  by_cases hc : c ∈ ['=', '!', '<']
  · simp only [List.mem_cons, List.not_mem_nil, or_false] at hc
    rcases hc with rfl | rfl | rfl
    · cases h
    · cases h
    · rcases cs with _ | ⟨d, cs⟩
      · cases h
      by_cases h1 : d = '='
      · subst h1; cases h
      by_cases h2 : d = '!'
      · subst h2; cases h
      rw [opening_named h1 h2] at h
      obtain ⟨u, hu, htakes⟩ := named_reads.exact h
      cases u with
      | nil => cases htakes []
      | cons e u =>
        obtain ⟨rfl, rfl⟩ := List.cons.inj hu
        exact ⟨'<' :: d :: u, rfl, fun w => (opening_named h1 h2).trans (htakes w)⟩
  by_cases hname : c = 'P' ∧ ∃ w, cs = '<' :: w
  · obtain ⟨rfl, w, rfl⟩ := hname
    obtain ⟨u, rfl, htakes⟩ := named_reads.exact (show named w = .ok (a, rest) from h)
    exact ⟨'P' :: '<' :: u, rfl, htakes⟩
  rw [opening_flags hc fun hP w hw => hname ⟨hP, w, hw⟩] at h
  cases hflags : takeFlags [] true false (c :: cs) with
  | error e => rw [hflags] at h; cases h
  | ok r =>
    obtain ⟨x, behind⟩ := r
    rw [hflags] at h
    obtain ⟨rfl, hopening⟩ := flagsOpening_exact h
    obtain ⟨u, hu, htakes⟩ := (takeFlags_reads [] true false).exact hflags
    cases u with
    | nil => cases htakes []
    | cons e u =>
      obtain ⟨rfl, rfl⟩ := List.cons.inj hu
      have hP : c ≠ 'P' := by rintro rfl; cases hflags
      refine ⟨c :: u, rfl, fun w => ?_⟩
      dsimp only
      rw [List.cons_append, opening_flags hc fun h => absurd h hP, ← List.cons_append, htakes w]
      exact hopening w

/-- What opens with a parenthesis does not depend on the end behind the text. -/
theorem opening_extends {t : List Char} (ht : Ending t) (spaced : Bool) (cs : List Char) :
    Extends (fun a => spaced = true ∧ a = .group .capture none) t (opening spaced cs)
      (opening spaced (cs ++ t)) := by
  rw [opening_skip spaced cs, opening_skip spaced (cs ++ t)]
  rcases skip_append ht spaced cs with h | ⟨hspaced, h, h'⟩
  · rw [h]
    cases skip spaced cs with
    | nil => rcases ht with rfl | rfl <;> exact .same
    | cons c front =>
      by_cases hc : c = '?'
      · subst hc
        exact (opening_option_reads.extends ht front).mono fun _ h => nomatch h
      · rw [List.cons_append, opening_capture hc, opening_capture hc]
        exact .same
  · rw [h, h']
    exact .swallowed ⟨hspaced, rfl⟩

theorem opening_suffix {spaced : Bool} {cs rest : List Char} {a : Opening}
    (h : opening spaced cs = .ok (a, rest)) : rest <:+ cs := by
  rw [opening_skip] at h
  refine List.IsSuffix.trans ?_ (skip_suffix spaced cs)
  cases hcs : skip spaced cs with
  | nil => rw [hcs] at h; cases h; exact List.suffix_rfl
  | cons c front =>
    rw [hcs] at h
    by_cases hc : c = '?'
    · subst hc
      exact (opening_option_reads.suffix h).trans (List.suffix_cons _ _)
    · rw [opening_capture hc] at h
      cases h
      exact List.suffix_rfl

end Pattern
end Regex
end MeshTelemetry
