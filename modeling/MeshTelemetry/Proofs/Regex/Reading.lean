import MeshTelemetry.Regex.Pattern.Parser

/-!
# MeshTelemetry.Proofs.Regex.Reading

What a reader of patterns gives depends only on the text it reads, not on what stands behind.

* `Reads`: whatever the reader gives, it reads off the front of the text.
* `Ending`: the ends that are put behind a pattern.
* `Extends`: how the answer for a text with an end behind it relates to the one without.
* `Reads.extends`: both answers are alike, or the longer text is read into its end.
-/

namespace MeshTelemetry
namespace Regex
namespace Pattern

/-- What is dropped in front of a character does not depend on what stands behind it. -/
theorem skipFrom_found {inComment : Bool} {cs rest : List Char} {c : Char}
    (h : skipFrom inComment cs = c :: rest) :
    ∃ s, cs = s ++ c :: rest ∧ ∀ w, skipFrom inComment (s ++ c :: w) = c :: w := by
  induction cs generalizing inComment with
  | nil => cases inComment <;> cases h
  | cons d ds ih =>
    cases inComment with
    | true =>
      by_cases hd : d = '\n'
      · rw [skipFrom, if_pos hd] at h
        obtain ⟨s, rfl, hs⟩ := ih h
        exact ⟨d :: s, rfl, fun w => by rw [List.cons_append, skipFrom, if_pos hd, hs]⟩
      · rw [skipFrom, if_neg hd] at h
        obtain ⟨s, rfl, hs⟩ := ih h
        exact ⟨d :: s, rfl, fun w => by rw [List.cons_append, skipFrom, if_neg hd, hs]⟩
    | false =>
      by_cases hblank : Text.isBlank d = true
      · rw [skipFrom, if_pos hblank] at h
        obtain ⟨s, rfl, hs⟩ := ih h
        exact ⟨d :: s, rfl, fun w => by rw [List.cons_append, skipFrom, if_pos hblank, hs]⟩
      · by_cases hsign : d = '#'
        · rw [skipFrom, if_neg hblank, if_pos hsign] at h
          obtain ⟨s, rfl, hs⟩ := ih h
          exact ⟨d :: s, rfl, fun w => by
            rw [List.cons_append, skipFrom, if_neg hblank, if_pos hsign, hs]⟩
        · rw [skipFrom, if_neg hblank, if_neg hsign] at h
          obtain ⟨rfl, rfl⟩ := List.cons.inj h
          exact ⟨[], rfl, fun w => by rw [List.nil_append, skipFrom, if_neg hblank, if_neg hsign]⟩

theorem skip_found {spaced : Bool} {cs rest : List Char} {c : Char}
    (h : skip spaced cs = c :: rest) :
    ∃ s, cs = s ++ c :: rest ∧ ∀ w, skip spaced (s ++ c :: w) = c :: w := by
  cases spaced with
  | true => exact skipFrom_found h
  | false => exact ⟨[], h, fun _ => rfl⟩

theorem skip_front {spaced : Bool} {cs v rest : List Char} {c : Char}
    (h : skip spaced cs = v ++ c :: rest) :
    ∃ s, cs = s ++ (v ++ c :: rest) ∧ ∀ w, skip spaced (s ++ (v ++ c :: w)) = v ++ c :: w := by
  cases v with
  | nil => exact skip_found h
  | cons d v =>
    obtain ⟨s, hcs, hs⟩ := skip_found h
    exact ⟨s, hcs, fun w => hs (v ++ c :: w)⟩

theorem skip_suffix (spaced : Bool) (cs : List Char) : skip spaced cs <:+ cs := by
  cases h : skip spaced cs with
  | nil => exact List.nil_suffix
  | cons c rest =>
    obtain ⟨s, rfl, -⟩ := skip_found h
    exact List.suffix_append s _

theorem skipFrom_skipFrom (inComment : Bool) (cs : List Char) :
    skipFrom false (skipFrom inComment cs) = skipFrom inComment cs := by
  induction cs generalizing inComment with
  | nil => cases inComment <;> rfl
  | cons c cs ih =>
    cases inComment with
    | true => rw [skipFrom]; split <;> exact ih _
    | false =>
      rw [skipFrom]
      split
      · exact ih _
      · next hblank =>
        split
        · exact ih _
        · next hsign => rw [skipFrom, if_neg hblank, if_neg hsign]

theorem skip_skip (spaced : Bool) (cs : List Char) :
    skip spaced (skip spaced cs) = skip spaced cs := by
  cases spaced with
  | true => exact skipFrom_skipFrom false cs
  | false => rfl

theorem skip_of_skip {b spaced : Bool} (h : b = true → spaced = true) (cs : List Char) :
    skip spaced (skip b cs) = skip spaced cs := by
  cases b with
  | false => rfl
  | true => rw [h rfl, skip_skip]

/-- `f` takes `u` off every text and gives `a`; if `b`, it drops the blanks behind. -/
def Takes {α : Type} (b : Bool) (f : List Char → Taken α) (u : List Char) (a : α) : Prop :=
  ∀ w, f (u ++ w) = .ok (a, skip b w)

/-- Whatever `f` gives, it takes off the front of the text. Only where blanks are ignored, those
behind may be dropped. -/
def Reads {α : Type} (spaced : Bool) (f : List Char → Taken α) : Prop :=
  ∀ cs a rest, f cs = .ok (a, rest) →
    ∃ u w b, (b = true → spaced = true) ∧ cs = u ++ w ∧ rest = skip b w ∧ Takes b f u a

theorem Reads.suffix {α : Type} {spaced : Bool} {f : List Char → Taken α} (hf : Reads spaced f)
    {cs rest : List Char} {a : α} (h : f cs = .ok (a, rest)) : rest <:+ cs := by
  obtain ⟨u, w, b, -, rfl, rfl, -⟩ := hf cs a rest h
  exact (skip_suffix b w).trans (List.suffix_append u w)

theorem Reads.exact {α : Type} {f : List Char → Taken α} (hf : Reads false f)
    {cs rest : List Char} {a : α} (h : f cs = .ok (a, rest)) :
    ∃ u, cs = u ++ rest ∧ Takes false f u a := by
  obtain ⟨u, w, b, hb, rfl, rfl, htakes⟩ := hf cs a rest h
  cases b with
  | true => cases hb rfl
  | false => exact ⟨u, rfl, htakes⟩

theorem reads_of_exact {α : Type} {spaced : Bool} {f : List Char → Taken α}
    (h : ∀ cs a rest, f cs = .ok (a, rest) → ∃ u, cs = u ++ rest ∧ Takes false f u a) :
    Reads spaced f := by
  intro cs a rest hok
  obtain ⟨u, rfl, htakes⟩ := h cs a rest hok
  exact ⟨u, rest, false, by simp, rfl, rfl, htakes⟩

/-- What stands behind a pattern: the end of the group around it, or a line break. -/
def Ending (t : List Char) : Prop := t = [')', '$'] ∨ t = ['\n']

/-- An end is kept when blanks are dropped, unless an open comment swallows it or it is blank. -/
theorem skipFrom_append {t : List Char} (ht : Ending t) (inComment : Bool) (cs : List Char) :
    skipFrom inComment (cs ++ t) = skipFrom inComment cs ++ t ∨
      skipFrom inComment cs = [] ∧ skipFrom inComment (cs ++ t) = [] := by
  induction cs generalizing inComment with
  | nil => rcases ht with rfl | rfl <;> cases inComment <;> decide
  | cons c cs ih =>
    cases inComment with
    | true =>
      simp only [List.cons_append, skipFrom]
      split <;> exact ih _
    | false =>
      simp only [List.cons_append, skipFrom]
      split
      · exact ih _
      · split
        · exact ih _
        · exact .inl rfl

theorem skip_append {t : List Char} (ht : Ending t) (spaced : Bool) (cs : List Char) :
    skip spaced (cs ++ t) = skip spaced cs ++ t ∨
      spaced = true ∧ skip spaced cs = [] ∧ skip spaced (cs ++ t) = [] := by
  cases spaced with
  | true => exact (skipFrom_append ht false cs).imp id fun h => ⟨rfl, h⟩
  | false => exact .inl rfl

/-- The answer without the end `t` behind the text, and the answer with it. Only for parts in `Q`
the end may be dropped with the blanks behind the part. -/
inductive Extends {α : Type} (Q : α → Prop) (t : List Char) : Taken α → Taken α → Prop
  | same {a : α} {rest : List Char} : Extends Q t (.ok (a, rest)) (.ok (a, rest ++ t))
  | swallowed {a : α} : Q a → Extends Q t (.ok (a, [])) (.ok (a, []))
  | beyond {e : PatternError} {a : α} {rest : List Char} :
      rest <:+ t.tail → Extends Q t (.error e) (.ok (a, rest))
  | failed {e e' : PatternError} : Extends Q t (.error e) (.error e')

theorem Extends.mono {α : Type} {Q Q' : α → Prop} {t : List Char} {x y : Taken α}
    (h : Extends Q t x y) (hQ : ∀ a, Q a → Q' a) : Extends Q' t x y := by
  cases h with
  | same => exact .same
  | swallowed h => exact .swallowed (hQ _ h)
  | beyond h => exact .beyond h
  | failed => exact .failed

/-- What is made of the part that was read. -/
def andThen {α β : Type} (x : Taken α) (k : α → Except PatternError β) : Taken β :=
  x.bind fun r => (k r.1).map fun b => (b, r.2)

theorem Extends.andThen {α β : Type} {Q : α → Prop} {Q' : β → Prop} {t : List Char}
    {x y : Taken α} {k : α → Except PatternError β} (h : Extends Q t x y)
    (hk : ∀ a b, Q a → k a = .ok b → Q' b) : Extends Q' t (andThen x k) (andThen y k) := by
  cases h with
  | @same a rest =>
    cases hb : k a with
    | error e => simp only [Pattern.andThen, Except.bind, hb]; exact .failed
    | ok b => simp only [Pattern.andThen, Except.bind, hb]; exact .same
  | @swallowed a h =>
    cases hb : k a with
    | error e => simp only [Pattern.andThen, Except.bind, hb]; exact .failed
    | ok b => simp only [Pattern.andThen, Except.bind, hb]; exact .swallowed (hk a b h hb)
  | @beyond e a rest h =>
    cases hb : k a with
    | error e => simp only [Pattern.andThen, Except.bind, hb]; exact .failed
    | ok b => simp only [Pattern.andThen, Except.bind, hb]; exact .beyond h
  | failed => exact .failed

/-- A reader answers alike with and without the end, or it fails without the end and reads a part
of it. -/
theorem Reads.extends {α : Type} {spaced : Bool} {f : List Char → Taken α} {t : List Char}
    (hf : Reads spaced f) (ht : Ending t) (cs : List Char) :
    Extends (fun _ => spaced = true) t (f cs) (f (cs ++ t)) := by
  cases hcs : f cs with
  | ok r =>
    obtain ⟨a, rest⟩ := r
    obtain ⟨u, w, b, hb, rfl, rfl, htakes⟩ := hf cs a rest hcs
    rw [List.append_assoc, htakes (w ++ t)]
    rcases skip_append ht b w with h | ⟨hspaced, hw, hwt⟩
    · rw [h]; exact .same
    · rw [hw, hwt]; exact .swallowed (hb hspaced)
  | error e =>
    cases hcst : f (cs ++ t) with
    | error e' => exact .failed
    | ok r =>
      obtain ⟨a, rest⟩ := r
      obtain ⟨u, w, b, -, heq, rfl, htakes⟩ := hf _ a rest hcst
      -- a part within the text would have been read without the end, too
      rcases List.append_eq_append_iff.mp heq with ⟨v, rfl, rfl⟩ | ⟨v, rfl, hw⟩
      · cases v with
        | nil =>
          have h := htakes []
          rw [List.append_nil, List.append_nil] at h
          rw [h] at hcs
          cases hcs
        | cons d v => exact .beyond ((skip_suffix b w).trans (List.suffix_append v w))
      · rw [htakes v] at hcs; cases hcs

end Pattern
end Regex
end MeshTelemetry
