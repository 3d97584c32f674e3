import MeshTelemetry.Proofs.Regex.Bracket

/-!
# MeshTelemetry.Proofs.Regex.Step

One step of the parser, with an end behind the text and with a group around it.

* `step_extends`: a step answers alike with and without the end behind the text.
* `State.under`: a state inside the group that is put around a pattern.
* `step_under`: a step inside the group is the same step, but for closing the group.
-/

namespace MeshTelemetry
namespace Regex
namespace Pattern

/-- The state behind what opens with a parenthesis. -/
def State.opened (s : State) : Opening → Except PatternError State
  | .flags changes => .ok { s.add (.flags changes) with spaced := spacedAfter changes s.spaced }
  | .group kind name =>
    let spaced :=
      match kind with
      | .capture => s.spaced
      | .plain changes => spacedAfter changes s.spaced
    let frames := .group s.parts kind s.spaced :: s.frames
    match name with
    | none => .ok { s with spaced, frames, parts := [] }
    | some name =>
      if s.names.contains name then .error .groupNameRepeated
      else .ok ⟨spaced, name :: s.names, frames, []⟩

theorem open_eq (s : State) (cs : List Char) :
    s.open cs = andThen (opening s.spaced cs) s.opened := by
  rw [State.open, andThen]
  cases opening s.spaced cs with
  | error e => rfl
  | ok r =>
    obtain ⟨o, rest⟩ := r
    cases o with
    | flags changes => rfl
    | group kind name =>
      cases name with
      | none => rfl
      | some name =>
        simp only [Except.bind, State.opened]
        split <;> rfl

/-- The state behind a counted repetition, if there is something to repeat. -/
def State.counted (s : State) (cs : List Char) : Except PatternError (State × List Char) :=
  (andThen (bounds s.spaced cs) fun b => s.repeat b.1 b.2).map fun r =>
    (r.1, reluctant (skip s.spaced r.2))

theorem step_brace {s s' : State} {cs : List Char} (h : s.repeat 0 none = .ok s') :
    s.step '\x7b' cs = s.counted cs := by
  simp only [State.step, h, State.counted, andThen]
  cases bounds s.spaced cs with
  | error e => rfl
  | ok r =>
    obtain ⟨⟨least, greatest⟩, rest⟩ := r
    simp only [Except.bind]
    cases s.repeat least greatest <;> rfl

theorem step_brace_error {s : State} {cs : List Char} {e : PatternError}
    (h : s.repeat 0 none = .error e) : s.step '\x7b' cs = .error e := by
  simp only [State.step, h]

theorem repeat_spaced {s s' : State} {least : Nat} {greatest : Option Nat}
    (h : s.repeat least greatest = .ok s') : s'.spaced = s.spaced := by
  simp only [State.repeat] at h
  split at h <;> cases h
  rfl

theorem reluctant_suffix (cs : List Char) : reluctant cs <:+ cs := by
  rw [reluctant.eq_def]
  split
  · exact List.suffix_cons _ _
  · exact List.suffix_rfl

theorem reluctant_append {t : List Char} (ht : Ending t) (cs : List Char) :
    reluctant (cs ++ t) = reluctant cs ++ t := by
  cases cs with
  | nil => rcases ht with rfl | rfl <;> rfl
  | cons c cs =>
    by_cases hc : c = '?'
    · subst hc; rfl
    · have hplain : ∀ w, reluctant (c :: w) = c :: w := by
        intro w
        rw [reluctant]
        rintro rest ⟨⟩
        exact hc rfl
      rw [List.cons_append, hplain, hplain, List.cons_append]

theorem counted_spaced {s s' : State} {cs rest : List Char} (h : s.counted cs = .ok (s', rest)) :
    s'.spaced = s.spaced := by
  simp only [State.counted, andThen] at h
  cases hbounds : bounds s.spaced cs with
  | error e => rw [hbounds] at h; cases h
  | ok r =>
    obtain ⟨⟨least, greatest⟩, behind⟩ := r
    cases hrepeat : s.repeat least greatest with
    | error e => simp only [hbounds, Except.bind, hrepeat] at h; cases h
    | ok z =>
      simp only [hbounds, Except.bind, hrepeat] at h
      cases h
      exact repeat_spaced hrepeat

theorem counted_extends {t : List Char} (ht : Ending t) (s : State) (cs : List Char) :
    Extends (fun s' : State => s'.spaced = true) t (s.counted cs) (s.counted (cs ++ t)) := by
  have hbounds : Extends (fun _ : State => False) t
      (andThen (bounds s.spaced cs) fun b => s.repeat b.1 b.2)
      (andThen (bounds s.spaced (cs ++ t)) fun b => s.repeat b.1 b.2) :=
    ((bounds_reads s.spaced).extends ht cs).andThen fun _ _ h => nomatch h
  have hspaced : ∀ s' rest, s.counted cs = .ok (s', rest) → s'.spaced = s.spaced :=
    fun _ _ => counted_spaced
  simp only [State.counted] at hspaced ⊢
  generalize andThen (bounds s.spaced cs) _ = x at hbounds hspaced ⊢
  generalize andThen (bounds s.spaced (cs ++ t)) _ = y at hbounds ⊢
  cases hbounds with
  | @same s' rest =>
    simp only [Except.map]
    rcases skip_append ht s.spaced rest with h | ⟨hs, h, h'⟩
    · rw [h, reluctant_append ht]
      exact .same
    · rw [h, h']
      exact .swallowed ((hspaced s' _ rfl).trans hs)
  | swallowed h => exact absurd h id
  | beyond h =>
    exact .beyond (((reluctant_suffix _).trans (skip_suffix _ _)).trans h)
  | failed => exact .failed

theorem opened_capture_spaced {s s' : State} (h : s.opened (.group .capture none) = .ok s') :
    s'.spaced = s.spaced := by
  cases h
  rfl

theorem extends_map {Q : State → Prop} {t cs cs' : List Char} (h : cs' = cs ++ t)
    (x : Except PatternError State) : Extends Q t (x.map (·, cs)) (x.map (·, cs')) := by
  subst h
  cases x with
  | error e => exact .failed
  | ok s => exact .same

theorem escape_extends {t : List Char} (ht : Ending t) {spaced : Bool} {cs : List Char}
    (h : ¬ ∃ w, cs = 'b' :: w ∧ Dangling spaced w) :
    Extends (fun _ => spaced = true) t (escape spaced cs) (escape spaced (cs ++ t)) := by
  cases cs with
  | nil =>
    rcases ht with rfl | rfl
    · exact .beyond List.suffix_rfl
    · exact .beyond List.suffix_rfl
  | cons c cs =>
    by_cases hc : c = 'b'
    · subst hc
      exact wordBoundary_extends ht fun hw => h ⟨cs, rfl, hw⟩
    · exact (escape_reads hc).extends ht cs

theorem step_add {t : List Char} {s : State} {x y : Taken Pattern}
    (h : Extends (fun _ => s.spaced = true) t x y) :
    Extends (fun s' : State => s'.spaced = true) t (x.map fun r => (s.add r.1, r.2))
      (y.map fun r => (s.add r.1, r.2)) := by
  cases h with
  | same => exact .same
  | swallowed h => exact .swallowed h
  | beyond h => exact .beyond h
  | failed => exact .failed

/-- A step answers alike with and without the end, or it fails without and reads a part of it. Only
where blanks are ignored it may drop the end, and they are ignored in the next state, too. -/
theorem step_extends {t : List Char} (ht : Ending t) (s : State) (c : Char) (cs : List Char)
    (h : ¬ (c = '\\' ∧ ∃ w, cs = 'b' :: w ∧ Dangling s.spaced w)) :
    Extends (fun s' : State => s'.spaced = true) t (s.step c cs) (s.step c (cs ++ t)) := by
  unfold State.step
  split
  · rw [open_eq, open_eq]
    refine (opening_extends ht s.spaced cs).andThen ?_
    rintro _ s' ⟨hs, rfl⟩ hopened
    exact (opened_capture_spaced hopened).trans hs
  · exact extends_map rfl _
  · exact .same
  · exact step_add (((bracketed_reads s.spaced).extends ht cs).mono fun _ h => nomatch h)
  · exact extends_map (reluctant_append ht cs) _
  · exact extends_map (reluctant_append ht cs) _
  · exact extends_map (reluctant_append ht cs) _
  · show Extends _ t (s.step '\x7b' cs) (s.step '\x7b' (cs ++ t))
    cases hrepeat : s.repeat 0 none with
    | error e =>
      rw [step_brace_error hrepeat, step_brace_error hrepeat]
      exact .failed
    | ok s' =>
      rw [step_brace hrepeat, step_brace hrepeat]
      exact counted_extends ht s cs
  · exact step_add (escape_extends ht fun hw => h ⟨rfl, hw⟩)
  · exact .same
  · exact .same
  · exact .same
  · exact .same

theorem suffix_of_andThen {α β : Type} {x : Taken α} {k : α → Except PatternError β}
    {cs rest : List Char} {b : β} (hx : ∀ a rest, x = .ok (a, rest) → rest <:+ cs)
    (h : andThen x k = .ok (b, rest)) : rest <:+ cs := by
  cases x with
  | error e => cases h
  | ok r =>
    obtain ⟨a, behind⟩ := r
    simp only [andThen, Except.bind] at h
    cases hk : k a with
    | error e => rw [hk] at h; cases h
    | ok b =>
      rw [hk] at h
      cases h
      exact hx a _ rfl

theorem suffix_of_map {α β : Type} {x : Taken α} {f : α → β} {cs rest : List Char} {b : β}
    (hx : ∀ a rest, x = .ok (a, rest) → rest <:+ cs)
    (h : x.map (fun r => (f r.1, r.2)) = .ok (b, rest)) : rest <:+ cs := by
  cases x with
  | error e => cases h
  | ok r =>
    cases h
    exact hx r.1 r.2 rfl

theorem escape_suffix {spaced : Bool} {cs rest : List Char} {p : Pattern}
    (h : escape spaced cs = .ok (p, rest)) : rest <:+ cs := by
  cases cs with
  | nil => cases h
  | cons c cs =>
    by_cases hc : c = 'b'
    · subst hc
      exact (wordBoundary_shape h).2.trans (List.suffix_cons _ _)
    · exact ((escape_reads hc).suffix h).trans (List.suffix_cons _ _)

theorem counted_suffix {s s' : State} {cs rest : List Char} (h : s.counted cs = .ok (s', rest)) :
    rest <:+ cs := by
  simp only [State.counted] at h
  cases hx : andThen (bounds s.spaced cs) (fun b => s.repeat b.1 b.2) with
  | error e => rw [hx] at h; cases h
  | ok r =>
    rw [hx] at h
    cases h
    exact ((reluctant_suffix _).trans (skip_suffix _ _)).trans
      (suffix_of_andThen (fun a _ => (bounds_reads s.spaced).suffix) hx)

theorem rest_of_map {cs cs' rest : List Char} {x : Except PatternError State} {s' : State}
    (h : x.map (·, cs') = .ok (s', rest)) (hsuffix : cs' <:+ cs) : rest <:+ cs := by
  cases x with
  | error e => cases h
  | ok s => cases h; exact hsuffix

theorem step_suffix {s s' : State} {c : Char} {cs rest : List Char}
    (h : s.step c cs = .ok (s', rest)) : rest <:+ cs := by
  unfold State.step at h
  split at h
  · rw [open_eq] at h
    exact suffix_of_andThen (fun _ _ => opening_suffix) h
  · exact rest_of_map h List.suffix_rfl
  · cases h; exact List.suffix_rfl
  · exact suffix_of_map (fun _ _ => (bracketed_reads s.spaced).suffix) h
  · exact rest_of_map h (reluctant_suffix cs)
  · exact rest_of_map h (reluctant_suffix cs)
  · exact rest_of_map h (reluctant_suffix cs)
  · have hstep : s.step '\x7b' cs = .ok (s', rest) := h
    cases hrepeat : s.repeat 0 none with
    | error e => rw [step_brace_error hrepeat] at hstep; cases hstep
    | ok z =>
      rw [step_brace hrepeat] at hstep
      exact counted_suffix hstep
  · exact suffix_of_map (fun _ _ => escape_suffix) h
  · cases h; exact List.suffix_rfl
  · cases h; exact List.suffix_rfl
  · cases h; exact List.suffix_rfl
  · cases h; exact List.suffix_rfl

/-- The state inside the group that is put around a pattern, behind the start of the text. -/
def State.under (s : State) : State :=
  { s with frames := s.frames ++ [.group [.assertion .lineStart] (.plain []) false] }

theorem opened_under (s : State) (o : Opening) :
    s.under.opened o = (s.opened o).map State.under := by
  cases o with
  | flags changes => rfl
  | group kind name =>
    cases name with
    | none => rfl
    | some name =>
      show (if s.names.contains name then _ else _) =
        Except.map _ (if s.names.contains name then _ else _)
      split <;> rfl

theorem open_under (s : State) (cs : List Char) :
    s.under.open cs = (s.open cs).map fun r => (r.1.under, r.2) := by
  rw [open_eq, open_eq, andThen, andThen]
  show (opening s.spaced cs).bind _ = _
  cases opening s.spaced cs with
  | error e => rfl
  | ok r =>
    simp only [Except.bind, opened_under]
    cases s.opened r.1 <;> rfl

theorem bar_under (s : State) : s.under.bar = s.bar.under := by
  obtain ⟨spaced, names, frames, parts⟩ := s
  rcases frames with _ | ⟨_ | _, _⟩ <;> rfl

theorem repeat_under (s : State) (least : Nat) (greatest : Option Nat) :
    s.under.repeat least greatest = (s.repeat least greatest).map State.under := by
  obtain ⟨spaced, names, frames, parts⟩ := s
  rcases parts with _ | ⟨p, parts⟩
  · rfl
  · cases p <;> rfl

theorem close_under {s z : State} (h : s.close = .ok z) : s.under.close = .ok z.under := by
  obtain ⟨spaced, names, frames, parts⟩ := s
  rcases frames with _ | ⟨_ | _, _ | ⟨_ | _, _⟩⟩ <;> cases h <;> rfl

theorem counted_under (s : State) (cs : List Char) :
    s.under.counted cs = (s.counted cs).map fun r => (r.1.under, r.2) := by
  simp only [State.counted, andThen, repeat_under]
  show Except.map _ ((bounds s.spaced cs).bind _) = _
  cases bounds s.spaced cs with
  | error e => rfl
  | ok r =>
    simp only [Except.bind]
    cases s.repeat r.1.1 r.1.2 <;> rfl

/-- A step inside the group is the same step, unless it closes the group. -/
theorem step_under (s : State) (c : Char) (cs : List Char) (h : c = ')' → ∃ z, s.close = .ok z) :
    s.under.step c cs = (s.step c cs).map fun r => (r.1.under, r.2) := by
  have hmap : ∀ (x : Except PatternError State) (rest : List Char),
      (x.map State.under).map (·, rest) = (x.map (·, rest)).map fun r => (r.1.under, r.2) := by
    intro x rest
    cases x <;> rfl
  have hadd : ∀ x : Taken Pattern, (x.map fun r => (s.under.add r.1, r.2)) =
      (x.map fun r => (s.add r.1, r.2)).map fun r => (r.1.under, r.2) := by
    intro x
    cases x <;> rfl
  by_cases hbrace : c = '\x7b'
  · subst hbrace
    cases hrepeat : s.repeat 0 none with
    | error e =>
      rw [step_brace_error hrepeat, step_brace_error (by rw [repeat_under, hrepeat]; rfl)]
      rfl
    | ok s' =>
      rw [step_brace hrepeat, step_brace (by rw [repeat_under, hrepeat]; rfl)]
      exact counted_under s cs
  unfold State.step
  split
  · exact open_under s cs
  · obtain ⟨z, hz⟩ := h rfl
    rw [close_under hz, hz]
    rfl
  · rw [bar_under]
    rfl
  · exact hadd _
  · rw [repeat_under]
    exact hmap _ _
  · rw [repeat_under]
    exact hmap _ _
  · rw [repeat_under]
    exact hmap _ _
  · exact absurd rfl hbrace
  · exact hadd _
  · rfl
  · rfl
  · rfl
  · rfl

theorem close_error {s : State} {e : PatternError} (h : s.close = .error e) :
    e = .groupUnopened := by
  simp only [State.close] at h
  split at h <;> cases h
  rfl

end Pattern
end Regex
end MeshTelemetry
