import MeshTelemetry.Proofs.Regex.Step
import MeshTelemetry.Regex.FullMatch

/-!
# MeshTelemetry.Proofs.Regex.Wrapping

How the pattern of a text relates to the pattern of the text in a group between the start and the
end of a text, and to the pattern of the text with a line break behind it.

* `after`: the state in which the parser reaches the end of a text.
* `after_append`: reading a text and then an end.
* `tree_wrapped`: what the wrapped text stands for, if anything.
* `tree_newline`: what a line break adds to a pattern.
-/

namespace MeshTelemetry
namespace Regex
namespace Pattern

/-- The state in which the parser reaches the end of the text. -/
def after : Nat → State → List Char → Except PatternError State
  | 0, s, _ => .ok s
  | fuel + 1, s, cs =>
    match skip s.spaced cs with
    | [] => .ok s
    | c :: cs =>
      match s.step c cs with
      | .error e => .error e
      | .ok (s, rest) => after fuel s rest

theorem after_skip {s : State} {cs cs' : List Char} (h : skip s.spaced cs = skip s.spaced cs')
    (n : Nat) : after n s cs = after n s cs' := by
  cases n with
  | zero => rfl
  | succ n => rw [after, after, h]

theorem after_nil {s : State} {cs : List Char} (h : skip s.spaced cs = []) (n : Nat) :
    after n s cs = .ok s := by
  cases n with
  | zero => rfl
  | succ n => rw [after, h]

theorem after_step {s s' : State} {c : Char} {cs rest rest' : List Char}
    (hskip : skip s.spaced cs = c :: rest) (hstep : s.step c rest = .ok (s', rest')) (n : Nat) :
    after (n + 1) s cs = after n s' rest' := by
  rw [after, hskip]
  simp only [hstep]

theorem after_error {s : State} {c : Char} {cs rest : List Char} {e : PatternError}
    (hskip : skip s.spaced cs = c :: rest) (hstep : s.step c rest = .error e) (n : Nat) :
    after (n + 1) s cs = .error e := by
  rw [after, hskip]
  simp only [hstep]

theorem run_eq_after (n : Nat) (s : State) (cs : List Char) :
    run n s cs = (after n s cs).bind State.finish := by
  induction n generalizing s cs with
  | zero => rfl
  | succ n ih =>
    rw [run]
    cases hskip : skip s.spaced cs with
    | nil => rw [after_nil hskip]; rfl
    | cons c rest =>
      dsimp only
      cases hstep : s.step c rest with
      | error e => rw [after_error hskip hstep]; rfl
      | ok r => rw [after_step hskip hstep]; exact ih r.1 r.2

/-- `g` puts states into a surrounding in which their steps are the same. -/
structure Embedding (g : State → State) : Prop where
  spaced : ∀ s, (g s).spaced = s.spaced
  step : ∀ s c cs s' rest, s.step c cs = .ok (s', rest) → (g s).step c cs = .ok (g s', rest)

theorem embedding_id : Embedding id := ⟨fun _ => rfl, fun _ _ _ _ _ h => h⟩

theorem embedding_under : Embedding State.under := by
  refine ⟨fun _ => rfl, fun s c cs s' rest h => ?_⟩
  rw [step_under, h]
  · rfl
  · rintro rfl
    cases hclose : s.close with
    | ok z => exact ⟨z, rfl⟩
    | error e => simp only [State.step, hclose] at h; cases h

theorem after_empty (n : Nat) (s : State) : after n s [] = .ok s :=
  after_nil (by cases s.spaced <;> rfl) n

theorem step_dangling {s : State} {w : List Char} (h : Dangling s.spaced w) :
    s.step '\\' ('b' :: w) = .error .boundaryUnclosed := by
  obtain ⟨w, rfl, hname⟩ := h
  have hescape : escape s.spaced ('b' :: '\x7b' :: w) = .error .boundaryUnclosed := by
    show wordBoundary s.spaced ('\x7b' :: w) = _
    simp only [wordBoundary, hname]
  simp only [State.step, hescape]
  rfl

theorem skip_append_cons {t : List Char} (ht : Ending t) {spaced : Bool} {cs rest : List Char}
    {c : Char} (h : skip spaced cs = c :: rest) : skip spaced (cs ++ t) = c :: (rest ++ t) := by
  rcases skip_append ht spaced cs with happ | ⟨-, hnil, -⟩
  · rw [happ, h, List.cons_append]
  · rw [h] at hnil; cases hnil

/-- Reading a text and an end behind it: the end is read from the state behind the text, or it is
dropped where blanks are ignored. By induction on the rounds. -/
theorem after_append {g : State → State} (hg : Embedding g) {t : List Char} (ht : Ending t)
    {n m : Nat} {s z : State} {cs : List Char} (h : after n s cs = .ok z) (hn : cs.length < n)
    (hm : (cs ++ t).length < m) :
    (∃ k, t.length < k ∧ after m (g s) (cs ++ t) = after k (g z) t) ∨
      z.spaced = true ∧ after m (g s) (cs ++ t) = .ok (g z) := by
  induction n generalizing s cs m with
  | zero => cases hn
  | succ n ih =>
    cases hskip : skip s.spaced cs with
    | nil =>
      rw [after_nil hskip] at h
      cases h
      rcases skip_append ht z.spaced cs with happ | ⟨hspaced, -, happ⟩
      · have heq : skip z.spaced (cs ++ t) = t := by rw [happ, hskip, List.nil_append]
        refine .inl ⟨m, by simp only [List.length_append] at hm; omega, after_skip ?_ m⟩
        rw [hg.spaced, ← skip_skip, heq]
      · exact .inr ⟨hspaced, after_nil (by rw [hg.spaced, happ]) m⟩
    | cons c rest =>
      have hlen := (skip_suffix s.spaced cs).length_le
      rw [hskip, List.length_cons] at hlen
      have hskip' : skip (g s).spaced (cs ++ t) = c :: (rest ++ t) := by
        rw [hg.spaced, skip_append_cons ht hskip]
      cases m with
      | zero => cases hm
      | succ m =>
        cases hstep : s.step c rest with
        | error e => rw [after_error hskip hstep] at h; cases h
        | ok r =>
          obtain ⟨s', rest'⟩ := r
          rw [after_step hskip hstep] at h
          have hrest := (step_suffix hstep).length_le
          have hext := step_extends ht s c rest (by
            rintro ⟨rfl, w, rfl, hw⟩
            rw [step_dangling hw] at hstep
            cases hstep)
          rw [hstep] at hext
          generalize hstep' : s.step c (rest ++ t) = y at hext
          cases hext with
          | same =>
            rw [after_step hskip' (hg.step s c _ _ _ hstep')]
            exact ih h (by omega) (by simp only [List.length_append] at hm ⊢; omega)
          | swallowed hspaced =>
            rw [after_empty] at h
            cases h
            rw [after_step hskip' (hg.step s c _ _ _ hstep'), after_empty]
            exact .inr ⟨hspaced, rfl⟩

/-- The end of the group around a pattern. -/
def closing : List Char := [')', '$']

theorem ending_closing : Ending closing := .inl rfl

theorem ending_newline : Ending ['\n'] := .inr rfl

theorem finish_under (s : State) : s.under.finish = .error .groupUnclosed := by
  obtain ⟨spaced, names, frames, parts⟩ := s
  rcases frames with _ | ⟨_ | _, _ | _⟩ <;> rfl

/-- Once the closing parenthesis is read over, the group stays open. -/
theorem run_under_dollar (n : Nat) (s : State) {rest : List Char} (h : rest <:+ ['$']) :
    ∃ e, run n s.under rest = .error e := by
  have hopen : ∀ z : State, (Except.ok z.under : Except PatternError State).bind State.finish =
      .error .groupUnclosed := finish_under
  rw [run_eq_after]
  rcases List.suffix_cons_iff.mp h with rfl | h
  · cases n with
    | zero => exact ⟨_, hopen s⟩
    | succ n =>
      have hskip : skip s.under.spaced ['$'] = ['$'] := by cases s.under.spaced <;> rfl
      have hstep : s.under.step '$' [] = .ok ((s.add (.assertion .lineEnd)).under, []) := rfl
      rw [after_step hskip hstep, after_empty]
      exact ⟨_, hopen _⟩
  · rw [List.suffix_nil.mp h, after_empty]
    exact ⟨_, hopen s⟩

/-- Where the name of a word boundary has not begun, there is nothing but blanks. -/
theorem skipFrom_of_boundaryName {inComment : Bool} {cs : List Char}
    (h : boundaryName true inComment cs = ([], [])) : skipFrom inComment cs = [] := by
  induction cs generalizing inComment with
  | nil => cases inComment <;> rfl
  | cons c cs ih =>
    cases inComment with
    | true =>
      rw [boundaryName] at h
      rw [skipFrom]
      split at h
      · next hc => rw [if_pos hc]; exact ih h
      · next hc => rw [if_neg hc]; exact ih h
    | false =>
      rw [boundaryName] at h
      rw [skipFrom]
      simp only [Bool.true_and, decide_eq_true_eq] at h
      split at h
      · next hblank => rw [if_pos hblank]; exact ih h
      · next hblank =>
        rw [if_neg hblank]
        split at h
        · next hsign => rw [if_pos hsign]; exact ih h
        · split at h <;> cases h

theorem bounds_dangling {spaced : Bool} {w : List Char}
    (h : boundaryName spaced false w = ([], [])) :
    ∃ e, bounds spaced (w ++ closing) = .error e := by
  cases spaced with
  | false =>
    cases w with
    | nil => exact ⟨.repetitionEmpty, rfl⟩
    | cons c w =>
      rw [boundaryName, Bool.false_and, Bool.false_and, if_neg (by decide), if_neg (by decide)] at h
      split at h <;> cases h
  | true =>
    rcases skip_append ending_closing true w with happ | ⟨-, -, happ⟩
    · have hskip : skip true (w ++ closing) = closing := by
        rw [happ, show skip true w = [] from skipFrom_of_boundaryName h, List.nil_append]
      rw [bounds_eq hskip (by simp [closing])]
      exact ⟨.repetitionEmpty, rfl⟩
    · rw [bounds, happ]
      exact ⟨_, rfl⟩

/-- With the end of the group behind it, a dangling word boundary is none, either. -/
theorem run_under_dangling {m : Nat} {s : State} {w cs : List Char}
    (hskip : skip s.spaced cs = '\\' :: 'b' :: w) (h : Dangling s.spaced w)
    (hm : cs.length < m) : ∃ e, run m s.under (cs ++ closing) = .error e := by
  obtain ⟨w, rfl, hname⟩ := h
  have hskip' : skip s.under.spaced (cs ++ closing) =
      '\\' :: 'b' :: '\x7b' :: (w ++ closing) := skip_append_cons ending_closing hskip
  have hlen := (skip_suffix s.spaced cs).length_le
  simp only [hskip, List.length_cons] at hlen
  obtain ⟨m, rfl⟩ : ∃ k, m = k + 2 := ⟨m - 2, by omega⟩
  rw [run_eq_after]
  rcases boundaryName_append ending_closing hname with heq | heq
  · have hstep : s.under.step '\\' ('b' :: '\x7b' :: (w ++ closing)) =
        .ok ((s.add (.assertion (.word .boundary))).under, '\x7b' :: (w ++ closing)) := by
      have hescape : escape s.spaced ('b' :: '\x7b' :: (w ++ closing)) =
          .ok (.assertion (.word .boundary), '\x7b' :: (w ++ closing)) := by
        show wordBoundary s.spaced ('\x7b' :: (w ++ closing)) = _
        simp only [wordBoundary, heq]
        rfl
      show (escape s.spaced _).map _ = _
      rw [hescape]
      rfl
    obtain ⟨e, he⟩ := bounds_dangling hname
    have hskip'' : skip (s.add (.assertion (.word .boundary))).under.spaced
        ('\x7b' :: (w ++ closing)) = '\x7b' :: (w ++ closing) := by
      show skip s.spaced _ = _
      cases s.spaced <;> rfl
    have hbrace : (s.add (.assertion (.word .boundary))).under.step '\x7b' (w ++ closing) =
        .error e := by
      rw [step_brace rfl, State.counted]
      show Except.map _ ((bounds s.spaced (w ++ closing)).bind _) = _
      rw [he]
      rfl
    rw [after_step hskip' hstep, after_error hskip'' hbrace]
    exact ⟨e, rfl⟩
  · have hstep : s.under.step '\\' ('b' :: '\x7b' :: (w ++ closing)) =
        .error .boundaryUnclosed := by
      show (escape s.spaced _).map _ = _
      have hescape : escape s.spaced ('b' :: '\x7b' :: (w ++ closing)) =
          .error .boundaryUnclosed := by
        show wordBoundary s.spaced ('\x7b' :: (w ++ closing)) = _
        simp only [wordBoundary, heq]
      rw [hescape]
      rfl
    rw [after_error hskip' hstep]
    exact ⟨_, rfl⟩

/-- Where the pattern alone is none, the wrapped one is none, unless a group was never opened. By
induction on the rounds. -/
theorem run_under_error {n m : Nat} {s : State} {cs : List Char} {e : PatternError}
    (h : after n s cs = .error e) (hn : cs.length < n) (hm : (cs ++ closing).length < m) :
    e = .groupUnopened ∨ ∃ e', run m s.under (cs ++ closing) = .error e' := by
  induction n generalizing s cs m with
  | zero => cases hn
  | succ n ih =>
    cases hskip : skip s.spaced cs with
    | nil => rw [after_nil hskip] at h; cases h
    | cons c rest =>
      have hlen := (skip_suffix s.spaced cs).length_le
      rw [hskip, List.length_cons] at hlen
      have hskip' : skip s.under.spaced (cs ++ closing) = c :: (rest ++ closing) :=
        skip_append_cons ending_closing hskip
      by_cases hd : c = '\\' ∧ ∃ w, rest = 'b' :: w ∧ Dangling s.spaced w
      · obtain ⟨rfl, w, rfl, hw⟩ := hd
        exact .inr (run_under_dangling hskip hw (by simp only [List.length_append] at hm; omega))
      have hext := step_extends ending_closing s c rest hd
      cases m with
      | zero => cases hm
      | succ m =>
        by_cases hclose : c = ')' ∧ ∃ e, s.close = .error e
        · obtain ⟨rfl, e', he'⟩ := hclose
          have hstep : s.step ')' rest = .error e' := by
            show (s.close.map _) = _
            rw [he']
            rfl
          rw [after_error hskip hstep] at h
          cases h
          exact .inl (close_error he')
        have hunder := step_under s c (rest ++ closing) fun hc => by
          cases hz : s.close with
          | ok z => exact ⟨z, rfl⟩
          | error e' => exact absurd ⟨hc, e', hz⟩ hclose
        cases hstep : s.step c rest with
        | ok r =>
          obtain ⟨s', rest'⟩ := r
          rw [after_step hskip hstep] at h
          have hrest := (step_suffix hstep).length_le
          rw [hstep] at hext
          generalize s.step c (rest ++ closing) = y at hext hunder
          cases hext with
          | same =>
            rw [run_eq_after, after_step hskip' hunder, ← run_eq_after]
            exact ih h (by omega) (by simp only [List.length_append] at hm ⊢; omega)
          | swallowed hspaced => rw [after_empty] at h; cases h
        | error e' =>
          rw [hstep] at hext
          generalize s.step c (rest ++ closing) = y at hext hunder
          rw [run_eq_after]
          cases hext with
          | beyond hrest =>
            rw [after_step hskip' hunder, ← run_eq_after]
            exact .inr (run_under_dollar m _ hrest)
          | failed =>
            rw [after_error hskip' hunder]
            exact .inr ⟨_, rfl⟩

/-- The pattern of a text, however deep it is nested. -/
def tree (text : String) : Except PatternError Pattern :=
  run (text.toList.length + 1) State.initial text.toList

theorem parse_eq (text : String) :
    parse text = (tree text).bind fun p =>
      if p.depth ≤ depthLimit then .ok p else .error .nestedTooDeep := by
  rw [parse, tree]
  cases run (text.toList.length + 1) State.initial text.toList <;> rfl

/-- A pattern in a group between the start and the end of a text. -/
def wrapped (p : Pattern) : Pattern :=
  .concat [.assertion .lineStart, .group (.plain []) p, .assertion .lineEnd]

/-- The opening of the group leaves the parser as at the beginning, but inside the group. -/
theorem tree_anchored (text : String) :
    tree (anchored text) =
      run (text.toList.length + 5) State.initial.under (text.toList ++ closing) := by
  have htext : (anchored text).toList = '^' :: '(' :: '?' :: ':' :: (text.toList ++ closing) := by
    simp only [anchored, String.toList_append]
    rfl
  have hlength : (anchored text).toList.length + 1 = text.toList.length + 5 + 2 := by
    simp [htext, closing]
  rw [tree, hlength, htext]
  rfl

/-- At the end of the group stands what the pattern alone stands for. -/
theorem run_closing (s : State) {n : Nat} (hn : 2 < n) :
    run n s.under closing = s.finish.map wrapped ∨
      ∃ e, s.finish = .error e ∧ ∃ e', run n s.under closing = .error e' := by
  obtain ⟨n, rfl⟩ : ∃ k, n = k + 3 := ⟨n - 3, by omega⟩
  have hskip : skip s.under.spaced closing = ')' :: ['$'] := by cases s.under.spaced <;> rfl
  obtain ⟨spaced, names, frames, parts⟩ := s
  rcases frames with _ | ⟨⟨before, kind, outer⟩ | ⟨done⟩, frames⟩
  · left
    rw [run_eq_after, after_step hskip rfl]
    rfl
  · right
    refine ⟨_, rfl, ?_⟩
    rw [run_eq_after, after_step hskip rfl, ← run_eq_after]
    exact run_under_dollar _ ⟨outer, names, frames, _⟩ List.suffix_rfl
  · rcases frames with _ | ⟨⟨before, kind, outer⟩ | ⟨done'⟩, frames⟩
    · left
      rw [run_eq_after, after_step hskip rfl]
      rfl
    · right
      refine ⟨_, rfl, ?_⟩
      rw [run_eq_after, after_step hskip rfl, ← run_eq_after]
      exact run_under_dollar _ ⟨outer, names, frames, _⟩ List.suffix_rfl
    · right
      refine ⟨_, rfl, ?_⟩
      rw [run_eq_after, after_error hskip rfl]
      exact ⟨_, rfl⟩

/-- What the wrapped text stands for is what the text alone stands for in a group, unless the text
closes a group that it never opened. -/
theorem tree_wrapped {text : String} {q : Pattern} (h : tree (anchored text) = .ok q) :
    tree text = .error .groupUnopened ∨ ∃ p, tree text = .ok p ∧ q = wrapped p := by
  have hn : text.toList.length < text.toList.length + 1 := Nat.lt_succ_self _
  have hm : (text.toList ++ closing).length < text.toList.length + 5 := by simp [closing]
  rw [tree_anchored] at h
  rw [tree, run_eq_after]
  cases hafter : after (text.toList.length + 1) State.initial text.toList with
  | error e =>
    rcases run_under_error hafter hn hm with rfl | ⟨e', he'⟩
    · exact .inl rfl
    · rw [he'] at h; cases h
  | ok z =>
    rw [run_eq_after] at h
    rcases after_append embedding_under ending_closing hafter hn hm with ⟨k, hk, heq⟩ | ⟨-, heq⟩
    · rw [heq, ← run_eq_after] at h
      right
      rcases run_closing z hk with hrun | ⟨e, -, e', hrun⟩
      · rw [hrun] at h
        cases hz : z.finish with
        | error e => rw [hz] at h; cases h
        | ok p => rw [hz] at h; cases h; exact ⟨p, hz, rfl⟩
      · rw [hrun] at h; cases h
    · rw [heq] at h
      have hopen := finish_under z
      rw [show (Except.ok z.under : Except PatternError State).bind State.finish = _ from hopen] at h
      cases h

theorem depths_append (ps qs : List Pattern) : depths (ps ++ qs) = max (depths ps) (depths qs) := by
  induction ps with
  | nil => simp [depths]
  | cons p ps ih => rw [List.cons_append, depths, ih, depths, Nat.max_assoc]

theorem depth_ofParts_append (ps : List Pattern) (p : Pattern) :
    (ofParts ps).depth ≤ (ofParts (ps ++ [p])).depth := by
  rcases ps with _ | ⟨q, _ | ⟨r, ps⟩⟩
  · exact Nat.zero_le _
  · simp only [ofParts, List.cons_append, List.nil_append, depth, depths]
    omega
  · have hdepths := depths_append (q :: r :: ps) [p]
    show 1 + depths (q :: r :: ps) ≤ 1 + depths (q :: r :: ps ++ [p])
    omega

theorem finish_add {s : State} {p : Pattern} (h : s.finish = .ok p) (l : Pattern) :
    ∃ q, (s.add l).finish = .ok q ∧ p.depth ≤ q.depth := by
  obtain ⟨spaced, names, frames, parts⟩ := s
  rcases frames with _ | ⟨_ | ⟨done⟩, _ | _⟩ <;> cases h
  · refine ⟨_, rfl, ?_⟩
    show _ ≤ (ofParts (l :: parts).reverse).depth
    rw [List.reverse_cons]
    exact depth_ofParts_append _ l
  · refine ⟨_, rfl, ?_⟩
    have hparts := depth_ofParts_append parts.reverse l
    simp only [endBranches, State.add, List.reverse_cons, depth, depths_append, depths]
    omega

/-- A line break behind a pattern is dropped, or the pattern is also one in the group. -/
theorem tree_newline {text : String} {p : Pattern} (h : tree text = .ok p) :
    tree (text ++ "\n") = .ok p ∨
      tree (anchored text) = .ok (wrapped p) ∧
        ∃ q, tree (text ++ "\n") = .ok q ∧ p.depth ≤ q.depth := by
  have hn : text.toList.length < text.toList.length + 1 := Nat.lt_succ_self _
  have hm : (text.toList ++ closing).length < text.toList.length + 5 := by simp [closing]
  have hm' : (text.toList ++ ['\n']).length < (text.toList ++ ['\n']).length + 1 :=
    Nat.lt_succ_self _
  have htext : tree (text ++ "\n") = run ((text.toList ++ ['\n']).length + 1) State.initial
      (text.toList ++ ['\n']) := by
    rw [tree, String.toList_append]
    rfl
  rw [tree, run_eq_after] at h
  rw [htext, run_eq_after, tree_anchored, run_eq_after]
  cases hafter : after (text.toList.length + 1) State.initial text.toList with
  | error e => rw [hafter] at h; cases h
  | ok z =>
    rw [hafter] at h
    have hz : z.finish = .ok p := h
    rcases after_append embedding_id ending_newline hafter hn hm' with ⟨k, hk, heq⟩ | ⟨-, heq⟩
    · rw [id, id] at heq
      rw [heq]
      obtain ⟨k, rfl⟩ : ∃ i, k = i + 1 := ⟨k - 1, by simp only [List.length_singleton] at hk; omega⟩
      cases hspaced : z.spaced with
      | true => rw [after_nil (by rw [hspaced]; decide)]; exact .inl h
      | false =>
        right
        have hstep : z.step '\n' [] = .ok (z.add (.literal ⟨'\n', false⟩), []) := rfl
        rw [after_step (by rw [hspaced]; rfl) hstep, after_empty]
        refine ⟨?_, finish_add hz _⟩
        rcases after_append embedding_under ending_closing hafter hn hm with
          ⟨i, hi, heq'⟩ | ⟨htrue, -⟩
        · rw [heq', ← run_eq_after]
          rcases run_closing z hi with hrun | ⟨e, he, -⟩
          · rw [hrun, hz]
            rfl
          · rw [hz] at he; cases he
        · rw [hspaced] at htrue; cases htrue
    · rw [id, id] at heq
      rw [heq]
      exact .inl h

end Pattern
end Regex
end MeshTelemetry
