import MeshTelemetry.Proofs.Regex.Span
import MeshTelemetry.Proofs.Regex.Step

/-!
# MeshTelemetry.Proofs.Regex.Ordered

Every counted repetition of a pattern that was read can be made: its least count is not above its
greatest.

* `Pattern.Ordered`: the property of patterns; `State.Ordered`: the invariant of the parser.
* `step_ordered`, `run_ordered`: one step keeps it, and so does a whole run.
* `translate_ordered`: the expression of such a pattern has it, too.
-/

namespace MeshTelemetry
namespace Regex
namespace Pattern

mutual

/-- Every counted repetition can be made. -/
def Ordered : Pattern → Prop
  | .repetition least greatest body => (∀ m, greatest = some m → least ≤ m) ∧ body.Ordered
  | .group _ body => body.Ordered
  | .alternation branches => AllOrdered branches
  | .concat parts => AllOrdered parts
  | _ => True

def AllOrdered : List Pattern → Prop
  | [] => True
  | p :: rest => p.Ordered ∧ AllOrdered rest

end

theorem allOrdered_append {ps qs : List Pattern} :
    AllOrdered (ps ++ qs) ↔ AllOrdered ps ∧ AllOrdered qs := by
  induction ps with
  | nil => simp [AllOrdered]
  | cons p ps ih => simp only [List.cons_append, AllOrdered, ih, and_assoc]

theorem allOrdered_reverse {ps : List Pattern} (h : AllOrdered ps) : AllOrdered ps.reverse := by
  induction ps with
  | nil => exact h
  | cons p ps ih =>
    rw [List.reverse_cons, allOrdered_append]
    exact ⟨ih h.2, h.1, trivial⟩

theorem ofParts_ordered {ps : List Pattern} (h : AllOrdered ps) : (ofParts ps).Ordered := by
  rcases ps with _ | ⟨p, _ | ⟨q, ps⟩⟩
  · trivial
  · exact h.1
  · exact h

theorem ordered_of_depth {p : Pattern} (h : p.depth = 0) : p.Ordered := by
  cases p with
  | repetition => simp [depth] at h
  | group => simp [depth] at h
  | alternation => simp [depth] at h
  | concat => simp [depth] at h
  | _ => trivial

def Frame.Ordered : Frame → Prop
  | .group before _ _ => AllOrdered before
  | .branches done => AllOrdered done

/-- What was read so far can be made. -/
structure State.Ordered (s : State) : Prop where
  parts : AllOrdered s.parts
  frames : ∀ f ∈ s.frames, f.Ordered

theorem State.Ordered.add {s : State} (h : s.Ordered) {p : Pattern} (hp : p.Ordered) :
    (s.add p).Ordered := ⟨⟨hp, h.parts⟩, h.frames⟩

theorem endBranches_ordered {done parts : List Pattern} (hdone : AllOrdered done)
    (hparts : AllOrdered parts) : (endBranches done parts).Ordered := by
  rw [endBranches, Ordered, List.reverse_cons, allOrdered_append]
  exact ⟨allOrdered_reverse hdone, ofParts_ordered (allOrdered_reverse hparts), trivial⟩

theorem opened_ordered {s s' : State} {o : Opening} (h : s.Ordered) (hok : s.opened o = .ok s') :
    s'.Ordered := by
  cases o with
  | flags changes =>
    cases hok
    exact ⟨⟨trivial, h.parts⟩, h.frames⟩
  | group kind name =>
    have hframes : ∀ f ∈ Frame.group s.parts kind s.spaced :: s.frames, f.Ordered := by
      intro f hf
      rcases List.mem_cons.mp hf with rfl | hf
      · exact h.parts
      · exact h.frames f hf
    cases name with
    | none =>
      cases hok
      exact ⟨trivial, hframes⟩
    | some name =>
      simp only [State.opened] at hok
      split at hok
      · cases hok
      · cases hok
        exact ⟨trivial, hframes⟩

theorem close_ordered {s s' : State} (h : s.Ordered) (hok : s.close = .ok s') : s'.Ordered := by
  simp only [State.close] at hok
  split at hok
  · next before kind outer frames hs =>
    cases hok
    have hframes := h.frames
    rw [hs, List.forall_mem_cons] at hframes
    exact ⟨⟨ofParts_ordered (allOrdered_reverse h.parts), hframes.1⟩, hframes.2⟩
  · next done before kind outer frames hs =>
    cases hok
    have hframes := h.frames
    rw [hs, List.forall_mem_cons, List.forall_mem_cons] at hframes
    exact ⟨⟨endBranches_ordered hframes.1 h.parts, hframes.2.1⟩, hframes.2.2⟩
  · cases hok

theorem bar_ordered {s : State} (h : s.Ordered) : s.bar.Ordered := by
  have hbranch := ofParts_ordered (allOrdered_reverse h.parts)
  have hframes := h.frames
  simp only [State.bar]
  split
  · next done frames hs =>
    rw [hs, List.forall_mem_cons] at hframes
    exact ⟨trivial, List.forall_mem_cons.mpr ⟨⟨hbranch, hframes.1⟩, hframes.2⟩⟩
  · exact ⟨trivial, List.forall_mem_cons.mpr ⟨⟨hbranch, trivial⟩, hframes⟩⟩

theorem repeat_ordered {s s' : State} {least : Nat} {greatest : Option Nat} (h : s.Ordered)
    (hle : ∀ m, greatest = some m → least ≤ m) (hok : s.repeat least greatest = .ok s') :
    s'.Ordered := by
  have hparts := h.parts
  simp only [State.repeat] at hok
  split at hok
  · cases hok
  · cases hok
  · cases hok
  · next p before hs =>
    cases hok
    rw [hs] at hparts
    exact ⟨⟨⟨hle, hparts.1⟩, hparts.2⟩, h.frames⟩

theorem bounds_le {spaced : Bool} {cs rest : List Char} {least : Nat} {greatest : Option Nat}
    (h : bounds spaced cs = .ok ((least, greatest), rest)) :
    ∀ m, greatest = some m → least ≤ m := by
  simp only [bounds] at h
  split at h
  · cases h
  · split at h
    · cases h
    · cases h
      intro m hm
      cases hm
      exact Nat.le_refl _
    · split at h
      · cases h
        intro m hm
        cases hm
      · split at h
        · cases h
        · split at h
          · next hle =>
            cases h
            intro m hm
            cases hm
            exact hle
          · cases h
        · cases h
    · cases h

theorem counted_ordered {s s' : State} {cs rest : List Char} (h : s.Ordered)
    (hok : s.counted cs = .ok (s', rest)) : s'.Ordered := by
  simp only [State.counted, andThen] at hok
  cases hbounds : bounds s.spaced cs with
  | error e => rw [hbounds] at hok; cases hok
  | ok r =>
    obtain ⟨⟨least, greatest⟩, behind⟩ := r
    simp only [hbounds, Except.bind] at hok
    cases hrepeat : s.repeat least greatest with
    | error e => rw [hrepeat] at hok; cases hok
    | ok z =>
      rw [hrepeat] at hok
      cases hok
      exact repeat_ordered h (bounds_le hbounds) hrepeat

theorem map_ordered {x : Except PatternError State} {s' : State} {cs rest : List Char}
    (h : ∀ s, x = .ok s → s.Ordered) (hok : x.map (·, cs) = .ok (s', rest)) : s'.Ordered := by
  cases x with
  | error e => cases hok
  | ok s => cases hok; exact h _ rfl

theorem add_ordered {s s' : State} {x : Taken Pattern} {rest : List Char} (h : s.Ordered)
    (hx : ∀ p rest, x = .ok (p, rest) → p.Ordered)
    (hok : x.map (fun r => (s.add r.1, r.2)) = .ok (s', rest)) : s'.Ordered := by
  cases x with
  | error e => cases hok
  | ok r => cases hok; exact h.add (hx r.1 r.2 rfl)

/-- One step reads only what can be made. -/
theorem step_ordered {s s' : State} {c : Char} {cs rest : List Char} (h : s.Ordered)
    (hok : s.step c cs = .ok (s', rest)) : s'.Ordered := by
  unfold State.step at hok
  split at hok
  · rw [open_eq, andThen] at hok
    cases hopening : opening s.spaced cs with
    | error e => rw [hopening] at hok; cases hok
    | ok r =>
      rw [hopening] at hok
      exact map_ordered (fun _ => opened_ordered h) hok
  · exact map_ordered (fun _ => close_ordered h) hok
  · cases hok; exact bar_ordered h
  · refine add_ordered h (fun p rest hp => ?_) hok
    obtain ⟨negated, set, rfl⟩ := bracketed_shape hp
    trivial
  · exact map_ordered (fun _ => repeat_ordered h (by rintro m ⟨⟩; exact Nat.zero_le _)) hok
  · exact map_ordered (fun _ => repeat_ordered h (by rintro m ⟨⟩)) hok
  · exact map_ordered (fun _ => repeat_ordered h (by rintro m ⟨⟩)) hok
  · have hstep : s.step '\x7b' cs = .ok (s', rest) := hok
    cases hrepeat : s.repeat 0 none with
    | error e => rw [step_brace_error hrepeat] at hstep; cases hstep
    | ok z =>
      rw [step_brace hrepeat] at hstep
      exact counted_ordered h hstep
  · exact add_ordered h (fun p rest hp => ordered_of_depth (escape_depth hp)) hok
  · cases hok; exact h.add trivial
  · cases hok; exact h.add trivial
  · cases hok; exact h.add trivial
  · cases hok; exact h.add trivial

theorem finish_ordered {s : State} {p : Pattern} (h : s.Ordered) (hok : s.finish = .ok p) :
    p.Ordered := by
  have hframes := h.frames
  simp only [State.finish] at hok
  split at hok
  · cases hok; exact ofParts_ordered (allOrdered_reverse h.parts)
  · next done hs =>
    cases hok
    rw [hs] at hframes
    exact endBranches_ordered (hframes _ (List.mem_singleton_self _)) h.parts
  · cases hok

theorem run_ordered {n : Nat} {s : State} {cs : List Char} {p : Pattern} (h : s.Ordered)
    (hok : run n s cs = .ok p) : p.Ordered := by
  induction n generalizing s cs with
  | zero => exact finish_ordered h hok
  | succ n ih =>
    rw [run] at hok
    split at hok
    · exact finish_ordered h hok
    · split at hok
      · cases hok
      · next s' rest hstep => exact ih (step_ordered h hstep) hok

theorem initial_ordered : State.initial.Ordered := ⟨trivial, fun _ hf => nomatch hf⟩

theorem parse_ordered {text : String} {p : Pattern} (h : parse text = .ok p) : p.Ordered := by
  simp only [parse] at h
  split at h
  · cases h
  · next q hrun =>
    split at h
    · cases h
      exact run_ordered initial_ordered hrun
    · cases h

end Pattern

namespace Expr

mutual

/-- The expression of a pattern that can be made can be made, by induction on the pattern. -/
theorem translate_ordered : ∀ {p : Pattern} {flags after : Flags} {e : Expr}, p.Ordered →
    translate flags p = .ok (e, after) → e.Ordered
  | .empty, _, _, _, _, h => by cases h; trivial
  | .flags _, _, _, _, _, h => by cases h; trivial
  | .literal l, _, _, _, _, h => by
    rw [translate] at h
    split at h <;> cases h
    trivial
  | .dot, _, _, _, _, h => by
    rw [translate] at h
    split at h <;> cases h
    trivial
  | .assertion _, _, _, _, _, h => by cases h; trivial
  | .perl _ _, _, _, _, _, h => by
    rw [translate] at h
    split at h <;> cases h
    trivial
  | .property _ _, _, _, _, _, h => by
    rw [translate] at h
    split at h <;> cases h
    trivial
  | .bracket _ _, _, _, _, _, h => by
    rw [translate] at h
    split at h
    · cases h
    · split at h <;> cases h
      trivial
  | .repetition least greatest body, _, _, _, hp, h => by
    rw [translate] at h
    split at h
    · cases h
    · next hbody =>
      cases h
      exact ⟨hp.1, translate_ordered hp.2 hbody⟩
  | .group .capture body, _, _, _, hp, h => by
    rw [translate] at h
    split at h
    · cases h
    · next hbody =>
      cases h
      have hordered := translate_ordered (p := body) hp hbody
      exact hordered
  | .group (.plain changes) body, _, _, _, hp, h => by
    rw [translate] at h
    split at h
    · cases h
    · next hbody =>
      cases h
      exact translate_ordered (p := body) hp hbody
  | .alternation branches, _, _, _, hp, h => by
    rw [translate] at h
    exact translateBranches_ordered hp h
  | .concat parts, _, _, _, hp, h => by
    rw [translate] at h
    exact translateParts_ordered hp h

theorem translateParts_ordered : ∀ {ps : List Pattern} {flags after : Flags} {e : Expr},
    Pattern.AllOrdered ps → translateParts flags ps = .ok (e, after) → e.Ordered
  | [], _, _, _, _, h => by cases h; trivial
  | p :: ps, _, _, _, hp, h => by
    rw [translateParts] at h
    split at h
    · cases h
    · next hleft =>
      split at h
      · cases h
      · next hright =>
        cases h
        exact ⟨translate_ordered hp.1 hleft, translateParts_ordered hp.2 hright⟩

theorem translateBranches_ordered : ∀ {ps : List Pattern} {flags after : Flags} {e : Expr},
    Pattern.AllOrdered ps → translateBranches flags ps = .ok (e, after) → e.Ordered
  | [], _, _, _, _, h => by cases h; trivial
  | p :: ps, _, _, _, hp, h => by
    rw [translateBranches] at h
    split at h
    · cases h
    · next hleft =>
      split at h
      · cases h
      · next hright =>
        cases h
        exact ⟨translate_ordered hp.1 hleft, translateBranches_ordered hp.2 hright⟩

end

end Expr

end Regex
end MeshTelemetry
