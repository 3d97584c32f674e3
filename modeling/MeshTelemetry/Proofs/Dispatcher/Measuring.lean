import MeshTelemetry.Dispatcher.Invocation
import MeshTelemetry.Proofs.Fanout.Offering

/-!
# MeshTelemetry.Proofs.Dispatcher.Measuring

The latency of a call on a dispatcher is measured from its first step to its last one, whatever it
is answered in between.

* `Invocation.step_rank`, `Invocation.after_limit`: a call comes to its end.
* `Invocation.result`: what a state comes to, which no step changes; with it
  `Invocation.process_after` and `Invocation.dispatch_after`: the steps are those of the dispatcher.
* `Invocation.step_before`: no step but the last one touches the measurements.
* `Invocation.Measuring`: the invariant of a call; `Invocation.process_timer` and
  `Invocation.dispatch_timer`: what it says of the two kinds of calls.
* `serveAll_measures`: the calls on a dispatcher.
-/

namespace MeshTelemetry
namespace Dispatcher

variable {ℓ : Type}

namespace Invocation

theorem proceed_stage {α : Type} (s : Invocation ℓ) (answer : Outcome Fault α) (next : α → Stage) :
    ∃ stage, s.proceed answer next = { s with stage } ∧
      ((∃ o, stage = .leaving o) ∨ ∃ a, answer = .done a ∧ stage = next a) := by
  cases answer with
  | done a => exact ⟨_, rfl, .inr ⟨a, rfl, rfl⟩⟩
  | failed e => exact ⟨_, rfl, .inl ⟨_, rfl⟩⟩
  | crashed message => exact ⟨_, rfl, .inl ⟨_, rfl⟩⟩

variable [Sink ℓ]

theorem step_returned (c : Collaborators) {s : Invocation ℓ} (hs : s.hasReturned = true) :
    s.step c = s := by
  obtain ⟨stage, isMeasured, d, h⟩ := s
  cases stage with
  | returned o => rfl
  | naming | bucketing | identifyingSource | identifyingDest | offering | leaving => cases hs

section Ending

/-- So many steps a call takes at most from here. There are two refreshes, the traffic of four nodes
and two edges. -/
def Stage.rank : Stage → Nat
  | .naming _ => 14
  | .bucketing _ _ => 13
  | .identifyingSource _ _ => 12
  | .identifyingDest _ _ updates => updates.length + 10
  | .offering _ left => left.length + 2
  | .leaving _ => 1
  | .returned _ => 0

omit [Sink ℓ] in
theorem hasReturned_of_rank {s : Invocation ℓ} (h : s.stage.rank = 0) : s.hasReturned = true := by
  obtain ⟨stage, isMeasured, d, host⟩ := s
  cases stage with
  | returned o => rfl
  | naming | bucketing | identifyingSource | identifyingDest | offering | leaving =>
    simp [Stage.rank] at h

theorem heartbeat_length {c : Collaborators} {service name : String} {bucket : Int64}
    {updates : List InstanceUpdate}
    (h : Dispatcher.heartbeat c service name bucket = .done updates) : updates.length ≤ 1 := by
  unfold Dispatcher.heartbeat at h
  split at h
  · cases h
    exact Nat.zero_le _
  · split at h <;> cases h
    exact Nat.le_refl _

omit [Sink ℓ] in
theorem proceed_rank {α : Type} (s : Invocation ℓ) {answer : Outcome Fault α} {next : α → Stage}
    {n : Nat} (hn : 1 < n) (hnext : ∀ a, answer = .done a → (next a).rank < n) :
    (s.proceed answer next).stage.rank < n := by
  obtain ⟨stage, hproceed, ⟨o, rfl⟩ | ⟨a, hanswer, rfl⟩⟩ := s.proceed_stage answer next
  · rw [hproceed]
    exact hn
  · rw [hproceed]
    exact hnext a hanswer

theorem step_rank (c : Collaborators) {s : Invocation ℓ} (hs : s.hasReturned = false) :
    (s.step c).stage.rank < s.stage.rank := by
  obtain ⟨stage, isMeasured, d, h⟩ := s
  cases stage with
  | naming m =>
    refine proceed_rank _ (by simp [Stage.rank]) fun _ _ => ?_
    simp [Stage.rank]
  | bucketing m renamed =>
    refine proceed_rank _ (by simp [Stage.rank]) fun _ _ => ?_
    simp [Stage.rank]
  | identifyingSource m dispatch =>
    refine proceed_rank _ (by simp [Stage.rank]) fun updates hupdates => ?_
    have := heartbeat_length hupdates
    simp only [Stage.rank]
    omega
  | identifyingDest m dispatch updates =>
    refine proceed_rank _ (by simp [Stage.rank]) fun more hmore => ?_
    have := heartbeat_length hmore
    have hnodes : (Fanout.nodes m dispatch.timeBucket).length ≤ 4 := by
      unfold Fanout.nodes
      split <;> simp
    have hrelations : (Fanout.relations m dispatch.timeBucket).length ≤ 2 := by
      unfold Fanout.relations
      split <;> simp
    simp only [Stage.rank, List.length_append, List.length_map]
    omega
  | offering dispatch left =>
    cases left with
    | nil => exact Nat.lt_succ_self 1
    | cons source left =>
      simp only [step, offer]
      rcases d.receiver.receive source h with ⟨o, receiver, host⟩
      cases o <;> simp [Stage.rank]
  | leaving o =>
    simp only [step, release]
    split <;> exact Nat.zero_lt_one
  | returned o => cases hs

theorem after_rank (answers : Nat → Collaborators) (s : Invocation ℓ) (n : Nat) :
    (s.after answers n).hasReturned = true ∨ (s.after answers n).stage.rank + n ≤ s.stage.rank := by
  induction n with
  | zero => exact .inr (Nat.le_refl _)
  | succ n ih =>
    rw [after]
    cases hended : (s.after answers n).hasReturned with
    | true =>
      rw [step_returned _ hended]
      exact .inl hended
    | false =>
      have hrank := ih.resolve_left (by rw [hended]; exact Bool.false_ne_true)
      have hstep := step_rank (answers n) hended
      exact .inr (by omega)

theorem after_limit (answers : Nat → Collaborators) {s : Invocation ℓ}
    (hs : s.stage.rank ≤ limit) : (s.after answers limit).hasReturned = true := by
  rcases after_rank answers s limit with hended | hrank
  · exact hended
  · exact hasReturned_of_rank (by omega)

end Ending

section Result

/-- What a call comes to once it has the result of its work: it gives up its measurement. -/
def conclude (isMeasured : Bool) (timer : Timer) :
    Outcome DispatchFault Dispatch × Receiver ℓ × Host →
      Outcome DispatchFault Dispatch × Dispatcher ℓ × Host
  | (o, receiver, h) =>
    if isMeasured then
      match timer.finish h with
      | (timer, h) => (o, ⟨receiver, timer⟩, h)
    else (o, ⟨receiver, timer⟩, h)

/-- The sources that are left are offered. -/
def resultOfOffering (d : Dispatch) (left : List Source) (r : Receiver ℓ) (h : Host) :
    Outcome DispatchFault Dispatch × Receiver ℓ × Host :=
  let answer := Dispatcher.offer left r h
  (answer.1.map fun kinds => { d with emitted := d.emitted ++ kinds }, answer.2)

/-- What a call comes to from here on if the collaborators do not change. -/
def result (c : Collaborators) (s : Invocation ℓ) :
    Outcome DispatchFault Dispatch × Dispatcher ℓ × Host :=
  let r := s.dispatcher.receiver
  let conclude := conclude s.isMeasured s.dispatcher.timer
  match s.stage with
  | .naming m => conclude (Dispatcher.normalizeAndDispatch c m r s.host)
  | .bucketing m renamed =>
    let answer := Dispatcher.dispatch c m r s.host
    conclude (answer.1.map ({ · with renamed }), answer.2)
  | .identifyingSource m d =>
    match Dispatcher.heartbeats c m d.timeBucket with
    | .failed e => conclude (.failed (.collaborator e), r, s.host)
    | .crashed message => conclude (.crashed message, r, s.host)
    | .done updates =>
      conclude (resultOfOffering d (updates.map .instanceUpdate ++ Fanout.nodes m d.timeBucket ++
        Fanout.relations m d.timeBucket) r s.host)
  | .identifyingDest m d updates =>
    match Dispatcher.heartbeat c m.destService m.destInstance d.timeBucket with
    | .failed e => conclude (.failed (.collaborator e), r, s.host)
    | .crashed message => conclude (.crashed message, r, s.host)
    | .done more =>
      conclude (resultOfOffering d ((updates ++ more).map .instanceUpdate ++
        Fanout.nodes m d.timeBucket ++ Fanout.relations m d.timeBucket) r s.host)
  | .offering d left => conclude (resultOfOffering d left r s.host)
  | .leaving o => conclude (o, r, s.host)
  | .returned o => (o, s.dispatcher, s.host)

theorem step_result (c : Collaborators) (s : Invocation ℓ) : (s.step c).result c = s.result c := by
  obtain ⟨stage, isMeasured, d, h⟩ := s
  cases stage with
  | naming m =>
    simp only [step, result, Dispatcher.normalizeAndDispatch]
    rcases Dispatcher.normalize c m h with ⟨_ | e | message, h1⟩
    · simp only [proceed]
      rcases Dispatcher.dispatch c _ d.receiver h1 with ⟨_ | e | message, r, h2⟩ <;> rfl
    · rfl
    · rfl
  | bucketing m renamed =>
    simp only [step, result, Dispatcher.dispatch, Dispatcher.sources]
    cases c.bucket m.startTime with
    | failed e => rfl
    | crashed message => rfl
    | done bucket =>
      simp only [proceed]
      cases Dispatcher.heartbeats c m bucket with
      | failed e => rfl
      | crashed message => rfl
      | done updates =>
        simp only [resultOfOffering]
        rcases Dispatcher.offer _ d.receiver h with ⟨_ | e | message, r, h1⟩ <;> rfl
  | identifyingSource m dispatch =>
    simp only [step, result, Dispatcher.heartbeats]
    cases Dispatcher.heartbeat c m.sourceService m.sourceInstance dispatch.timeBucket with
    | failed e => rfl
    | crashed message => rfl
    | done updates =>
      simp only [proceed]
      cases Dispatcher.heartbeat c m.destService m.destInstance dispatch.timeBucket with
      | failed e => rfl
      | crashed message => rfl
      | done more => rfl
  | identifyingDest m dispatch updates =>
    simp only [step, result]
    cases Dispatcher.heartbeat c m.destService m.destInstance dispatch.timeBucket with
    | failed e => rfl
    | crashed message => rfl
    | done more => rfl
  | offering dispatch left =>
    cases left with
    | nil => simp [step, result, resultOfOffering, Dispatcher.offer, Outcome.map]
    | cons source left =>
      simp only [step, result, offer, resultOfOffering, Dispatcher.offer_cons]
      rcases d.receiver.receive source h with ⟨_ | e | message, r, h1⟩
      · simp only
        rcases Dispatcher.offer left r _ with ⟨kinds | e | message, r, h2⟩
        · simp [Outcome.map, conclude]
        · rfl
        · rfl
      · rfl
      · rfl
  | leaving o =>
    cases isMeasured with
    | true => rfl
    | false => rfl
  | returned o => rfl

theorem after_result (c : Collaborators) (s : Invocation ℓ) (n : Nat) :
    (s.after (fun _ => c) n).result c = s.result c := by
  induction n with
  | zero => rfl
  | succ n ih => exact (step_result c _).trans ih

theorem result_returned (c : Collaborators) {s : Invocation ℓ} (hs : s.hasReturned = true) :
    s.stage = .returned (s.result c).1 ∧ (s.dispatcher, s.host) = (s.result c).2 := by
  obtain ⟨stage, isMeasured, d, h⟩ := s
  cases stage with
  | returned o => exact ⟨rfl, rfl⟩
  | naming | bucketing | identifyingSource | identifyingDest | offering | leaving => cases hs

theorem after_limit_result (c : Collaborators) {s : Invocation ℓ} (hs : s.stage.rank ≤ limit) :
    (s.after (fun _ => c) limit).stage = .returned (s.result c).1 ∧
      s.ended (fun _ => c) = (s.result c).2 := by
  have hended := result_returned c (after_limit (fun _ => c) hs)
  rw [after_result] at hended
  exact hended

theorem process_after (c : Collaborators) (m : Metric) (d : Dispatcher ℓ) (h : Host) :
    ((ofProcess m d h).after (fun _ => c) limit).stage = .returned (Dispatcher.process c m d h).1 ∧
      (ofProcess m d h).ended (fun _ => c) = (Dispatcher.process c m d h).2 :=
  after_limit_result c (Nat.le_refl _)

theorem dispatch_after (c : Collaborators) (m : Metric) (d : Dispatcher ℓ) (h : Host) :
    let answer := Dispatcher.dispatch c m d.receiver h
    ((ofDispatch m d h).after (fun _ => c) limit).stage = .returned answer.1 ∧
      (ofDispatch m d h).ended (fun _ => c) = (⟨answer.2.1, d.timer⟩, answer.2.2) := by
  -- a record that is already renamed counts as one that was not
  have hrenamed : (Dispatcher.dispatch c m d.receiver h).1.map ({ · with renamed := false }) =
      (Dispatcher.dispatch c m d.receiver h).1 := by
    unfold Dispatcher.dispatch
    cases Dispatcher.sources c m with
    | failed e => rfl
    | crashed message => rfl
    | done answer =>
      simp only
      rcases Dispatcher.offer answer.2 d.receiver h with ⟨_ | e | message, r, h1⟩ <;> rfl
  have hended := after_limit_result c (s := ofDispatch m d h) (Nat.le_succ _)
  have hresult : (ofDispatch m d h).result c =
      ((Dispatcher.dispatch c m d.receiver h).1,
        ⟨(Dispatcher.dispatch c m d.receiver h).2.1, d.timer⟩,
        (Dispatcher.dispatch c m d.receiver h).2.2) := by
    rw [← hrenamed]
    rfl
  rw [hresult] at hended
  exact hended

end Result

section Measuring

/-- No step but the one in which a call leaves touches the measurements. -/
theorem step_before (c : Collaborators) {s : Invocation ℓ} (hs : s.hasReturned = false) :
    (∃ o, s.step c = s.release o) ∨
      (s.step c).hasReturned = false ∧ (s.step c).dispatcher.timer = s.dispatcher.timer ∧
        (s.step c).isMeasured = s.isMeasured := by
  obtain ⟨stage, isMeasured, d, h⟩ := s
  have hproceed : ∀ {α : Type} (host : Host) (answer : Outcome Fault α) (next : α → Stage),
      (∀ a, (⟨next a, isMeasured, d, host⟩ : Invocation ℓ).hasReturned = false) →
      let s' := (⟨stage, isMeasured, d, host⟩ : Invocation ℓ).proceed answer next
      s'.hasReturned = false ∧ s'.dispatcher.timer = d.timer ∧ s'.isMeasured = isMeasured := by
    intro α host answer next hnext
    cases answer with
    | done a => exact ⟨hnext a, rfl, rfl⟩
    | failed e => exact ⟨rfl, rfl, rfl⟩
    | crashed message => exact ⟨rfl, rfl, rfl⟩
  cases stage with
  | naming m => exact .inr (hproceed _ _ _ fun _ => rfl)
  | bucketing m renamed => exact .inr (hproceed h _ _ fun _ => rfl)
  | identifyingSource m dispatch => exact .inr (hproceed h _ _ fun _ => rfl)
  | identifyingDest m dispatch updates => exact .inr (hproceed h _ _ fun _ => rfl)
  | offering dispatch left =>
    right
    cases left with
    | nil => exact ⟨rfl, rfl, rfl⟩
    | cons source left =>
      simp only [step, offer]
      rcases d.receiver.receive source h with ⟨o, receiver, host⟩
      cases o <;> exact ⟨rfl, rfl, rfl⟩
  | leaving o => exact .inl ⟨o, rfl⟩
  | returned o => cases hs

/-- Before the call, as many measurements were finished as were begun. If it is measured, it has
begun one of its own, which it holds until it returns. -/
structure Measuring (measured : Bool) (before : Nat) (s : Invocation ℓ) : Prop where
  timer : s.dispatcher.timer = .counting (before + measured.toNat)
    (if s.hasReturned then before + measured.toNat else before)
  held : s.isMeasured = (measured && !s.hasReturned)

omit [Sink ℓ] in
theorem Measuring.release {measured : Bool} {before : Nat} {s : Invocation ℓ}
    (hs : s.Measuring measured before) (hnot : s.hasReturned = false)
    (o : Outcome DispatchFault Dispatch) : (s.release o).Measuring measured before := by
  obtain ⟨htimer, hheld⟩ := hs
  rw [hnot] at htimer hheld
  cases measured with
  | true =>
    have hrelease : s.release o = ⟨.returned o, false,
        { s.dispatcher with timer := .counting (before + 1) (before + 1) }, s.host⟩ := by
      simp only [Invocation.release, hheld, htimer]
      rfl
    rw [hrelease]
    exact ⟨rfl, rfl⟩
  | false =>
    have hrelease : s.release o = { s with stage := .returned o } := by
      simp only [Invocation.release, hheld]
      rfl
    rw [hrelease]
    exact ⟨htimer, hheld⟩

theorem Measuring.step {measured : Bool} {before : Nat} {s : Invocation ℓ}
    (hs : s.Measuring measured before) (c : Collaborators) :
    (s.step c).Measuring measured before := by
  cases hended : s.hasReturned with
  | true =>
    rw [step_returned c hended]
    exact hs
  | false =>
    rcases step_before c hended with ⟨o, hstep⟩ | ⟨hnot, hkept, hmeasured⟩
    · rw [hstep]
      exact hs.release hended o
    · have hsame : (s.step c).hasReturned = s.hasReturned := hnot.trans hended.symm
      refine ⟨?_, ?_⟩
      · rw [hkept, hsame]
        exact hs.timer
      · rw [hmeasured, hsame]
        exact hs.held

theorem Measuring.after {measured : Bool} {before : Nat} {s : Invocation ℓ}
    (hs : s.Measuring measured before) (answers : Nat → Collaborators) (n : Nat) :
    (s.after answers n).Measuring measured before := by
  induction n with
  | zero => exact hs
  | succ n ih => exact ih.step (answers n)

variable {d : Dispatcher ℓ} {before : Nat}

theorem process_timer (hd : d.timer = .counting before before) (m : Metric) (h : Host)
    (answers : Nat → Collaborators) (n : Nat) :
    let s := (ofProcess m d h).after answers n
    s.dispatcher.timer = .counting (before + 1) (if s.hasReturned then before + 1 else before) := by
  have hstart : (ofProcess m d h).Measuring true before := ⟨congrArg Timer.start hd, rfl⟩
  exact (hstart.after answers n).timer

theorem dispatch_timer (hd : d.timer = .counting before before) (m : Metric) (h : Host)
    (answers : Nat → Collaborators) (n : Nat) :
    ((ofDispatch m d h).after answers n).dispatcher.timer = .counting before before := by
  have hstart : (ofDispatch m d h).Measuring false before := ⟨hd, rfl⟩
  have htimer := (hstart.after answers n).timer
  rwa [Bool.toNat_false, Nat.add_zero, ite_self] at htimer

end Measuring

end Invocation

variable [Sink ℓ]

/-- So many of the calls are measured. -/
def Request.measured (requests : List Request) : Nat := requests.countP (·.isProcess)

theorem serve_timer {s : Dispatcher ℓ × Host} {before : Nat}
    (hs : s.1.timer = .counting before before) (request : Request) :
    let after := before + if request.isProcess then 1 else 0
    (serve request s).1.timer = .counting after after := by
  cases request with
  | process m answers =>
    have htimer := Invocation.process_timer hs m s.2 answers Invocation.limit
    have hended : ((Invocation.ofProcess m s.1 s.2).after answers Invocation.limit).hasReturned =
        true := Invocation.after_limit answers (Nat.le_refl _)
    simp only [hended] at htimer
    exact htimer
  | dispatch m answers => exact Invocation.dispatch_timer hs m s.2 answers Invocation.limit
  | flush => exact hs

theorem serveAll_timer (requests : List Request) : ∀ {s : Dispatcher ℓ × Host} {before : Nat},
    s.1.timer = .counting before before →
      let after := before + Request.measured requests
      (serveAll requests s).1.timer = .counting after after := by
  induction requests with
  | nil => exact fun hs => hs
  | cons request requests ih =>
    intro s before hs
    have hcount : Request.measured (request :: requests) =
        Request.measured requests + if request.isProcess then 1 else 0 := List.countP_cons
    simp only [hcount, Nat.add_comm (Request.measured requests), ← Nat.add_assoc]
    exact ih (serve_timer hs request)

/-- After any calls on a new dispatcher, as many measurements are finished as were begun: one for
each record that was processed. In the next call to process a record, one more is begun before the
first step, and it is finished when the call returns, which it does, and not before, whatever the
collaborators and the receiver answer. No other call touches the measurements. The steps of a call
are what the dispatcher does if the collaborators do not change. -/
theorem serveAll_measures (requests : List Request) (receiver : Receiver ℓ) (h : Host) :
    let s := serveAll requests (⟨receiver, .counting 0 0⟩, h)
    let before := Request.measured requests
    s.1.timer = .counting before before ∧
      (∀ m answers,
        let call := (Invocation.ofProcess m s.1 s.2).after answers
        (call Invocation.limit).hasReturned = true ∧
          ∀ n, (call n).dispatcher.timer =
            .counting (before + 1) (if (call n).hasReturned then before + 1 else before)) ∧
      (∀ m answers,
        let call := (Invocation.ofDispatch m s.1 s.2).after answers
        (call Invocation.limit).hasReturned = true ∧
          ∀ n, (call n).dispatcher.timer = .counting before before) ∧
      (serve .flush s).1.timer = .counting before before ∧
      ∀ c m, serve (.process m fun _ => c) s = (process c m s.1 s.2).2 ∧
        serve (.dispatch m fun _ => c) s =
          (⟨(dispatch c m s.1.receiver s.2).2.1, s.1.timer⟩,
            (dispatch c m s.1.receiver s.2).2.2) := by
  intro s before
  have htimer : s.1.timer = .counting before before := by
    have hnew : ((⟨receiver, .counting 0 0⟩, h) : Dispatcher ℓ × Host).1.timer =
        .counting 0 0 := rfl
    have hall := serveAll_timer requests hnew
    rwa [Nat.zero_add] at hall
  refine ⟨htimer, fun m answers => ⟨?_, fun n => ?_⟩, fun m answers => ⟨?_, fun n => ?_⟩, htimer,
    fun c m => ⟨?_, ?_⟩⟩
  · exact Invocation.after_limit answers (Nat.le_refl _)
  · exact Invocation.process_timer htimer m s.2 answers n
  · exact Invocation.after_limit answers (Nat.le_succ _)
  · exact Invocation.dispatch_timer htimer m s.2 answers n
  · exact (Invocation.process_after c m s.1 s.2).2
  · exact (Invocation.dispatch_after c m s.1 s.2).2

end Dispatcher
end MeshTelemetry
