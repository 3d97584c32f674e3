import MeshTelemetry.Proofs.Dispatcher.Counting
import MeshTelemetry.Proofs.Dispatcher.Measuring

/-!
# MeshTelemetry.Proofs.Dispatcher.Stopping

A record for which a collaborator fails gives rise to no source. All collaborators are asked before
the first source is offered, so that nothing is half done.

* `firstStop?`: the first of the answers for a record that is no value, in the order of asking.
* `Host.Unemitted`: what may have happened to the host meanwhile.
* `Invocation.step_stops`, `Invocation.after_stops`: a call that will stop stays with this, and
  leaves the receiver alone.
* `process_stops`: the calls to process a record.
-/

namespace MeshTelemetry

/-- How a call on a dispatcher ends if a collaborator answers so; a value does not end it. -/
def Outcome.stop? {α : Type} : Outcome Fault α → Option (Outcome DispatchFault Dispatch)
  | .done _ => none
  | .failed e => some (.failed (.collaborator e))
  | .crashed message => some (.crashed message)

/-- No source was counted and no file changed; the log tells of renamed endpoints at most. -/
structure Host.Unemitted (h h' : Host) : Prop where
  store : h'.store = h.store
  sources : ∀ kind, h'.meters.count (.sources kind) = h.meters.count (.sources kind)
  events : ∃ noted, h'.events = noted ++ h.events ∧ ∀ e ∈ noted, e.component = .normalizer

namespace Host.Unemitted

theorem refl (h : Host) : h.Unemitted h := ⟨rfl, fun _ => rfl, [], rfl, List.forall_mem_nil _⟩

theorem trans {h h' h'' : Host} (hfirst : h.Unemitted h') (hsecond : h'.Unemitted h'') :
    h.Unemitted h'' := by
  obtain ⟨noted, hnoted, hall⟩ := hfirst.events
  obtain ⟨more, hmore, hall'⟩ := hsecond.events
  refine ⟨hsecond.store.trans hfirst.store,
    fun kind => (hsecond.sources kind).trans (hfirst.sources kind), more ++ noted, ?_,
    List.forall_mem_append.mpr ⟨hall', hall⟩⟩
  rw [hmore, hnoted, List.append_assoc]

theorem tally (h : Host) {meter : Meter} (hmeter : ∀ kind, meter ≠ .sources kind) :
    h.Unemitted (h.tally meter) := by
  refine ⟨rfl, fun kind => ?_, [], rfl, List.forall_mem_nil _⟩
  have hbump := (Meters.gauge_count (.sources kind)).bump meter h.meters
  rwa [decide_eq_false (hmeter kind), Bool.toNat_false, Nat.add_zero] at hbump

theorem normalize (c : Collaborators) (m : Metric) (h : Host) :
    h.Unemitted (Dispatcher.normalize c m h).2 := by
  unfold Dispatcher.normalize
  rcases c.rename m.destService m.endpoint with (_ | name) | e | message
  · exact refl h
  · have hlog : h.Unemitted (h.log .debug .normalizer "Endpoint renamed"
        [("service", m.destService), ("from", m.endpoint), ("to", name)]) :=
      ⟨rfl, fun _ => rfl, [_], rfl, List.forall_mem_singleton.mpr rfl⟩
    exact hlog.trans (tally _ fun _ => nofun)
  · exact refl h
  · exact refl h

theorem finish (timer : Timer) (h : Host) : h.Unemitted (timer.finish h).2 := by
  cases timer with
  | counting started finished => exact refl h
  | metered => exact tally h fun _ => nofun

end Host.Unemitted

namespace Dispatcher

variable {ℓ : Type}

/-- The id of a service is asked for only if it and its instance have a name. -/
def identityStop? (c : Collaborators) (service name : String) :
    Option (Outcome DispatchFault Dispatch) :=
  if service ≠ "" ∧ name ≠ "" then (c.identify service .normal).stop? else none

/-- The first answer that ends the dispatch of a record: they are asked for the name of its endpoint,
for its time bucket, for the id of the caller and for the id of the called service. -/
def firstStop? (answers : Nat → Collaborators) (m : Metric) :
    Option (Outcome DispatchFault Dispatch) :=
  (((answers 0).rename m.destService m.endpoint).stop?).or <|
    (((answers 1).bucket m.startTime).stop?).or <|
      (identityStop? (answers 2) m.sourceService m.sourceInstance).or <|
        identityStop? (answers 3) m.destService m.destInstance

theorem heartbeat_stop (c : Collaborators) (service name : String) (bucket : Int64) :
    (heartbeat c service name bucket).stop? = identityStop? c service name := by
  unfold heartbeat identityStop?
  simp only [isEmpty_eq_decide, Bool.or_eq_true, decide_eq_true_eq]
  by_cases hs : service = ""
  · simp [hs, Outcome.stop?]
  · by_cases hn : name = ""
    · simp [hn, Outcome.stop?]
    · simp only [hs, hn, or_self, if_false, ne_eq, not_false_eq_true, and_self, if_true]
      cases c.identify service .normal <;> rfl

theorem normalize_stop (c : Collaborators) (m : Metric) (h : Host) :
    (normalize c m h).1.stop? = (c.rename m.destService m.endpoint).stop? := by
  unfold normalize
  rcases c.rename m.destService m.endpoint with (_ | name) | e | message <;> rfl

theorem normalize_endpoint {c : Collaborators} {m m' : Metric} {h : Host} {renamed : Bool}
    (hdone : (normalize c m h).1 = .done (m', renamed)) :
    ∃ endpoint, m' = { m with endpoint } := by
  unfold normalize at hdone
  generalize c.rename m.destService m.endpoint = answer at hdone
  rcases answer with (_ | name) | e | message <;> cases hdone
  · exact ⟨m.endpoint, rfl⟩
  · exact ⟨name, rfl⟩

namespace Invocation

/-- How the call will end that has reached a stage after so many steps, if a collaborator ends it. -/
def Stage.stop? (answers : Nat → Collaborators) (n : Nat) :
    Stage → Option (Outcome DispatchFault Dispatch)
  | .naming m =>
    (((answers n).rename m.destService m.endpoint).stop?).or <|
      (((answers (n + 1)).bucket m.startTime).stop?).or <|
        (identityStop? (answers (n + 2)) m.sourceService m.sourceInstance).or <|
          identityStop? (answers (n + 3)) m.destService m.destInstance
  | .bucketing m _ =>
    (((answers n).bucket m.startTime).stop?).or <|
      (identityStop? (answers (n + 1)) m.sourceService m.sourceInstance).or <|
        identityStop? (answers (n + 2)) m.destService m.destInstance
  | .identifyingSource m _ =>
    (identityStop? (answers n) m.sourceService m.sourceInstance).or <|
      identityStop? (answers (n + 1)) m.destService m.destInstance
  | .identifyingDest m _ _ => identityStop? (answers n) m.destService m.destInstance
  | .offering _ _ => none
  | .leaving o => some o
  | .returned o => some o

/-- The invariant: a call that will be stopped stays with the outcome, does not touch the receiver
and emits nothing. -/
structure Stops (answers : Nat → Collaborators) (o : Outcome DispatchFault Dispatch)
    (receiver : Receiver ℓ) (h : Host) (n : Nat) (s : Invocation ℓ) : Prop where
  stage : s.stage.stop? answers n = some o
  receiver : s.dispatcher.receiver = receiver
  host : h.Unemitted s.host

variable {answers : Nat → Collaborators} {o : Outcome DispatchFault Dispatch}
  {receiver : Receiver ℓ} {h : Host} {n : Nat} {s : Invocation ℓ}

/-- After an answer the call leaves with what this means, or goes on to be stopped later. -/
theorem Stops.proceed {α : Type} {answer : Outcome Fault α} {next : α → Stage}
    {later : Option (Outcome DispatchFault Dispatch)} (hstop : answer.stop?.or later = some o)
    (hnext : ∀ a, answer = .done a → (next a).stop? answers n = later)
    (hreceiver : s.dispatcher.receiver = receiver) (hhost : h.Unemitted s.host) :
    (s.proceed answer next).Stops answers o receiver h n := by
  cases answer with
  | done a => exact ⟨(hnext a rfl).trans hstop, hreceiver, hhost⟩
  | failed e => exact ⟨hstop, hreceiver, hhost⟩
  | crashed message => exact ⟨hstop, hreceiver, hhost⟩

theorem Stops.release (hs : s.Stops answers o receiver h n) (k : Nat) :
    (s.release o).Stops answers o receiver h k := by
  unfold Invocation.release
  split
  · exact ⟨rfl, hs.receiver, hs.host.trans (.finish _ _)⟩
  · exact ⟨rfl, hs.receiver, hs.host⟩

variable [Sink ℓ]

/-- One step, by the stage that the call has reached. -/
theorem step_stops (hs : s.Stops answers o receiver h n) :
    (s.step (answers n)).Stops answers o receiver h (n + 1) := by
  obtain ⟨stage, isMeasured, d, host⟩ := s
  obtain ⟨hstage, hreceiver, hhost⟩ := hs
  cases stage with
  | naming m =>
    rw [Stage.stop?, ← normalize_stop (answers n) m host] at hstage
    refine Stops.proceed hstage (fun ⟨m', renamed⟩ hdone => ?_) hreceiver
      (hhost.trans (.normalize (answers n) m host))
    obtain ⟨endpoint, rfl⟩ := normalize_endpoint hdone
    rfl
  | bucketing m renamed => exact Stops.proceed hstage (fun _ _ => rfl) hreceiver hhost
  | identifyingSource m dispatch =>
    rw [Stage.stop?, ← heartbeat_stop (answers n) _ _ dispatch.timeBucket] at hstage
    exact Stops.proceed hstage (fun _ _ => rfl) hreceiver hhost
  | identifyingDest m dispatch updates =>
    rw [Stage.stop?, ← heartbeat_stop (answers n) _ _ dispatch.timeBucket,
      ← Option.or_none (o := Outcome.stop? _)] at hstage
    exact Stops.proceed hstage (fun _ _ => rfl) hreceiver hhost
  | offering dispatch left => cases hstage
  | leaving o' =>
    cases hstage
    exact Stops.release (s := ⟨.leaving o, isMeasured, d, host⟩) (n := n) ⟨rfl, hreceiver, hhost⟩ _
  | returned o' => exact ⟨hstage, hreceiver, hhost⟩

theorem after_stops (hs : s.Stops answers o receiver h 0) (n : Nat) :
    (s.after answers n).Stops answers o receiver h n := by
  induction n with
  | zero => exact hs
  | succ n ih => exact step_stops ih

theorem process_after_stops {m : Metric} (hstop : firstStop? answers m = some o)
    (d : Dispatcher ℓ) (h : Host) :
    let call := (ofProcess m d h).after answers limit
    call.stage = .returned o ∧ call.dispatcher.receiver = d.receiver ∧ h.Unemitted call.host := by
  intro call
  have hstart : (ofProcess m d h).Stops answers o d.receiver h 0 := ⟨hstop, rfl, .refl h⟩
  obtain ⟨hstage, hreceiver, hhost⟩ := after_stops hstart limit
  obtain ⟨hreturned, -⟩ :=
    result_returned (answers 0) (after_limit answers (s := ofProcess m d h) (Nat.le_refl _))
  rw [hreturned] at hstage
  exact ⟨hreturned.trans (congrArg Stage.returned (Option.some.inj hstage)), hreceiver, hhost⟩

end Invocation

variable [Sink ℓ]

/-- If one of the collaborators that are asked for a record gives no value, the first such answer is
what comes of the record, and nothing is emitted: the receiver is as before, with all that its
members hold and with the counts of what they accepted and refused, it has seen no call, no source
was counted, no file was written. The collaborators may answer differently in each step of the call;
those of `process` do not. -/
theorem process_stops {answers : Nat → Collaborators} {m : Metric}
    {o : Outcome DispatchFault Dispatch} (hstop : firstStop? answers m = some o)
    (d : Dispatcher ℓ) (h : Host) :
    let call := (Invocation.ofProcess m d h).after answers Invocation.limit
    let watched : Dispatcher (Watched ℓ) := ⟨.sink ⟨d.receiver, []⟩, d.timer⟩
    (call.stage = .returned o ∧ call.dispatcher.receiver = d.receiver ∧ h.Unemitted call.host) ∧
      ((Invocation.ofProcess m watched h).ended answers).1.receiver = .sink ⟨d.receiver, []⟩ ∧
      ∀ c, answers = (fun _ => c) → (process c m d h).1 = o ∧
        (process c m d h).2.1.receiver = d.receiver ∧ h.Unemitted (process c m d h).2.2 := by
  intro call watched
  have hcall := Invocation.process_after_stops hstop d h
  refine ⟨hcall, (Invocation.process_after_stops hstop watched h).2.1, ?_⟩
  rintro c rfl
  obtain ⟨hstage, hreceiver, hhost⟩ := hcall
  obtain ⟨hreturned, hended⟩ := Invocation.process_after c m d h
  rw [← hended]
  exact ⟨Invocation.Stage.returned.inj (hreturned.symm.trans hstage), hreceiver, hhost⟩

/-- Nobody knows the id of the catalog, but those of all other services are known. -/
def withoutCatalog : Collaborators :=
  { catalogRules with
    identify := fun service _ =>
      if service = "catalog" then .failed (.identity service "unknown") else .done service }

/-- The caller has an id, but not even its refresh is kept in memory. -/
theorem process_stops_catalog :
    let cause : Fault := .identity "catalog" "unknown"
    let d : Dispatcher Output := ⟨Output.setOf [.memory "kept" []], .metered⟩
    let h := Host.withStore (.initial [])
    withoutCatalog.identify "frontend" .normal = .done "frontend" ∧
    firstStop? (fun _ => withoutCatalog) catalogCall = some (.failed (.collaborator cause)) ∧
    (process withoutCatalog catalogCall d h).1 = .failed (.collaborator cause) ∧
    (process withoutCatalog catalogCall d h).2.1.receiver = d.receiver ∧
    h.Unemitted (process withoutCatalog catalogCall d h).2.2 := by
  intro cause d h
  have hcaller : withoutCatalog.identify "frontend" .normal = .done "frontend" := by decide
  have hstop : firstStop? (fun _ => withoutCatalog) catalogCall =
      some (.failed (.collaborator cause)) := by decide
  obtain ⟨-, -, hprocess⟩ := process_stops hstop d h
  exact ⟨hcaller, hstop, hprocess withoutCatalog rfl⟩

end Dispatcher
end MeshTelemetry
