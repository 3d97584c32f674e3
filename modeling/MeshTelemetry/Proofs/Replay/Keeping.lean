import MeshTelemetry.Proofs.Fanout.Canonical
import MeshTelemetry.Replay

/-!
# MeshTelemetry.Proofs.Replay.Keeping

What calls on a receiver keep is kept by a whole replay: between two calls nothing is done to the
receiver or the store.

* `Receiver.Keeps`: a property of a receiver and the store that every call keeps.
* `Dispatcher.process_keeps`: a record is dispatched; `Replay.run_keeps`: lines are read.
* `ReplaySettings.replay_keeps`: the receivers are closed with the property.
-/

namespace MeshTelemetry

variable {ℓ : Type} [Sink ℓ]

/-- Whatever a receiver is offered, and when it is flushed, the property holds again after it. -/
structure Receiver.Keeps (P : Receiver ℓ → Store → Prop) : Prop where
  receive : ∀ {r : Receiver ℓ} {h : Host} (source : Source), P r h.store →
    P (r.receive source h).2.1 (r.receive source h).2.2.store
  flush : ∀ {r : Receiver ℓ} {h : Host}, P r h.store → P (r.flush h).2.1 (r.flush h).2.2.store

namespace Dispatcher

variable {P : Receiver ℓ → Store → Prop}

theorem offer_keeps (hP : Receiver.Keeps P) (list : List Source) :
    ∀ {r : Receiver ℓ} {h : Host}, P r h.store →
      P (offer list r h).2.1 (offer list r h).2.2.store := by
  induction list with
  | nil => exact fun hr => hr
  | cons source rest ih =>
    intro r h hr
    have hnext := hP.receive source hr
    rw [offer]
    rcases hreceive : r.receive source h with ⟨o, r1, h1⟩
    rw [hreceive] at hnext
    cases o with
    | failed e => exact hnext
    | crashed m => exact hnext
    | done u =>
      let h2 := (h1.log .trace .dispatcher "Source forwarded"
        [("kind", source.kind.name)]).tally (.sources source.kind)
      have hrest := ih (h := h2) hnext
      simp only
      rcases hoffer : offer rest r1 h2 with ⟨o, r2, h3⟩
      rw [hoffer] at hrest
      cases o <;> exact hrest

theorem dispatch_keeps (hP : Receiver.Keeps P) (c : Collaborators) (m : Metric) {r : Receiver ℓ}
    {h : Host} (hr : P r h.store) : P (dispatch c m r h).2.1 (dispatch c m r h).2.2.store := by
  unfold dispatch
  split
  · exact hr
  · exact hr
  · next bucket list _ =>
    have hoffered := offer_keeps hP list hr
    rcases hoffer : offer list r h with ⟨o, r1, h1⟩
    rw [hoffer] at hoffered
    cases o <;> exact hoffered

theorem process_keeps (hP : Receiver.Keeps P) (c : Collaborators) (m : Metric) {d : Dispatcher ℓ}
    {h : Host} (hd : P d.receiver h.store) :
    P (process c m d h).2.1.receiver (process c m d h).2.2.store := by
  have hfinish : ∀ (t : Timer) (h : Host), (t.finish h).2.store = h.store := by
    intro t h
    cases t <;> rfl
  have hdispatched : P (normalizeAndDispatch c m d.receiver h).2.1
      (normalizeAndDispatch c m d.receiver h).2.2.store := by
    have hstore := normalize_store c m h
    unfold normalizeAndDispatch
    rcases hn : normalize c m h with ⟨o, h1⟩
    rw [hn] at hstore
    rw [← hstore] at hd
    cases o with
    | failed e => exact hd
    | crashed message => exact hd
    | done answer =>
      obtain ⟨m', renamed⟩ := answer
      have hkept := dispatch_keeps hP c m' hd
      simp only
      rcases hdispatch : dispatch c m' d.receiver h1 with ⟨o, r1, h2⟩
      rw [hdispatch] at hkept
      cases o <;> exact hkept
  simp only [process, hfinish]
  exact hdispatched

end Dispatcher

namespace Replay

variable {P : Receiver Output → Store → Prop}

theorem takeRecord_keeps (hP : Receiver.Keeps P) (c : Collaborators) (m : Metric) {r : Replay}
    (hr : P r.dispatcher.receiver r.host.store) :
    P (r.takeRecord c m).2.dispatcher.receiver (r.takeRecord c m).2.host.store := by
  have hprocessed := Dispatcher.process_keeps hP c m hr
  unfold takeRecord
  rcases hprocess : r.dispatcher.process c m r.host with ⟨o, d, h⟩
  rw [hprocess] at hprocessed
  cases o <;> exact hprocessed

theorem takeLine_keeps (hP : Receiver.Keeps P) (c : Collaborators) (limit : Option Nat)
    (text : String) {r : Replay} (hr : P r.dispatcher.receiver r.host.store) :
    P (r.takeLine c limit text).2.dispatcher.receiver (r.takeLine c limit text).2.host.store := by
  simp only [takeLine]
  split
  · exact hr
  · split
    · exact hr
    · split
      · exact hr
      · exact takeRecord_keeps hP c _ hr

theorem advance_keeps (hP : Receiver.Keeps P) (c : Collaborators) (limit : Option Nat)
    (isStopped : Nat → Bool) {r : Replay} (hr : P r.dispatcher.receiver r.host.store) :
    P (r.advance c limit isStopped).2.dispatcher.receiver
      (r.advance c limit isStopped).2.host.store := by
  unfold advance
  split
  · exact hr
  · split
    · exact hr
    · exact hr
    · split
      · exact hr
      · exact takeLine_keeps hP c limit _ hr

/-- The run from any state, by induction on the number of rounds. -/
theorem run_keeps (hP : Receiver.Keeps P) (c : Collaborators) (limit : Option Nat)
    (isStopped : Nat → Bool) (fuel : Nat) :
    ∀ {r : Replay}, P r.dispatcher.receiver r.host.store →
      P (r.run c limit isStopped fuel).2.dispatcher.receiver
        (r.run c limit isStopped fuel).2.host.store := by
  induction fuel with
  | zero => exact fun hr => hr
  | succ fuel ih =>
    intro r hr
    have hnext := advance_keeps hP c limit isStopped hr
    rw [run]
    rcases hadvance : r.advance c limit isStopped with ⟨verdict, r1⟩
    rw [hadvance] at hnext
    cases verdict with
    | next => exact ih hnext
    | finished => exact hnext
    | failed e => exact hnext
    | crashed message => exact hnext

theorem finish_keeps (hP : Receiver.Keeps P) (ended : Verdict × Replay)
    (hr : P ended.2.dispatcher.receiver ended.2.host.store) :
    ∃ receiver h, P receiver h.store ∧ (finish ended).2 = receiver.close h := by
  obtain ⟨v, r⟩ := ended
  have hflushed := hP.flush hr
  have hend : ∃ receiver h, P receiver h.store ∧ (finish (.finished, r)).2 = receiver.close h := by
    simp only [finish]
    rcases hflush : r.dispatcher.receiver.flush r.host with ⟨o, receiver, h⟩
    rw [hflush] at hflushed
    cases o <;> exact ⟨receiver, h, hflushed, rfl⟩
  cases v with
  | next => exact hend
  | finished => exact hend
  | failed e => exact ⟨_, _, hr, rfl⟩
  | crashed message => exact ⟨_, _, hr, rfl⟩

end Replay

/-- A replay either ends before any receiver is called, with the store as it is when they are open,
or closes its receivers with the property. -/
theorem ReplaySettings.replay_keeps {P : Receiver Output → Store → Prop} (hP : Receiver.Keeps P)
    {s : ReplaySettings} (stdin : Bytes) (isStopped : Nat → Bool) {h h1 : Host}
    {outputs : List Output} (hopen : s.openReceivers h = (.ok outputs, h1))
    (hstart : P (Output.setOf outputs) h1.store) :
    (s.replay stdin isStopped h).2.store = h1.store ∨
      ∃ receiver h', P receiver h'.store ∧
        (s.replay stdin isStopped h).2 = receiver.close h' := by
  simp only [replay, hopen]
  split
  · exact .inl rfl
  · next naming _ =>
    generalize hready : h1.log .info .replay "Dispatcher ready" _ = ready
    have hstore : ready.store = h1.store := by
      rw [← hready]
      rfl
    split
    · exact .inl hstore
    · next feed _ =>
      let start : Replay := ⟨feed, 0, .none, false, ⟨Output.setOf outputs, .metered⟩, ready⟩
      have hready : P start.dispatcher.receiver start.host.store := by
        simp only [start, hstore]
        exact hstart
      have hrun := Replay.run_keeps hP (.ofNaming naming) s.limit isStopped
        (Replay.lineBound feed ready.store) hready
      exact .inr (Replay.finish_keeps hP _ hrun)

end MeshTelemetry
