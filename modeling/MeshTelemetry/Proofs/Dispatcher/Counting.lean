import MeshTelemetry.Proofs.Fanout.Offering
import MeshTelemetry.Proofs.Meters
import MeshTelemetry.Proofs.Receiver.Counts

/-!
# MeshTelemetry.Proofs.Dispatcher.Counting

What dispatching a record counts: its endpoint, if it gets a name, and each source that is accepted.
A record that fails for its collaborators has no source, but its endpoint may have got a name.

* `Dispatcher.process_cases`: a record fails before anything is offered, or its sources are offered.
* `Dispatcher.offer_meters`, `Dispatcher.process_meters`: what is added to the meters.
* `Dispatcher.process_even`, `Dispatcher.offer_refused`: what the members of a set have accepted and
  refused.
-/

namespace MeshTelemetry

variable {ℓ : Type} [Sink ℓ]

/-- The endpoint of the record gets a name. -/
def Collaborators.renames (c : Collaborators) (m : Metric) : Bool :=
  match c.rename m.destService m.endpoint with
  | .done (some _) => true
  | _ => false

/-- The sources that were accepted by these calls. -/
def acceptedOf (calls : List ReceiveCall) : List Source :=
  calls.filterMap fun (source, o) =>
    match o with
    | .done () => some source
    | _ => none

theorem acceptedOf_done (list : List Source) : acceptedOf (list.map (·, .done ())) = list := by
  induction list with
  | nil => rfl
  | cons source list ih => exact congrArg (source :: ·) ih

theorem Timer.finish_meters {read : Meters → Nat} {worth : Meter → Nat}
    (hg : Meters.Gauge read worth) (hlatency : worth .latency = 0) (t : Timer) (h : Host) : read (t.finish h).2.meters = read h.meters := by
  cases t with
  | counting started finished => rfl
  | metered => exact (hg.bump _ _).trans (by rw [hlatency, Nat.add_zero])

namespace Dispatcher

/-- A record is not dispatched, for a reason that no receiver has given. -/
inductive Unoffered : Outcome DispatchFault Dispatch → Prop
  | failed (cause : Fault) : Unoffered (.failed (.collaborator cause))
  | crashed (message : String) : Unoffered (.crashed message)

/-- Behind its renaming a record fails at once, or its sources are offered; then the measurement is
finished. -/
theorem process_cases (c : Collaborators) (m : Metric) (d : Dispatcher ℓ) (h : Host) :
    (∃ o, Unoffered o ∧
      let ended := d.timer.start.finish (normalize c m h).2
      process c m d h = (o, ⟨d.receiver, ended.1⟩, ended.2)) ∨
    ∃ bucket list,
      let answer := offer list d.receiver (normalize c m h).2
      let ended := d.timer.start.finish answer.2.2
      process c m d h =
        (answer.1.map (⟨bucket, ·, c.renames m⟩), ⟨answer.2.1, ended.1⟩, ended.2) := by
  simp only [process, normalizeAndDispatch]
  rcases hn : normalize c m h with ⟨o, h1⟩
  cases o with
  | failed e => exact .inl ⟨_, .failed e, rfl⟩
  | crashed message => exact .inl ⟨_, .crashed message, rfl⟩
  | done normalized =>
    obtain ⟨m1, renamed⟩ := normalized
    have hrenamed : c.renames m = renamed := by
      unfold normalize at hn
      unfold Collaborators.renames
      generalize c.rename m.destService m.endpoint = answer at hn ⊢
      rcases answer with (_ | name) | e | message <;> cases hn <;> rfl
    simp only [dispatch]
    cases sources c m1 with
    | failed e => exact .inl ⟨_, .failed e, rfl⟩
    | crashed message => exact .inl ⟨_, .crashed message, rfl⟩
    | done answer =>
      obtain ⟨bucket, list⟩ := answer
      refine .inr ⟨bucket, list, ?_⟩
      simp only [hrenamed]
      rcases offer list d.receiver h1 with ⟨o, r2, h2⟩
      cases o <;> rfl

section Meters

variable {read : Meters → Nat} {worth : Meter → Nat}

theorem normalize_meters (hg : Meters.Gauge read worth) (c : Collaborators) (m : Metric)
    (h : Host) : read (normalize c m h).2.meters =
      read h.meters + if c.renames m then worth (.renamed m.destService) else 0 := by
  unfold normalize Collaborators.renames
  rcases c.rename m.destService m.endpoint with (_ | name) | e | message
  · rfl
  · exact hg.bump _ _
  · rfl
  · rfl

/-- Each source that is accepted is counted, whatever comes of the others. -/
theorem offer_meters (hs : Sink.Unmetered ℓ) (list : List Source) :
    ∀ (r : Receiver ℓ) (h : Host), ∃ calls, Offering list calls (offer list r h).1 ∧
      ∀ {read : Meters → Nat} {worth : Meter → Nat}, Meters.Gauge read worth →
        read (offer list r h).2.2.meters =
          read h.meters + Meters.sourcesWorth worth ((acceptedOf calls).map Source.kind) := by
  induction list with
  | nil => exact fun r h => ⟨[], .accepted [], fun _ => rfl⟩
  | cons source rest ih =>
    intro r h
    have hreceive := Receiver.receive_meters hs source r h
    rw [offer_cons]
    rcases hr : r.receive source h with ⟨o, r1, h1⟩
    rw [hr] at hreceive
    cases o with
    | failed e => exact ⟨_, .refused [] source rest e, fun _ => congrArg _ hreceive⟩
    | crashed message => exact ⟨_, .crashed [] source rest message, fun _ => congrArg _ hreceive⟩
    | done u =>
      simp only
      generalize hh2 : Host.tally _ (.sources source.kind) = h2
      obtain ⟨calls, hcalls, hcount⟩ := ih r1 h2
      refine ⟨_, hcalls.cons source, fun {read worth} hg => ?_⟩
      have hbump : read h2.meters = read h.meters + worth (.sources source.kind) := by
        rw [← hh2, ← hreceive]
        exact hg.bump _ _
      rw [hcount hg, hbump, Nat.add_assoc]
      rfl

theorem process_meters (hg : Meters.Gauge read worth) (hlatency : worth .latency = 0)
    (hs : Sink.Unmetered ℓ) (c : Collaborators) (m : Metric) (d : Dispatcher ℓ) (h : Host) :
    ∃ kinds, read (process c m d h).2.2.meters =
      read h.meters + (if c.renames m then worth (.renamed m.destService) else 0) +
        Meters.sourcesWorth worth kinds := by
  rcases process_cases c m d h with ⟨o, -, hprocess⟩ | ⟨bucket, list, hprocess⟩
  · refine ⟨[], ?_⟩
    rw [hprocess]
    exact (Timer.finish_meters hg hlatency _ _).trans (normalize_meters hg c m h)
  · obtain ⟨calls, -, hcount⟩ := offer_meters hs list d.receiver (normalize c m h).2
    refine ⟨(acceptedOf calls).map Source.kind, ?_⟩
    rw [hprocess, ← normalize_meters hg c m h, ← hcount hg]
    exact Timer.finish_meters hg hlatency _ _

end Meters

theorem offer_even (list : List Source) :
    ∀ {n : Nat} {r : Receiver ℓ} (h : Host), r.Even n →
      match offer list r h with
      | (.done kinds, r', _) => r'.Even (n + kinds.length)
      | (.failed _, r', _) => ∀ n', r'.Even n'
      | (.crashed _, _, _) => True := by
  induction list with
  | nil => exact fun _ hr => hr
  | cons source rest ih =>
    intro n r h hr
    have hnext := Receiver.receive_even hr source h
    rw [offer_cons]
    generalize r.receive source h = answer at hnext ⊢
    obtain ⟨o, r1, h1⟩ := answer
    cases o with
    | failed e => exact hnext
    | crashed message => trivial
    | done u =>
      have hrest := ih ((h1.log .trace .dispatcher "Source forwarded"
        [("kind", source.kind.name)]).tally (.sources source.kind)) hnext
      simp only
      generalize offer rest r1 _ = answer at hrest ⊢
      obtain ⟨o, r2, h2⟩ := answer
      cases o with
      | failed e => exact hrest
      | crashed message => trivial
      | done kinds =>
        have hlength : n + (source.kind :: kinds).length = n + 1 + kinds.length := by
          rw [List.length_cons]
          omega
        simp only [Outcome.map, hlength]
        exact hrest

/-- Each list that is not accepted is refused by one member. -/
theorem offer_refused (list : List Source) :
    ∀ {n : Nat} {r : Receiver ℓ} (h : Host), r.Refused n →
      match offer list r h with
      | (.done _, r', _) => r'.Refused n
      | (.failed _, r', _) => r'.Refused (n + 1)
      | (.crashed _, _, _) => True := by
  induction list with
  | nil => exact fun _ hr => hr
  | cons source rest ih =>
    intro n r h hr
    have hnext := Receiver.receive_refused hr source h
    rw [offer_cons]
    generalize r.receive source h = answer at hnext ⊢
    obtain ⟨o, r1, h1⟩ := answer
    cases o with
    | failed e => exact hnext
    | crashed message => trivial
    | done u =>
      have hrest := ih ((h1.log .trace .dispatcher "Source forwarded"
        [("kind", source.kind.name)]).tally (.sources source.kind)) hnext
      simp only
      generalize offer rest r1 _ = answer at hrest ⊢
      obtain ⟨o, r2, h2⟩ := answer
      cases o <;> exact hrest

/-- The members of a set accept the sources of a record that is dispatched; of one that fails they
get none, unless one of them has refused a source. -/
theorem process_even {n : Nat} {d : Dispatcher ℓ} (hd : d.receiver.Even n) (c : Collaborators)
    (m : Metric) (h : Host) :
    match process c m d h with
    | (.done dispatch, d', _) => d'.receiver.Even (n + dispatch.emitted.length)
    | (.failed _, d', _) => d'.receiver.Even n
    | (.crashed _, _, _) => True := by
  rcases process_cases c m d h with ⟨o, ho, hprocess⟩ | ⟨bucket, list, hprocess⟩
  · rw [hprocess]
    cases ho with
    | failed e => exact hd
    | crashed message => trivial
  · have hoffered := offer_even list (normalize c m h).2 hd
    rw [hprocess]
    generalize offer list d.receiver (normalize c m h).2 = answer at hoffered ⊢
    obtain ⟨o, r1, h1⟩ := answer
    cases o with
    | done kinds => exact hoffered
    | failed e => exact hoffered n
    | crashed message => trivial

end Dispatcher
end MeshTelemetry
