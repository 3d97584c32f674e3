import MeshTelemetry.Dispatcher.Thread
import MeshTelemetry.Proofs.Receiver.Deliveries

/-!
# MeshTelemetry.Proofs.Dispatcher.Alone

A thread that no other one interrupts does what a call on the dispatcher does, and settles the
record with the outcome of the call.

* `Thread.Steps`: steps of one thread that no other one interrupts.
* `Thread.offer_steps`: the sources of a record are offered.
* `Thread.process_steps`: a record as a whole is `Dispatcher.process`.
-/

namespace MeshTelemetry

variable {ℓ : Type} [Sink ℓ]

theorem Delivery.Steps.of_ended {d d' : Delivery} {s s' : Shared ℓ} {o : Outcome Fault Unit}
    (h : Delivery.Steps d s d' s') (hd : d.stage = .ending o) : d' = d ∧ s' = s := by
  induction h with
  | refl => exact ⟨rfl, rfl⟩
  | @cons d _ s _ _ ih =>
    have hstay : d.step s = (d, s) := by
      cases o <;> simp only [Delivery.step, hd, Delivery.Stage.ending]
    rw [hstay] at ih
    exact ih hd

namespace Thread

/-- Steps of one thread that no other one interrupts. -/
inductive Steps (c : Collaborators) : Thread → Common ℓ → Thread → Common ℓ → Prop
  | refl (t : Thread) (s : Common ℓ) : Steps c t s t s
  | cons {t t' : Thread} {s s' : Common ℓ} :
      Steps c (t.step c s).1 (t.step c s).2 t' s' → Steps c t s t' s'

variable {c : Collaborators}

theorem Steps.trans {t t' t'' : Thread} {s s' s'' : Common ℓ} (h : Steps c t s t' s')
    (h' : Steps c t' s' t'' s'') : Steps c t s t'' s'' := by
  induction h with
  | refl => exact h'
  | cons _ ih => exact .cons (ih h')

/-- The steps of a delivery are steps of the thread, up to the end of the delivery. -/
theorem delivery_steps (waiting : List Metric) (m : Metric) (d : Dispatch) (left : List Source)
    (summary : Stats.Dispatched) (timer : Timer) {delivery delivery' : Delivery}
    {s s' : Shared ℓ} {o : Outcome Fault Unit} (h : Delivery.Steps delivery s delivery' s')
    (hended : delivery'.stage = .ending o) :
    Steps c ⟨waiting, .delivering m d delivery left, summary⟩ ⟨s, timer⟩
      ⟨waiting, .delivering m d delivery' left, summary⟩ ⟨s', timer⟩ := by
  induction h with
  | refl => exact .refl _ _
  | @cons delivery _ s _ hrest ih =>
    cases hstage : delivery.stage with
    | returned answer =>
      obtain ⟨rfl, rfl⟩ := (Delivery.Steps.cons hrest).of_ended
        (o := match answer with | .ok () => .done () | .error e => .failed e)
        (by cases answer <;> exact hstage)
      exact .refl _ _
    | crashed message =>
      obtain ⟨rfl, rfl⟩ := (Delivery.Steps.cons hrest).of_ended (o := .crashed message) hstage
      exact .refl _ _
    | _ =>
      refine .cons ?_
      simp only [step, Activity.deliver, hstage]
      exact ih hended

/-- What is left of a dispatch is what offering the sources that are left does. -/
theorem offer_steps (waiting : List Metric) (m : Metric) (summary : Stats.Dispatched)
    (timer : Timer) (name : String) (left : List Source) :
    ∀ (d : Dispatch) (members : Members ℓ) (h : Host), ∃ o members' h',
      Dispatcher.offer left (.set name members) h = (o, .set name members', h') ∧
      Steps c ⟨waiting, .dispatching m d left, summary⟩ ⟨⟨members.toList, h⟩, timer⟩
        ⟨waiting, .settling m (o.map fun kinds => { d with emitted := d.emitted ++ kinds }),
          summary⟩ ⟨⟨members'.toList, h'⟩, timer⟩ := by
  induction left with
  | nil =>
    intro d members h
    refine ⟨.done [], members, h, rfl, .cons ?_⟩
    simp only [step, Outcome.map, List.append_nil]
    exact .refl _ _
  | cons source left ih =>
    intro d members h
    obtain ⟨passed, hdelivery⟩ := Delivery.receive_steps source members [] h
    simp only [List.length_nil, List.nil_append] at hdelivery
    rcases hr : members.receive source h with ⟨o, members', h'⟩
    rw [hr] at hdelivery
    have hbegin : Steps c ⟨waiting, .dispatching m d (source :: left), summary⟩
        ⟨⟨members.toList, h⟩, timer⟩
        ⟨waiting, .delivering m d ⟨source, passed, .ending o⟩ left, summary⟩
        ⟨⟨members'.toList, h'⟩, timer⟩ :=
      .cons (delivery_steps waiting m d left summary timer hdelivery rfl)
    simp only [Dispatcher.offer_cons, Receiver.receive, hr]
    cases o with
    | failed e =>
      refine ⟨_, members', h', rfl, hbegin.trans (.cons ?_)⟩
      exact .refl _ _
    | crashed message =>
      refine ⟨_, members', h', rfl, hbegin.trans (.cons ?_)⟩
      exact .refl _ _
    | done u =>
      obtain ⟨o, members2, h2, hoffer, hsteps⟩ :=
        ih { d with emitted := d.emitted ++ [source.kind] } members'
          ((h'.log .trace .dispatcher "Source forwarded" [("kind", source.kind.name)]).tally
            (.sources source.kind))
      refine ⟨o.map (source.kind :: ·), members2, h2, by simp only [hoffer],
        hbegin.trans (.cons ?_)⟩
      simp only [step, Activity.deliver, Activity.forward, Delivery.Stage.ending]
      cases o with
      | done kinds =>
        simpa only [Outcome.map, List.append_assoc, List.singleton_append] using hsteps
      | failed e => exact hsteps
      | crashed message => exact hsteps

/-- A thread that no other one interrupts processes a record as the dispatcher does, and then
settles it with what has come of it. -/
theorem process_steps (c : Collaborators) (m : Metric) (waiting : List Metric)
    (summary : Stats.Dispatched) (name : String) (members : Members ℓ) (timer : Timer) (h : Host) :
    ∃ o members' timer' h',
      Dispatcher.process c m ⟨.set name members, timer⟩ h =
        (o, ⟨.set name members', timer'⟩, h') ∧
      Steps c ⟨m :: waiting, .idle, summary⟩ ⟨⟨members.toList, h⟩, timer⟩
        (settle ⟨waiting, .idle, summary⟩ m o) ⟨⟨members'.toList, h'⟩, timer'⟩ := by
  have hend : ∀ (o : Outcome DispatchFault Dispatch) (members' : Members ℓ) (h' : Host),
      Steps c ⟨waiting, .settling m o, summary⟩ ⟨⟨members'.toList, h'⟩, timer.start⟩
        (settle ⟨waiting, .idle, summary⟩ m o)
        ⟨⟨members'.toList, (timer.start.finish h').2⟩, (timer.start.finish h').1⟩ := by
    intro o members' h'
    refine .cons ?_
    cases o <;> exact .refl _ _
  simp only [Dispatcher.process, Dispatcher.normalizeAndDispatch]
  rcases hn : Dispatcher.normalize c m h with ⟨o, h1⟩
  cases o with
  | failed e =>
    refine ⟨_, members, _, _, rfl, .cons ?_⟩
    simp only [step, Activity.ofRecord, hn]
    exact hend _ members h1
  | crashed message =>
    refine ⟨_, members, _, _, rfl, .cons ?_⟩
    simp only [step, Activity.ofRecord, hn]
    exact hend _ members h1
  | done answer =>
    obtain ⟨m', renamed⟩ := answer
    cases hs : Dispatcher.sources c m' with
    | failed e =>
      simp only [Dispatcher.dispatch, hs]
      refine ⟨_, members, _, _, rfl, .cons ?_⟩
      simp only [step, Activity.ofRecord, hn, hs]
      exact hend _ members h1
    | crashed message =>
      simp only [Dispatcher.dispatch, hs]
      refine ⟨_, members, _, _, rfl, .cons ?_⟩
      simp only [step, Activity.ofRecord, hn, hs]
      exact hend _ members h1
    | done answer =>
      obtain ⟨bucket, list⟩ := answer
      obtain ⟨o, members2, h2, hoffer, hsteps⟩ :=
        offer_steps (c := c) waiting m summary timer.start name list ⟨bucket, [], renamed⟩ members h1
      refine ⟨o.map fun kinds => ⟨bucket, kinds, renamed⟩, members2, (timer.start.finish h2).1,
        (timer.start.finish h2).2, ?_, .cons ?_⟩
      · simp only [Dispatcher.dispatch, hs, hoffer]
        cases o <;> rfl
      · simp only [step, Activity.ofRecord, hn, hs]
        exact hsteps.trans (hend _ members2 h2)

end Thread
end MeshTelemetry
