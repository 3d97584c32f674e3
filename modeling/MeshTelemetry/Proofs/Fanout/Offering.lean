import MeshTelemetry.Proofs.Fanout.Canonical

/-!
# MeshTelemetry.Proofs.Fanout.Offering

Which calls a receiver sees while a record is dispatched. A receiver is watched by a sink that
passes every call on and writes it down with its answer; nothing else changes.

* `Watched`: a receiver with the calls it has seen.
* `Offering`: the calls that offering a list of sources makes, and the outcome they lead to.
* `Dispatcher.process_offering`: the calls are those of the canonical list of the renamed record,
  for every receiver.
-/

namespace MeshTelemetry

/-- A call on a receiver with its answer. -/
abbrev ReceiveCall := Source × Outcome Fault Unit

/-- A receiver and the calls that it has seen, the first one first. -/
structure Watched (ℓ : Type) where
  receiver : Receiver ℓ
  calls : List ReceiveCall

namespace Watched

variable {ℓ : Type} [Sink ℓ]

def receive (w : Watched ℓ) (source : Source) (h : Host) : Step (Watched ℓ) :=
  match w.receiver.receive source h with
  | (o, receiver, h) => (o, ⟨receiver, w.calls ++ [(source, o)]⟩, h)

def flush (w : Watched ℓ) (h : Host) : Step (Watched ℓ) :=
  match w.receiver.flush h with
  | (o, receiver, h) => (o, ⟨receiver, w.calls⟩, h)

instance : Sink (Watched ℓ) :=
  ⟨fun w => w.receiver.name, receive, flush, fun w h => w.receiver.close h⟩

end Watched

/-- What comes of a call, with a function applied to the value. -/
def Outcome.map {ε α β : Type} (f : α → β) : Outcome ε α → Outcome ε β
  | .done value => .done (f value)
  | .failed cause => .failed cause
  | .crashed message => .crashed message

/-- The calls that offering the sources of a list makes, and what comes of them: either all are
accepted, or the first that is not ends the list of calls. -/
inductive Offering : List Source → List ReceiveCall → Outcome DispatchFault (List SourceKind) → Prop
  | accepted (list : List Source) :
      Offering list (list.map (·, .done ())) (.done (list.map Source.kind))
  | refused (before : List Source) (source : Source) (after : List Source) (cause : Fault) :
      Offering (before ++ source :: after)
        (before.map (·, .done ()) ++ [(source, .failed cause)])
        (.failed (.refused source.kind cause))
  | crashed (before : List Source) (source : Source) (after : List Source) (message : String) :
      Offering (before ++ source :: after)
        (before.map (·, .done ()) ++ [(source, .crashed message)]) (.crashed message)

theorem Offering.cons {list : List Source} {calls : List ReceiveCall}
    {o : Outcome DispatchFault (List SourceKind)} (source : Source) (h : Offering list calls o) :
    Offering (source :: list) ((source, .done ()) :: calls) (o.map (source.kind :: ·)) := by
  cases h with
  | accepted list => exact .accepted (source :: list)
  | refused before s after cause => exact .refused (source :: before) s after cause
  | crashed before s after message => exact .crashed (source :: before) s after message

namespace Dispatcher

variable {ℓ : Type} [Sink ℓ]

/-- The answer of the receiver to the first source decides how offering goes on. -/
theorem offer_cons (source : Source) (rest : List Source) (r : Receiver ℓ) (h : Host) :
    offer (source :: rest) r h =
      match r.receive source h with
      | (.failed e, r, h) => (.failed (.refused source.kind e), r, h)
      | (.crashed m, r, h) => (.crashed m, r, h)
      | (.done (), r, h) =>
        let h := h.log .trace .dispatcher "Source forwarded" [("kind", source.kind.name)]
        let answer := offer rest r (h.tally (.sources source.kind))
        (answer.1.map (source.kind :: ·), answer.2) := by
  rcases hr : r.receive source h with ⟨o, r', h'⟩
  cases o with
  | failed e => simp only [offer, hr]
  | crashed m => simp only [offer, hr]
  | done u =>
    simp only [offer, hr]
    generalize offer rest r' _ = answer
    rcases answer with ⟨o, r1, h1⟩
    cases o <;> rfl

/-- The invariant of offering, by induction on the sources that are left: the watched receiver
answers as the receiver itself does, and has seen the calls of an `Offering`. -/
theorem offer_watched (list : List Source) :
    ∀ (r : Receiver ℓ) (seen : List ReceiveCall) (h : Host),
      ∃ calls, Offering list calls (offer list r h).1 ∧
        offer list (.sink (⟨r, seen⟩ : Watched ℓ)) h =
          ((offer list r h).1, .sink ⟨(offer list r h).2.1, seen ++ calls⟩,
            (offer list r h).2.2) := by
  induction list with
  | nil => intro r seen h; exact ⟨[], .accepted [], by simp [offer]⟩
  | cons source rest ih =>
    intro r seen h
    rcases hr : r.receive source h with ⟨o, r', h'⟩
    have hw : (Receiver.sink (⟨r, seen⟩ : Watched ℓ)).receive source h =
        (o, .sink ⟨r', seen ++ [(source, o)]⟩, h') := by
      simp only [Receiver.receive, Sink.receive, Watched.receive, hr]
    rw [offer_cons, offer_cons, hr, hw]
    cases o with
    | failed e => exact ⟨[(source, .failed e)], .refused [] source rest e, rfl⟩
    | crashed m => exact ⟨[(source, .crashed m)], .crashed [] source rest m, rfl⟩
    | done u =>
      let h1 := (h'.log .trace .dispatcher "Source forwarded"
        [("kind", source.kind.name)]).tally (.sources source.kind)
      obtain ⟨calls, hcalls, heq⟩ := ih r' (seen ++ [(source, .done u)]) h1
      refine ⟨(source, .done u) :: calls, hcalls.cons source, ?_⟩
      simp only [h1] at heq
      simp [heq]

theorem normalizeAndDispatch_done {c : Collaborators} {m : Metric} {name? : Option String}
    {bucket : Int64} {sourceId destId : String}
    (hr : c.rename m.destService m.endpoint = .done name?)
    (hb : c.bucket m.startTime = .done bucket)
    (hs : m.sourceService ≠ "" → m.sourceInstance ≠ "" →
      c.identify m.sourceService .normal = .done sourceId)
    (hd : m.destService ≠ "" → m.destInstance ≠ "" →
      c.identify m.destService .normal = .done destId) (r : Receiver ℓ) (h : Host) :
    let answer :=
      offer (Fanout.canonical (m.withName name?) bucket sourceId destId) r (normalize c m h).2
    normalizeAndDispatch c m r h = (answer.1.map (⟨bucket, ·, name?.isSome⟩), answer.2) := by
  have hn := normalize_done hr h
  have hlist : sources c (m.withName name?) =
      .done (bucket, Fanout.canonical (m.withName name?) bucket sourceId destId) :=
    sources_eq_canonical hb hs hd
  rw [normalizeAndDispatch, hn]
  simp only [dispatch, hlist]
  generalize offer (Fanout.canonical (m.withName name?) bucket sourceId destId) r _ = answer
  obtain ⟨o, r', h1⟩ := answer
  cases o <;> rfl

/-- Every receiver is offered the canonical list of the renamed record, one call after the other,
up to the first source that it does not accept. -/
theorem process_offering {c : Collaborators} {m : Metric} {name? : Option String}
    {bucket : Int64} {sourceId destId : String}
    (hr : c.rename m.destService m.endpoint = .done name?)
    (hb : c.bucket m.startTime = .done bucket)
    (hs : m.sourceService ≠ "" → m.sourceInstance ≠ "" →
      c.identify m.sourceService .normal = .done sourceId)
    (hd : m.destService ≠ "" → m.destInstance ≠ "" →
      c.identify m.destService .normal = .done destId)
    (d : Dispatcher ℓ) (h : Host) :
    ∃ calls kinds,
      Offering (Fanout.canonical (m.withName name?) bucket sourceId destId) calls kinds ∧
      (process c m d h).1 = kinds.map (⟨bucket, ·, name?.isSome⟩) ∧
      process c m ⟨.sink (⟨d.receiver, []⟩ : Watched ℓ), d.timer⟩ h =
        ((process c m d h).1,
          ⟨.sink ⟨(process c m d h).2.1.receiver, calls⟩, (process c m d h).2.1.timer⟩,
          (process c m d h).2.2) := by
  have hrun := normalizeAndDispatch_done hr hb hs hd d.receiver h
  have hwatched := normalizeAndDispatch_done hr hb hs hd
    (.sink (⟨d.receiver, []⟩ : Watched ℓ)) h
  obtain ⟨calls, hcalls, hwatch⟩ :=
    offer_watched (Fanout.canonical (m.withName name?) bucket sourceId destId) d.receiver []
      (normalize c m h).2
  refine ⟨calls, _, hcalls, ?_, ?_⟩
  · simp only [process, hrun]
  · simp only [process, hrun, hwatched, hwatch, List.nil_append]

/-- A receiver that accepts so many sources and refuses the others. -/
structure Quota where
  left : Nat

instance : Sink Quota where
  name _ := "quota"
  receive
    | ⟨0⟩, _, h => (.failed (.other "full"), ⟨0⟩, h)
    | ⟨n + 1⟩, _, h => (.done (), ⟨n⟩, h)
  flush q h := (.done (), q, h)
  close _ h := h

/-- Endpoints of the catalog are renamed; services are their own identities. -/
def catalogRules : Collaborators where
  rename service _ := .done (if service = "catalog" then some "/items" else none)
  bucket _ := .done 202311142213
  identify service _ := .done service

def catalogCall : Metric where
  startTime := 1700000000000
  sourceService := "frontend"
  sourceInstance := "frontend-1"
  destService := "catalog"
  destInstance := "catalog-1"
  endpoint := "/items/7"
  latency := 12
  status := true
  responseCode := 200
  protocol := .http
  side := .server

/-- The third of the eight sources of this record is refused. -/
theorem process_offering_quota :
    catalogRules.rename "catalog" "/items/7" = .done (some "/items") ∧
    catalogRules.bucket 1700000000000 = .done 202311142213 ∧
    catalogRules.identify "frontend" .normal = .done "frontend" ∧
    catalogRules.identify "catalog" .normal = .done "catalog" ∧
    (Fanout.canonical (catalogCall.withName (some "/items")) 202311142213 "frontend"
      "catalog").length = 8 ∧
    ∃ calls kinds,
      Offering (Fanout.canonical (catalogCall.withName (some "/items")) 202311142213 "frontend"
        "catalog") calls kinds ∧
      (process catalogRules catalogCall ⟨.sink (⟨2⟩ : Quota), .metered⟩
          (.withStore (.initial []))).1 = kinds.map (⟨202311142213, ·, true⟩) ∧
      kinds = .failed (.refused .all (.other "full")) := by
  refine ⟨rfl, rfl, rfl, rfl, by decide, ?_⟩
  have hr : catalogRules.rename catalogCall.destService catalogCall.endpoint =
      .done (some "/items") := rfl
  have hb : catalogRules.bucket catalogCall.startTime = .done 202311142213 := rfl
  obtain ⟨calls, kinds, hcalls, hout, -⟩ :=
    process_offering hr hb (fun _ _ => rfl) (fun _ _ => rfl) ⟨.sink (⟨2⟩ : Quota), .metered⟩
      (.withStore (.initial []))
  refine ⟨calls, kinds, hcalls, hout, ?_⟩
  have hrun : (process catalogRules catalogCall ⟨.sink (⟨2⟩ : Quota), .metered⟩
      (.withStore (.initial []))).1 = .failed (.refused .all (.other "full")) := by decide
  rw [hrun] at hout
  cases kinds with
  | done kinds => cases hout
  | failed e => cases hout; rfl
  | crashed m => cases hout

end Dispatcher
end MeshTelemetry
