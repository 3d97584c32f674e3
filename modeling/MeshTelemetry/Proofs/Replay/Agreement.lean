import MeshTelemetry.Proofs.Fanout.Offering
import MeshTelemetry.Proofs.Receiver.Agreement
import MeshTelemetry.Proofs.Replay.Steps

/-!
# MeshTelemetry.Proofs.Replay.Agreement

What a relation between hosts needs to be kept by replays on both of them. Where the sinks keep it,
dispatching a record does, and so does what a replay does with a record, with a line that is none,
and at its end.

* `Dispatcher.process_agree`: a record is dispatched on both hosts.
* `Replay.Alike`: two replays that are related; `Replay.takeLine_alike`: both take a line.
* `Replay.finish_alike`: replays that are related end with the same outcome.
-/

namespace MeshTelemetry

variable {ℓ : Type} [Sink ℓ] {R : Host → Host → Prop}

namespace Dispatcher

variable {p : ℓ → Prop}

theorem offer_agree (hR : Host.Similarity R) (hp : Sink.Respects R p) (list : List Source) :
    ∀ {r : Receiver ℓ} {h h' : Host}, r.All p → R h h' →
      Agree R (Receiver.All p) (offer list r h) (offer list r h') := by
  induction list with
  | nil => exact fun {r h h'} hall hh => ⟨.done [], r, h, h', rfl, rfl, hall, hh⟩
  | cons source rest ih =>
    intro r h h' hall hh
    obtain ⟨o, r1, h1, h1', hr, hr', hall1, hh1⟩ := Receiver.receive_agree hR hp source r hall hh
    rw [offer_cons, offer_cons, hr, hr']
    cases o with
    | failed e => exact ⟨_, r1, h1, h1', rfl, rfl, hall1, hh1⟩
    | crashed m => exact ⟨_, r1, h1, h1', rfl, rfl, hall1, hh1⟩
    | done u =>
      obtain ⟨o, r2, h2, h2', hr2, hr2', hall2, hh2⟩ :=
        ih hall1 (hR.tally (.sources source.kind)
          (hR.log .trace .dispatcher "Source forwarded" [("kind", source.kind.name)] hh1))
      refine ⟨o.map (source.kind :: ·), r2, h2, h2', ?_, ?_, hall2, hh2⟩
      · simp only [hr2]
      · simp only [hr2']

theorem normalize_agree (hR : Host.Similarity R) (c : Collaborators) (m : Metric) {h h' : Host}
    (hh : R h h') : ∃ o h1 h1', normalize c m h = (o, h1) ∧ normalize c m h' = (o, h1') ∧
      R h1 h1' := by
  unfold normalize
  cases c.rename m.destService m.endpoint with
  | failed e => exact ⟨_, h, h', rfl, rfl, hh⟩
  | crashed message => exact ⟨_, h, h', rfl, rfl, hh⟩
  | done name? =>
    cases name? with
    | none => exact ⟨_, h, h', rfl, rfl, hh⟩
    | some name => exact ⟨_, _, _, rfl, rfl, hR.tally _ (hR.log _ _ _ _ hh)⟩

theorem normalizeAndDispatch_agree (hR : Host.Similarity R) (hp : Sink.Respects R p)
    (c : Collaborators) (m : Metric) {r : Receiver ℓ} {h h' : Host} (hall : r.All p)
    (hh : R h h') : Agree R (Receiver.All p) (normalizeAndDispatch c m r h)
      (normalizeAndDispatch c m r h') := by
  obtain ⟨o, h1, h1', hn, hn', hh1⟩ := normalize_agree hR c m hh
  simp only [normalizeAndDispatch, hn, hn']
  cases o with
  | failed e => exact ⟨_, r, h1, h1', rfl, rfl, hall, hh1⟩
  | crashed message => exact ⟨_, r, h1, h1', rfl, rfl, hall, hh1⟩
  | done answer =>
    obtain ⟨m', renamed⟩ := answer
    simp only [dispatch]
    cases sources c m' with
    | failed e => exact ⟨_, r, h1, h1', rfl, rfl, hall, hh1⟩
    | crashed message => exact ⟨_, r, h1, h1', rfl, rfl, hall, hh1⟩
    | done answer =>
      obtain ⟨bucket, list⟩ := answer
      obtain ⟨o, r2, h2, h2', hr2, hr2', hall2, hh2⟩ := offer_agree hR hp list hall hh1
      simp only [hr2, hr2']
      cases o <;> exact ⟨_, r2, h2, h2', rfl, rfl, hall2, hh2⟩

theorem process_agree (hR : Host.Similarity R) (hp : Sink.Respects R p) (c : Collaborators)
    (m : Metric) {d : Dispatcher ℓ} {h h' : Host} (hall : d.receiver.All p) (hh : R h h') :
    Agree R (fun d => d.receiver.All p) (process c m d h) (process c m d h') := by
  obtain ⟨o, r1, h1, h1', hr, hr', hall1, hh1⟩ := normalizeAndDispatch_agree hR hp c m hall hh
  simp only [process, hr, hr']
  have htimer : ∀ t : Timer, ∃ t' h2 h2', t.finish h1 = (t', h2) ∧ t.finish h1' = (t', h2') ∧
      R h2 h2' := by
    intro t
    cases t with
    | counting started finished => exact ⟨_, h1, h1', rfl, rfl, hh1⟩
    | metered => exact ⟨_, _, _, rfl, rfl, hR.tally _ hh1⟩
  obtain ⟨timer, h2, h2', ht, ht', hh2⟩ := htimer d.timer.start
  exact ⟨o, ⟨r1, timer⟩, h2, h2', by rw [ht], by rw [ht'], hall1, hh2⟩

end Dispatcher

namespace Replay

variable {p : Output → Prop}

/-- Two replays that have come equally far, on hosts that are related. -/
structure Alike (R : Host → Host → Prop) (p : Output → Prop) (r r' : Replay) : Prop where
  progress : r'.progress = r.progress
  interrupted : r'.interrupted = r.interrupted
  dispatcher : r'.dispatcher = r.dispatcher
  all : r.dispatcher.receiver.All p
  hosts : R r.host r'.host

/-- What is logged about a line keeps hosts related, though its number be another one. -/
def Notes (R : Host → Host → Prop) (line line' : Nat) : Prop :=
  ∀ {h h' : Host} (level : Level) (message : String) (more : List (String × String)), R h h' →
    R (h.log level .replay message (("line", toString line) :: more))
      (h'.log level .replay message (("line", toString line') :: more))

theorem notes_self (hR : Host.Similarity R) (line : Nat) : Notes R line line :=
  fun level message more => hR.log level .replay message (("line", toString line) :: more)

variable {r r' : Replay}

theorem skip_alike (hnotes : Notes R r.lines r'.lines) (h : r.Alike R p r') (cause : DecodeError) :
    (r.skip cause).Alike R p (r'.skip cause) where
  progress := by simp only [skip, log, h.progress]
  interrupted := h.interrupted
  dispatcher := h.dispatcher
  all := h.all
  hosts := hnotes _ _ _ h.hosts

/-- A record is dispatched by both replays, with the same outcome. -/
theorem takeRecord_alike (hR : Host.Similarity R) (hp : Sink.Respects R p) (c : Collaborators)
    (m : Metric) (hnotes : Notes R r.lines r'.lines) (h : r.Alike R p r') :
    (r'.takeRecord c m).1 = (r.takeRecord c m).1 ∧
      (r.takeRecord c m).2.Alike R p (r'.takeRecord c m).2 := by
  obtain ⟨o, d, h1, h1', hd, hd', hall, hh⟩ := Dispatcher.process_agree hR hp c m h.all h.hosts
  rw [← h.dispatcher] at hd'
  simp only [takeRecord, hd, hd', h.progress]
  cases o with
  | done dispatch =>
    exact ⟨rfl, rfl, h.interrupted, rfl, hall, hR.tally _ (hnotes _ _ _ hh)⟩
  | failed e => exact ⟨rfl, rfl, h.interrupted, rfl, hall, hR.tally _ (hnotes _ _ _ hh)⟩
  | crashed message => exact ⟨rfl, rfl, h.interrupted, rfl, hall, hh⟩

theorem takeLine_alike (hR : Host.Similarity R) (hp : Sink.Respects R p) (c : Collaborators)
    (text : String) {limit limit' : Option Nat} (hlimit : r.isAtLimit limit = false)
    (hlimit' : r'.isAtLimit limit' = false) (hnotes : Notes R r.lines r'.lines)
    (h : r.Alike R p r') :
    (r'.takeLine c limit' text).1 = (r.takeLine c limit text).1 ∧
      (r.takeLine c limit text).2.Alike R p (r'.takeLine c limit' text).2 := by
  simp only [takeLine, hlimit, hlimit', Bool.false_eq_true, if_false]
  split
  · exact ⟨rfl, h⟩
  · cases Metric.decode (String.ofList (Text.trim text.toList)) with
    | error e => exact ⟨rfl, skip_alike hnotes h e⟩
    | ok m => exact takeRecord_alike hR hp c m hnotes h

theorem finish_alike (hR : Host.Similarity R) (hp : Sink.Respects R p) (v : Verdict)
    (h : r.Alike R p r') :
    (finish (v, r')).1 = (finish (v, r)).1 ∧ R (finish (v, r)).2 (finish (v, r')).2 := by
  have hclose := Receiver.close_agree hp r.dispatcher.receiver h.all h.hosts
  obtain ⟨o, receiver, h1, h1', hf, hf', hall, hh⟩ :=
    Receiver.flush_agree hR hp r.dispatcher.receiver h.all h.hosts
  have hclosed := Receiver.close_agree hp receiver hall hh
  rw [← h.dispatcher] at hf'
  have hreport : r'.report receiver = r.report receiver := by
    simp only [report, h.progress, h.interrupted]
  have hflushed : (finish (.finished, r')).1 = (finish (.finished, r)).1 ∧
      R (finish (.finished, r)).2 (finish (.finished, r')).2 := by
    simp only [finish, hf, hf']
    cases o with
    | done u => exact ⟨congrArg Outcome.done hreport, hclosed⟩
    | failed e => exact ⟨rfl, hclosed⟩
    | crashed message => exact ⟨rfl, hclosed⟩
  cases v with
  | next => exact hflushed
  | finished => exact hflushed
  | failed e =>
    refine ⟨rfl, ?_⟩
    simp only [finish, h.dispatcher]
    exact hclose
  | crashed message =>
    refine ⟨rfl, ?_⟩
    simp only [finish, h.dispatcher]
    exact hclose

end Replay
end MeshTelemetry
