import MeshTelemetry.Proofs.Replay.Lines
import MeshTelemetry.Replay

/-!
# MeshTelemetry.Proofs.Replay.Steps

What each step of a replay can do.

* `Replay.takeLine_cases`: the text of a line; `Replay.takeRecord_next`: a record.
* `Replay.takeLine_frame`: what taking a line leaves alone.
* `Replay.finish_done`: a replay that ends with a report.
-/

namespace MeshTelemetry
namespace Replay

variable {c : Collaborators} {limit : Option Nat} {isStopped : Nat → Bool} {r r' : Replay}

/-- A line that is taken below the limit is blank, holds no record, or holds one. -/
theorem takeLine_cases (c : Collaborators) (line : List Char)
    (hlimit : r.isAtLimit limit = false) :
    ((Text.trim line).isEmpty ∧ recordOf? line = none ∧
        r.takeLine c limit (String.ofList line) = (.next, r)) ∨
      (∃ e, ¬ (Text.trim line).isEmpty ∧ recordOf? line = none ∧
        r.takeLine c limit (String.ofList line) = (.next, r.skip e)) ∨
      ∃ m, ¬ (Text.trim line).isEmpty ∧ recordOf? line = some m ∧
        r.takeLine c limit (String.ofList line) = r.takeRecord c m := by
  simp only [takeLine, hlimit, Bool.false_eq_true, if_false, String.toList_ofList, recordOf?]
  by_cases hblank : (Text.trim line).isEmpty
  · refine .inl ⟨hblank, if_pos hblank, if_pos hblank⟩
  · refine .inr ?_
    cases hdecode : Metric.decode (String.ofList (Text.trim line)) with
    | error e => exact .inl ⟨e, hblank, if_neg hblank, if_neg hblank⟩
    | ok m => exact .inr ⟨m, hblank, if_neg hblank, if_neg hblank⟩

/-- A record after which the replay goes on was dispatched, or it failed. -/
theorem takeRecord_next {m : Metric} (h : r.takeRecord c m = (.next, r')) :
    ∃ dispatcher host, let r1 : Replay :=
        { r with
          progress := { r.progress with recordsRead := r.progress.recordsRead + 1 }
          dispatcher
          host }
      (∃ d, r.dispatcher.process c m r.host = (.done d, dispatcher, host) ∧ r' = r1.succeed m d) ∨
        ∃ e, r.dispatcher.process c m r.host = (.failed e, dispatcher, host) ∧ r' = r1.fail e := by
  unfold takeRecord at h
  split at h
  · next d dispatcher host hprocess =>
    cases h
    exact ⟨dispatcher, host, .inl ⟨d, hprocess, rfl⟩⟩
  · next e dispatcher host hprocess =>
    cases h
    exact ⟨dispatcher, host, .inr ⟨e, hprocess, rfl⟩⟩
  · cases h

theorem takeRecord_frame (c : Collaborators) (m : Metric) (r : Replay) :
    (r.takeRecord c m).2.feed = r.feed ∧ (r.takeRecord c m).2.lines = r.lines ∧
      (r.takeRecord c m).2.progress.recordsRead = r.progress.recordsRead + 1 := by
  unfold takeRecord
  split <;> exact ⟨rfl, rfl, rfl⟩

theorem takeLine_frame (c : Collaborators) (line : List Char)
    (hlimit : r.isAtLimit limit = false) :
    let r1 := (r.takeLine c limit (String.ofList line)).2
    r1.feed = r.feed ∧ r1.lines = r.lines ∧
      r1.progress.recordsRead = r.progress.recordsRead + (recordOf? line).toList.length := by
  simp only [takeLine, hlimit, Bool.false_eq_true, if_false, String.toList_ofList, recordOf?]
  split
  · exact ⟨rfl, rfl, rfl⟩
  · cases Metric.decode (String.ofList (Text.trim line)) with
    | error e => exact ⟨rfl, rfl, rfl⟩
    | ok m => exact takeRecord_frame c m r

theorem takeRecord_ne_finished (c : Collaborators) (m : Metric) (r : Replay) :
    (r.takeRecord c m).1 ≠ .finished := by
  unfold takeRecord
  split <;> nofun

theorem isAtLimit_of_finished (line : List Char)
    (h : r.takeLine c limit (String.ofList line) = (.finished, r')) :
    r.isAtLimit limit = true := by
  cases hlimit : r.isAtLimit limit with
  | true => rfl
  | false =>
    rcases takeLine_cases c line hlimit with
      ⟨-, -, htake⟩ | ⟨e, -, -, htake⟩ | ⟨m, -, -, htake⟩
    · rw [htake] at h
      cases h
    · rw [htake] at h
      cases h
    · rw [htake] at h
      exact absurd (congrArg Prod.fst h) (takeRecord_ne_finished c m r)

theorem run_ne_next (c : Collaborators) (limit : Option Nat) (isStopped : Nat → Bool)
    (fuel : Nat) : ∀ r : Replay, (r.run c limit isStopped fuel).1 ≠ .next := by
  induction fuel with
  | zero => exact fun _ => nofun
  | succ fuel ih =>
    intro r
    rw [run]
    rcases r.advance c limit isStopped with ⟨v, r1⟩
    cases v with
    | next => exact ih r1
    | _ => nofun

theorem run_ended {v : Verdict} {s : Replay} (h : r.advance c limit isStopped = (v, s))
    (hv : v ≠ .next) (fuel : Nat) : r.run c limit isStopped (fuel + 1) = (v, s) := by
  rw [run, h]
  cases v with
  | next => exact absurd rfl hv
  | _ => rfl

/-- A replay that ends with a report has read its lines to their end and flushed the receivers. -/
theorem finish_done {ended : Verdict × Replay} {report : ReplayReport} {h' : Host}
    (h : finish ended = (.done report, h')) :
    (ended.1 = .next ∨ ended.1 = .finished) ∧ ∃ receiver h1,
      ended.2.dispatcher.receiver.flush ended.2.host = (.done (), receiver, h1) ∧
        report = ended.2.report receiver ∧ h' = receiver.close h1 := by
  obtain ⟨v, r⟩ := ended
  have hflushed : finish (.finished, r) = (.done report, h') → ∃ receiver h1,
      r.dispatcher.receiver.flush r.host = (.done (), receiver, h1) ∧
        report = r.report receiver ∧ h' = receiver.close h1 := by
    intro h
    simp only [finish] at h
    split at h
    · next receiver h1 hflush =>
      cases h
      exact ⟨receiver, h1, hflush, rfl, rfl⟩
    · cases h
    · cases h
  cases v with
  | next => exact ⟨.inl rfl, hflushed h⟩
  | finished => exact ⟨.inr rfl, hflushed h⟩
  | failed e => cases h
  | crashed message => cases h

end Replay
end MeshTelemetry
