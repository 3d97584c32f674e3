import MeshTelemetry.Proofs.Receiver.Appending
import MeshTelemetry.Proofs.Replay.Steps
import MeshTelemetry.Proofs.Replay.Written
import MeshTelemetry.Proofs.Store.Extension

/-!
# MeshTelemetry.Proofs.Replay.Extension

What a replay leaves of the files that were there before, however it ends. It only ever appends to
them; and as long as it has read no line, it has only opened them.

* `Replay.run_moved`: a run that reads no line leaves receivers and store as they are.
* `Replay.finish_unread`: and then nothing is written at the end either.
* `ReplaySettings.opening`: what comes before the lines, and `ReplaySettings.replay_opening`.
* `ReplaySettings.replay_extends`: all files of the store; `ReplaySettings.replay_unread`: a replay
  that has read no line.
* `ReplaySettings.replay_preserves`: both.
-/

namespace MeshTelemetry

/-- A replay that failed like this did not begin to read lines. -/
def ReplayFault.isEarly : ReplayFault → Bool
  | .receivers _ => true
  | .naming _ => true
  | .noInput _ _ => true
  | .unreadable _ => false
  | .flush _ => false

namespace Replay

variable {c : Collaborators} {limit : Option Nat} {isStopped : Nat → Bool}

/-- From one state to another one lines may have been read; if none was, receivers and store are the
same. -/
def Moved (r r' : Replay) : Prop :=
  r.lines ≤ r'.lines ∧
    (r'.lines = r.lines → r'.dispatcher = r.dispatcher ∧ r'.host.store = r.host.store)

theorem Moved.trans {r r' r'' : Replay} (h : r.Moved r') (h' : r'.Moved r'') : r.Moved r'' := by
  obtain ⟨hle, hsame⟩ := h
  obtain ⟨hle', hsame'⟩ := h'
  refine ⟨hle.trans hle', fun heq => ?_⟩
  obtain ⟨hdispatcher, hstore⟩ := hsame (by omega)
  obtain ⟨hdispatcher', hstore'⟩ := hsame' (by omega)
  exact ⟨hdispatcher'.trans hdispatcher, hstore'.trans hstore⟩

theorem takeLine_lines (c : Collaborators) (limit : Option Nat) (text : String) (r : Replay) :
    (r.takeLine c limit text).2.lines = r.lines := by
  simp only [takeLine]
  split
  · rfl
  · split
    · rfl
    · split
      · rfl
      · exact (takeRecord_frame c _ r).2.1

theorem advance_moved (c : Collaborators) (limit : Option Nat) (isStopped : Nat → Bool)
    (r : Replay) : r.Moved (r.advance c limit isStopped).2 := by
  have hstay : ∀ feed interrupted events, r.Moved
      { r with feed, interrupted, host := { r.host with events } } :=
    fun _ _ _ => ⟨Nat.le_refl _, fun _ => ⟨rfl, rfl⟩⟩
  unfold advance
  split
  · exact hstay r.feed true _
  · split
    · exact hstay r.feed r.interrupted r.host.events
    · exact hstay _ r.interrupted r.host.events
    · next feed _ =>
      split
      · exact hstay feed r.interrupted r.host.events
      · next text _ =>
        have hlines := takeLine_lines c limit text { r with feed, lines := r.lines + 1 }
        simp only at hlines
        rw [Moved, hlines]
        exact ⟨Nat.le_succ _, fun heq => absurd heq (Nat.succ_ne_self _)⟩

/-- By induction on the number of lines that may still be read. -/
theorem run_moved (c : Collaborators) (limit : Option Nat) (isStopped : Nat → Bool) (fuel : Nat) :
    ∀ r : Replay, r.Moved (r.run c limit isStopped fuel).2 := by
  induction fuel with
  | zero => exact fun r => ⟨Nat.le_refl _, fun _ => ⟨rfl, rfl⟩⟩
  | succ fuel ih =>
    intro r
    have hstep := advance_moved c limit isStopped r
    rw [run]
    rcases hadvance : r.advance c limit isStopped with ⟨v, r1⟩
    rw [hadvance] at hstep
    cases v with
    | next => exact hstep.trans (ih r1)
    | finished => exact hstep
    | failed e => exact hstep
    | crashed message => exact hstep

end Replay

namespace Members

variable {outputs : List Output}

theorem flush_fresh (hfresh : ∀ output ∈ outputs, output.Fresh) : ∀ h : Host, ∃ h',
    (ofList (outputs.map .sink)).flush h = (.done (), ofList (outputs.map .sink), h') ∧
      h'.store = h.store := by
  induction outputs with
  | nil => exact fun h => ⟨h, rfl, rfl⟩
  | cons output outputs ih =>
    intro h
    rw [List.forall_mem_cons] at hfresh
    cases hfresh.1 with
    | log name =>
      obtain ⟨h', hflush, hstore⟩ := ih hfresh.2 h
      refine ⟨h', ?_, hstore⟩
      simp only [List.map_cons, ofList, Members.flush, Receiver.flush, Sink.flush, Output.flush,
        hflush]
    | file name location =>
      let h1 := h.log .debug .fileReceiver "FileReceiver flushed" [("receiver", name)]
      obtain ⟨h', hflush, hstore⟩ := ih hfresh.2 h1
      have hfirst : FileOutput.flush ⟨name, location, .empty⟩ h =
          (.done (), ⟨name, location, .empty⟩, h1) := rfl
      refine ⟨h', ?_, hstore⟩
      simp only [List.map_cons, ofList, Members.flush, Receiver.flush, Sink.flush, Output.flush,
        hfirst, hflush]

theorem close_fresh (hfresh : ∀ output ∈ outputs, output.Fresh) (h : Host) :
    (ofList (outputs.map .sink)).close h = h := by
  induction outputs with
  | nil => rfl
  | cons output outputs ih =>
    rw [List.forall_mem_cons] at hfresh
    cases hfresh.1 with
    | log name => exact ih hfresh.2
    | file name location => exact ih hfresh.2

end Members

/-- Whatever has ended a replay, nothing is written by receivers that were not used. -/
theorem Replay.finish_fresh {outputs : List Output} (hfresh : ∀ output ∈ outputs, output.Fresh)
    {ended : Verdict × Replay} (hreceiver : ended.2.dispatcher.receiver = Output.setOf outputs) :
    (finish ended).2.store = ended.2.host.store := by
  obtain ⟨v, r⟩ := ended
  simp only at hreceiver
  obtain ⟨h', hflush, hstore⟩ := Members.flush_fresh hfresh r.host
  have hclose : ∀ h : Host, (Output.setOf outputs).close h = h := Members.close_fresh hfresh
  have hflushed : (Output.setOf outputs).flush r.host = (.done (), Output.setOf outputs, h') := by
    simp only [Output.setOf, Receiver.flush, hflush]
  have hend : (finish (.finished, r)).2.store = r.host.store := by
    simp only [finish, hreceiver, hflushed, hclose]
    exact hstore
  cases v with
  | next => exact hend
  | finished => exact hend
  | failed e => simp only [finish, hreceiver, hclose]
  | crashed message => simp only [finish, hreceiver, hclose]

theorem Replay.finish_unread {outputs : List Output} (hfresh : ∀ output ∈ outputs, output.Fresh)
    {r : Replay} (hreceiver : r.dispatcher.receiver = Output.setOf outputs)
    {ended : Verdict × Replay} (hmoved : r.Moved ended.2) (hlines : ended.2.lines = r.lines) :
    (finish ended).2.store = r.host.store := by
  obtain ⟨hdispatcher, hstore⟩ := hmoved.2 hlines
  rw [← hdispatcher] at hreceiver
  rw [finish_fresh hfresh hreceiver, hstore]

/-- Once lines are read, a replay fails for reading them or for writing. -/
theorem Replay.finish_late {ended : Verdict × Replay} {e : ReplayFault}
    (hfailed : (finish ended).1 = .failed e) : e.isEarly = false := by
  unfold finish at hfailed
  split at hfailed
  · cases hfailed
    rfl
  · cases hfailed
  · split at hfailed <;> cases hfailed
    rfl

namespace ReplaySettings

/-- What comes before the lines: the rules, and the state in which lines are read; or what has gone
wrong, and the host then. -/
def opening (s : ReplaySettings) (stdin : Bytes) (h : Host) :
    Except (ReplayFault × Host) (Naming × Replay) :=
  match s.openReceivers h with
  | (.error e, h) => .error (.receivers e, h)
  | (.ok outputs, h) =>
    match Naming.ofServices s.config.services with
    | .error v => .error (.naming v, h)
    | .ok naming =>
      let h := h.log .info .replay "Dispatcher ready"
        [ ("receivers", toString outputs.length),
          ("naming_services", toString naming.serviceCount),
          ("naming_rules", toString naming.ruleCount) ]
      match s.openInput stdin h.store with
      | .error e => .error (.noInput s.input e, h)
      | .ok feed => .ok (naming, ⟨feed, 0, .none, false, ⟨Output.setOf outputs, .metered⟩, h⟩)

variable {s : ReplaySettings} {stdin : Bytes} {isStopped : Nat → Bool} {h h1 : Host}

/-- The lines are read from an opening that succeeds. -/
def reading (s : ReplaySettings) (isStopped : Nat → Bool) (n : Naming) (r : Replay) :
    Verdict × Replay :=
  r.run (.ofNaming n) s.limit isStopped (Replay.lineBound r.feed r.host.store)

theorem reading_moved (s : ReplaySettings) (isStopped : Nat → Bool) (n : Naming) (r : Replay) :
    r.Moved (s.reading isStopped n r).2 :=
  Replay.run_moved _ _ _ _ r

/-- What a replay comes to after an opening, if `read` reads the lines. -/
def concluded (read : Naming → Replay → Verdict × Replay) :
    Except (ReplayFault × Host) (Naming × Replay) → Outcome ReplayFault ReplayReport × Host
  | .error (e, h) => (.failed e, h)
  | .ok (n, r) => Replay.finish (read n r)

/-- How many lines are read after an opening. -/
def linesAfter (read : Naming → Replay → Verdict × Replay) :
    Except (ReplayFault × Host) (Naming × Replay) → Nat
  | .error _ => 0
  | .ok (n, r) => (read n r).2.lines

/-- How many lines a replay reads. -/
def linesRead (s : ReplaySettings) (stdin : Bytes) (isStopped : Nat → Bool) (h : Host) : Nat :=
  linesAfter (s.reading isStopped) (s.opening stdin h)

theorem replay_opening (s : ReplaySettings) (stdin : Bytes) (isStopped : Nat → Bool) (h : Host) :
    s.replay stdin isStopped h = concluded (s.reading isStopped) (s.opening stdin h) := by
  unfold replay opening
  rcases s.openReceivers h with ⟨_ | outputs, h1⟩
  · rfl
  · cases Naming.ofServices s.config.services with
    | error v => rfl
    | ok naming =>
      simp only
      cases s.openInput stdin _ with
      | error e => rfl
      | ok feed => simp only [concluded, reading]

theorem opening_error {e : ReplayFault} (ho : s.opening stdin h = .error (e, h1)) :
    e.isEarly = true ∧ h.store.Grown h1.store := by
  have hgrown := openReceivers_store s h
  unfold opening at ho
  split at ho
  · next hopen =>
    cases ho
    rw [hopen] at hgrown
    exact ⟨rfl, hgrown⟩
  · next hopen =>
    rw [hopen] at hgrown
    split at ho
    · cases ho
      exact ⟨rfl, hgrown⟩
    · simp only at ho
      split at ho <;> cases ho
      exact ⟨rfl, hgrown⟩

theorem opening_ok {n : Naming} {r : Replay} (ho : s.opening stdin h = .ok (n, r)) :
    r.lines = 0 ∧ h.store.Grown r.host.store ∧ ∃ outputs : List Output,
      (∀ output ∈ outputs, output.Fresh) ∧ r.dispatcher.receiver = Output.setOf outputs := by
  have hgrown := openReceivers_store s h
  unfold opening at ho
  split at ho
  · cases ho
  · next outputs h1 hopen =>
    rw [hopen] at hgrown
    split at ho
    · cases ho
    · simp only at ho
      split at ho <;> cases ho
      exact ⟨rfl, hgrown, outputs, openReceivers_fresh hopen, rfl⟩

/-- Nothing is lost in the store, whatever the outcome. -/
theorem replay_extends (s : ReplaySettings) (stdin : Bytes) (isStopped : Nat → Bool) (h : Host) :
    h.store.Extends (s.replay stdin isStopped h).2.store := by
  have hlasts : Store.Lasts (fun _ => True) h.store.Extends :=
    fun s loc bytes _ hextends => hextends.trans (Store.append_extends s loc bytes)
  have hgrown := openReceivers_store s h
  rcases hopen : s.openReceivers h with ⟨o, h1⟩
  rw [hopen] at hgrown
  cases o with
  | error e =>
    simp only [replay, hopen]
    exact hgrown.extends
  | ok outputs =>
    rcases replay_keeps (Output.keeps_store hlasts) stdin isStopped hopen hgrown.extends with
      hstore | ⟨receiver, h', hkept, hclosed⟩
    · rw [hstore]
      exact hgrown.extends
    · rw [hclosed]
      exact Receiver.close_lasting hlasts (Output.writesTo_any receiver) hkept

/-- A replay that has read no line has created directories and empty files at most. -/
theorem replay_unread (hlines : s.linesRead stdin isStopped h = 0) :
    h.store.Grown (s.replay stdin isStopped h).2.store := by
  rw [replay_opening]
  rw [linesRead] at hlines
  rcases ho : s.opening stdin h with ⟨e, h1⟩ | ⟨n, r⟩
  · exact (opening_error ho).2
  · obtain ⟨hzero, hgrown, outputs, hfresh, hreceiver⟩ := opening_ok ho
    rw [ho, linesAfter] at hlines
    have hstore := Replay.finish_unread hfresh hreceiver (s.reading_moved isStopped n r)
      (hlines.trans hzero.symm)
    rw [concluded, hstore]
    exact hgrown

theorem linesRead_early {e : ReplayFault} (hearly : e.isEarly = true)
    (hfailed : (s.replay stdin isStopped h).1 = .failed e) : s.linesRead stdin isStopped h = 0 := by
  rw [replay_opening] at hfailed
  rw [linesRead]
  rcases ho : s.opening stdin h with failure | ⟨n, r⟩
  · rfl
  · rw [ho, concluded] at hfailed
    rw [Replay.finish_late hfailed] at hearly
    cases hearly

/-- Whatever a replay comes to, a file that was there has kept its bytes, with more behind them at
most. A replay that has read no line, such as one that could not open a receiver, read a rule or
open its input, has changed nothing that was there: it has added directories and empty files. -/
theorem replay_preserves (s : ReplaySettings) (stdin : Bytes) (isStopped : Nat → Bool) (h : Host) :
    (∀ loc c, h.store.node? loc = some (.file c) →
      ∃ c', (s.replay stdin isStopped h).2.store.node? loc = some (.file c') ∧
        c.bytes <+: c'.bytes) ∧
      (∀ e, (s.replay stdin isStopped h).1 = .failed e →
        e.isEarly = true ∨ s.linesRead stdin isStopped h = 0 →
          h.store.Grown (s.replay stdin isStopped h).2.store) := by
  refine ⟨fun loc c hc => (replay_extends s stdin isStopped h).file hc, fun e hfailed hunread => ?_⟩
  rcases hunread with hearly | hlines
  · exact replay_unread (linesRead_early hearly hfailed)
  · exact replay_unread hlines

/-- The second receiver would write below the file of the first one. -/
def belowSettings : ReplaySettings where
  config :=
    { version := .v1
      services := []
      receivers :=
        [⟨"first", .file, [("path", "a.jsonl")]⟩, ⟨"below", .file, [("path", "a.jsonl/b")]⟩] }
  input := "-"
  limit := none

/-- The first receiver is open when the second one cannot be, and its file is as it was. -/
theorem replay_preserves_below :
    (∃ e, (belowSettings.replay [] (fun _ => false) shopHost).1 = .failed e ∧ e.isEarly = true) ∧
      shopHost.store.Grown (belowSettings.replay [] (fun _ => false) shopHost).2.store ∧
      ∃ c', (belowSettings.replay [] (fun _ => false) shopHost).2.store.node? ["a.jsonl"] =
          some (.file c') ∧ Text.encode "old\n" <+: c'.bytes := by
  have hfailed : ∃ e, (belowSettings.replay [] (fun _ => false) shopHost).1 = .failed e ∧
      e.isEarly = true := ⟨_, rfl, rfl⟩
  obtain ⟨hkept, hunread⟩ := replay_preserves belowSettings [] (fun _ => false) shopHost
  refine ⟨hfailed, ?_, hkept ["a.jsonl"] (.ofBytes (Text.encode "old\n")) rfl⟩
  obtain ⟨e, hfailed, hearly⟩ := hfailed
  exact hunread e hfailed (.inl hearly)

end ReplaySettings
end MeshTelemetry
