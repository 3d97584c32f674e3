import MeshTelemetry.Proofs.Dispatcher.Counting
import MeshTelemetry.Proofs.Replay.Tracking
import MeshTelemetry.Proofs.Stats.Counts

/-!
# MeshTelemetry.Proofs.Replay.Accounts

The counts of a replay agree with the lines that it has taken, and with each other. Every line that
is not blank is counted once, as a record or as malformed; every record is counted once, as
dispatched or as failed, by the summary and by the meters.

* `Progress.Accounts`: what the counts say of the lines; `Replay.accounts_tracks`: every line keeps
  it, with the counts of the receivers.
* `ReplaySettings.replay_accounts`: the report.
-/

namespace MeshTelemetry

def isBlankLine (line : List Char) : Bool := (Text.trim line).isEmpty

/-- The line is not blank, and holds no record. -/
def isMalformed (line : List Char) : Bool := !isBlankLine line && (recordOf? line).isNone

theorem nonblank_count (lines : List (List Char)) :
    (lines.filterMap recordOf?).length + lines.countP isMalformed =
      lines.countP (!isBlankLine ·) := by
  induction lines with
  | nil => rfl
  | cons line lines ih =>
    rw [filterMap_cons_length, List.countP_cons, List.countP_cons, ← ih]
    have hline : (recordOf? line).toList.length + (isMalformed line).toNat =
        (!isBlankLine line).toNat := by
      unfold isMalformed isBlankLine recordOf?
      by_cases hblank : (Text.trim line).isEmpty
      · simp [hblank]
      · cases hdecode : (Metric.decode (String.ofList (Text.trim line))).toOption <;>
          simp [hblank, hdecode]
    cases hm : isMalformed line <;> cases hb : isBlankLine line <;>
      simp only [hm, hb, Bool.not_true, Bool.not_false, Bool.toNat_true, Bool.toNat_false, if_true,
        if_false, Bool.false_eq_true] at hline ⊢ <;> omega

theorem leading_records (n : Nat) (lines : List (List Char)) :
    ((leading n lines).filterMap recordOf?).length ≤ n := by
  induction lines generalizing n with
  | nil => cases n <;> exact Nat.zero_le _
  | cons line rest ih =>
    cases n with
    | zero => exact Nat.le_refl 0
    | succ n =>
      rw [leading, filterMap_cons_length]
      cases recordOf? line with
      | none => simpa using ih (n + 1)
      | some m =>
        have hrest := ih n
        simp only [Option.isSome_some, if_true, Option.toList_some, List.length_singleton]
        omega

/-- Each line that is not blank is counted, as a record or as malformed. -/
structure Progress.Covers (lines : List (List Char)) (p : Progress) : Prop where
  read : p.recordsRead = (lines.filterMap recordOf?).length
  malformed : p.malformed = lines.countP isMalformed

/-- Each record is counted, as dispatched or as failed, and so it is on the meters; the latency of
each dispatched one is measured. -/
structure Progress.Balances (before now : Meters) (p : Progress) : Prop where
  settled : p.recordsRead = p.dispatched.processed + p.dispatched.failed
  succeeded : now.count (.records true) = before.count (.records true) + p.dispatched.processed
  failed : now.count (.records false) = before.count (.records false) + p.dispatched.failed
  measured : p.dispatched.latency.count = p.dispatched.processed

namespace Progress

variable {before now : Meters} {p : Progress}

/-- One more record, counted as such, and dispatched or failed. -/
theorem Balances.tally (hp : p.Balances before now) {success : Bool} {dispatched : Stats.Dispatched}
    (hprocessed : dispatched.processed = p.dispatched.processed + success.toNat)
    (hfailed : dispatched.failed = p.dispatched.failed + (!success).toNat)
    (hmeasured : dispatched.latency.count = p.dispatched.latency.count + success.toNat) :
    Balances before (now.bump (.records success)) ⟨p.recordsRead + 1, p.malformed, dispatched⟩ := by
  obtain ⟨hsettled, hsucceeds, hfails, hlatency⟩ := hp
  have hcount : ∀ counted, (now.bump (.records success)).count (.records counted) =
      now.count (.records counted) + (decide (success = counted)).toNat := by
    intro counted
    simpa using (Meters.gauge_count (.records counted)).bump (.records success) now
  refine ⟨?_, ?_, ?_, ?_⟩
  · simp only [hsettled, hprocessed, hfailed]
    cases success <;> simp <;> omega
  · rw [hcount, hsucceeds, hprocessed]
    cases success <;> simp [Nat.add_assoc]
  · rw [hcount, hfails, hfailed]
    cases success <;> simp [Nat.add_assoc]
  · simp only [hmeasured, hlatency, hprocessed]

end Progress

theorem Dispatcher.process_records (success : Bool) (c : Collaborators) (m : Metric)
    (d : Dispatcher Output) (h : Host) :
    (process c m d h).2.2.meters.count (.records success) = h.meters.count (.records success) := by
  obtain ⟨kinds, hcount⟩ :=
    process_meters (Meters.gauge_count (.records success)) rfl Output.unmetered c m d h
  rw [hcount, Meters.sourcesWorth_zero fun _ => rfl]
  simp

namespace Replay

/-- The invariant: the counts agree, and the receivers got the sources that are counted. -/
structure Accounted (before : Meters) (lines : List (List Char)) (r : Replay) : Prop where
  covers : r.progress.Covers lines
  balances : r.progress.Balances before r.host.meters
  even : r.dispatcher.receiver.Even r.progress.dispatched.totalSources

theorem accounts_tracks (c : Collaborators) (before : Meters) : Tracks c (Accounted before) where
  congr := by
    intro lines r r' hr hprogress hdispatcher hmeters _
    refine ⟨?_, ?_, ?_⟩
    · rw [hprogress]
      exact hr.covers
    · rw [hprogress, hmeters]
      exact hr.balances
    · rw [hprogress, hdispatcher]
      exact hr.even
  blank := by
    intro lines line r hr hblank hnone
    obtain ⟨hread, hmalformed⟩ := hr.covers
    refine ⟨⟨?_, ?_⟩, hr.balances, hr.even⟩
    · simpa [hnone] using hread
    · simpa [isMalformed, isBlankLine, hblank] using hmalformed
  skip := by
    intro lines line r e hr hblank hnone
    obtain ⟨hread, hmalformed⟩ := hr.covers
    have hbalances : (r.skip e).progress.Balances before r.host.meters :=
      ⟨hr.balances.settled, hr.balances.succeeded, hr.balances.failed, hr.balances.measured⟩
    refine ⟨⟨?_, ?_⟩, hbalances, hr.even⟩
    · have hskip : (r.skip e).progress.recordsRead = r.progress.recordsRead := rfl
      simpa [hnone, hskip] using hread
    · have hskip : (r.skip e).progress.malformed = r.progress.malformed + 1 := rfl
      simpa [isMalformed, isBlankLine, hblank, hnone, hskip] using hmalformed
  record := by
    intro lines line r r' m hr hblank hsome htake
    obtain ⟨hread, hmalformed⟩ := hr.covers
    have hread' : r.progress.recordsRead + 1 = ((lines ++ [line]).filterMap recordOf?).length := by
      simpa [hsome] using hread
    have hmalformed' : r.progress.malformed = (lines ++ [line]).countP isMalformed := by
      simpa [isMalformed, hsome] using hmalformed
    have hrecords := fun success => Dispatcher.process_records success c m r.dispatcher r.host
    have hoffered := Dispatcher.process_even hr.even c m r.host
    obtain ⟨dispatcher, host, ⟨d, hprocess, rfl⟩ | ⟨e, hprocess, rfl⟩⟩ := takeRecord_next htake
    · rw [hprocess] at hoffered
      rw [hprocess] at hrecords
      have hbalances : r.progress.Balances before host.meters :=
        ⟨hr.balances.settled, (hrecords true).trans hr.balances.succeeded,
          (hrecords false).trans hr.balances.failed, hr.balances.measured⟩
      refine ⟨⟨hread', hmalformed'⟩, hbalances.tally rfl rfl ?_, ?_⟩
      · exact Stats.Running.count_push _ _
      · have heven : dispatcher.receiver.Even (r.progress.dispatched.recordSuccess m.latency
            d.emitted d.renamed).totalSources := by
          rw [Stats.Dispatched.totalSources_success]
          exact hoffered
        exact heven
    · rw [hprocess] at hoffered
      rw [hprocess] at hrecords
      have hbalances : r.progress.Balances before host.meters :=
        ⟨hr.balances.settled, (hrecords true).trans hr.balances.succeeded,
          (hrecords false).trans hr.balances.failed, hr.balances.measured⟩
      exact ⟨⟨hread', hmalformed'⟩, hbalances.tally rfl rfl rfl, hoffered⟩

end Replay

theorem Members.tallies_ofList (receivers : List (Receiver Output)) :
    ∀ t ∈ (Members.ofList receivers).tallies, t.1 = 0 := by
  induction receivers with
  | nil => exact nofun
  | cons r receivers ih => exact List.forall_mem_cons.mpr ⟨rfl, ih⟩

/-- What was counted, as the report has it. -/
def ReplayReport.progress (report : ReplayReport) : Progress :=
  ⟨report.recordsRead, report.malformed, report.dispatched⟩

namespace ReplaySettings

variable {s : ReplaySettings} {stdin : Bytes} {isStopped : Nat → Bool} {h h' : Host}
  {report : ReplayReport} {text : String}

/-- The report of a replay of a text that no receiver writes to. The counts cover the lines of the
text up to the limit, or the first of them if the replay was interrupted. If no receiver has refused
a source, each has accepted all sources of the summary. -/
theorem replay_accounts
    (hinput : ∀ outputs h1, s.openReceivers h = (.ok outputs, h1) →
      s.HasInput stdin h1.store (Output.locations outputs) text)
    (hdone : s.replay stdin isStopped h = (.done report, h')) :
    ∃ lines, lines <+: frontOf s.limit (Text.linesOf text.toList) ∧
      (report.interrupted = false → lines = frontOf s.limit (Text.linesOf text.toList)) ∧
      report.progress.Covers lines ∧
      report.recordsRead + report.malformed = lines.countP (!isBlankLine ·) ∧
      report.progress.Balances h.meters h'.meters ∧
      (∀ n, s.limit = some n → report.recordsRead ≤ n) ∧
      ((∀ entry ∈ report.receivers, entry.2.2 = 0) →
        ∀ entry ∈ report.receivers, entry.2.1 = report.dispatched.totalSources) := by
  have hstart : ∀ (_ : Naming) feed outputs (ready : Host), ready.meters = h.meters →
      ready.store.shortages = h.store.shortages → Replay.Accounted h.meters []
        ⟨feed, 0, .none, false, ⟨Output.setOf outputs, .metered⟩, ready⟩ := by
    intro _ feed outputs ready hsame _
    refine ⟨⟨rfl, rfl⟩, ⟨rfl, by rw [hsame]; rfl, by rw [hsame]; rfl, rfl⟩, fun _ => ?_⟩
    exact Members.tallies_ofList _
  obtain ⟨n, lines, r, receiver, h2, -, ⟨hcovers, hbalances, heven⟩, hflush, rfl, rfl, hlines⟩ :=
    replay_tracks (fun n => Replay.accounts_tracks (.ofNaming n) h.meters) hstart hdone
  obtain ⟨hleads, hall⟩ := hlines text hinput
  have htallies : receiver.tallies = r.dispatcher.receiver.tallies := by
    have hflushed := r.dispatcher.receiver.flush_tallies r.host
    rwa [hflush] at hflushed
  refine ⟨lines, hleads, hall, ⟨hcovers.read, hcovers.malformed⟩, ?_, ?_, ?_, ?_⟩
  · rw [← nonblank_count, ← hcovers.read, ← hcovers.malformed]
    rfl
  · rw [Output.closed_meters hflush]
    exact ⟨hbalances.settled, hbalances.succeeded, hbalances.failed, hbalances.measured⟩
  · intro n hn
    have hread : (r.report receiver).recordsRead = (lines.filterMap recordOf?).length :=
      hcovers.read
    rw [hn] at hleads
    rw [hread]
    exact (hleads.sublist.filterMap recordOf?).length_le.trans (leading_records n _)
  · intro hnone
    have heven' : receiver.Even r.progress.dispatched.totalSources := by
      rw [Receiver.Even, htallies]
      exact heven
    exact List.forall_mem_map.mp (heven' (List.forall_mem_map.mpr hnone))

/-- No receiver is configured, so that sources go to the log; two records are read. -/
def logSettings : ReplaySettings where
  config := { version := .v1, services := [], receivers := [] }
  input := "-"
  limit := some 2

/-- Of the calls of the shop, one is dispatched and one has no time bucket; the last one is not
read. -/
theorem replay_accounts_log :
    let host : Host := .withStore (.initial [])
    (∀ outputs h1, logSettings.openReceivers host = (.ok outputs, h1) →
      logSettings.HasInput (Text.encode shopInput) h1.store (Output.locations outputs) shopInput) ∧
    ∃ report h', logSettings.replay (Text.encode shopInput) (fun _ => false) host =
        (.done report, h') ∧
      [report.recordsRead, report.malformed, report.dispatched.processed,
        report.dispatched.failed] = [2, 1, 1, 1] ∧
      report.progress.Covers (leading 2 (Text.linesOf shopInput.toList)) ∧
      report.progress.Balances [] h'.meters ∧ report.recordsRead ≤ 2 ∧
      (∀ entry ∈ report.receivers, entry.2.1 = report.dispatched.totalSources) := by
  intro host
  have hinput : ∀ outputs h1, logSettings.openReceivers host = (.ok outputs, h1) →
      logSettings.HasInput (Text.encode shopInput) h1.store (Output.locations outputs)
        shopInput := fun _ _ _ => Text.decode?_eq_some.mpr rfl
  have hfigures : (logSettings.replay (Text.encode shopInput) (fun _ => false) host).1.map
      (fun report => ([report.recordsRead, report.malformed, report.dispatched.processed,
        report.dispatched.failed], report.interrupted, report.receivers.map (·.2.2))) =
      .done ([2, 1, 1, 1], false, [0]) := by decide +kernel
  refine ⟨hinput, ?_⟩
  rcases hreplay : logSettings.replay (Text.encode shopInput) (fun _ => false) host with ⟨o, h'⟩
  rw [hreplay] at hfigures
  cases o with
  | failed e => cases hfigures
  | crashed message => cases hfigures
  | done report =>
    simp only [Outcome.map, Outcome.done.injEq, Prod.mk.injEq] at hfigures
    obtain ⟨hcounts, hgoing, hnone⟩ := hfigures
    obtain ⟨lines, -, hall, hcovers, -, hbalances, hlimit, heven⟩ :=
      replay_accounts hinput hreplay
    have hlines : lines = leading 2 (Text.linesOf shopInput.toList) := hall hgoing
    rw [hlines] at hcovers
    refine ⟨report, h', rfl, hcounts, hcovers, hbalances, hlimit 2 rfl, heven ?_⟩
    intro entry hentry
    have hzero : entry.2.2 ∈ report.receivers.map (·.2.2) := List.mem_map_of_mem hentry
    rw [hnone] at hzero
    exact List.mem_singleton.mp hzero

end ReplaySettings
end MeshTelemetry
