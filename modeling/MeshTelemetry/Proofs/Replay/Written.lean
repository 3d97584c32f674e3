import MeshTelemetry.Proofs.Fanout.Offering
import MeshTelemetry.Proofs.Naming.Adding
import MeshTelemetry.Proofs.Receiver.Opening
import MeshTelemetry.Proofs.Replay.Lines
import MeshTelemetry.Replay

/-!
# MeshTelemetry.Proofs.Replay.Written

What a replay leaves in the files of its receivers: what they held before, and behind it the lines
of the sources of each record, in order.

* `sourcesOf`: the sources of a record, given the names that endpoints get.
* `Replay.Writing`: the invariant between two lines; `Replay.takeLine_writing`: its step.
* `Replay.run_writes`: the run from any such state.
* `ReplaySettings.replay_writes`: the replay as a whole.
-/

namespace MeshTelemetry

/-- The sources of a record; `name?` is the name that an endpoint of a service gets. A record
outside the years that have time buckets has none. -/
def sourcesOf (name? : String → String → Option String) (m : Metric) : List Source :=
  match TimeBucket.ofMillis? m.startTime with
  | none => []
  | some bucket =>
    Fanout.canonical (m.withName (name? m.destService m.endpoint)) bucket
      (ServiceId.ofService m.sourceService .normal) (ServiceId.ofService m.destService .normal)

/-- The bytes that a list of records is written as. -/
def bytesOf (name? : String → String → Option String) (records : List Metric) : Bytes :=
  records.flatMap fun m => (sourcesOf name? m).flatMap Source.bytes

theorem bytesOf_eq (name? : String → String → Option String) (records : List Metric) :
    bytesOf name? records = (records.flatMap (sourcesOf name?)).flatMap Source.bytes :=
  List.flatMap_assoc.symm

theorem bytesOf_append (name? : String → String → Option String) (list list' : List Metric) :
    bytesOf name? (list ++ list') = bytesOf name? list ++ bytesOf name? list' :=
  List.flatMap_append

/-- The records that are dispatched if so many may be. -/
def upTo : Option Nat → List Metric → List Metric
  | none, records => records
  | some n, records => records.take n

theorem Timer.finish_store (t : Timer) (h : Host) : (t.finish h).2.store = h.store := by
  cases t <;> rfl

namespace Dispatcher

/-- A record outside the years that have time buckets fails before anything is offered. -/
theorem process_unbucketed (n : Naming) {m : Metric}
    (hbucket : TimeBucket.ofMillis? m.startTime = none) (d : Dispatcher Output) (h : Host) :
    let ended := d.timer.start.finish (normalize (.ofNaming n) m h).2
    process (.ofNaming n) m d h =
      (.failed (.collaborator (.timeBucket m.startTime)), ⟨d.receiver, ended.1⟩, ended.2) := by
  have hrename : (Collaborators.ofNaming n).rename m.destService m.endpoint =
      .done (n.rename? m.destService m.endpoint) := rfl
  have hn := normalize_done hrename h
  have hfail : (Collaborators.ofNaming n).bucket m.startTime =
      .failed (.timeBucket m.startTime) := by
    simp only [Collaborators.ofNaming, Collaborators.minuteBucket, hbucket]
  have hsources : sources (.ofNaming n) (m.withName (n.rename? m.destService m.endpoint)) =
      .failed (.timeBucket m.startTime) := by
    simp only [sources, Metric.withName, hfail]
  rw [process, normalizeAndDispatch, hn]
  simp only [dispatch, hsources]

/-- The sources of a record that has a time bucket are offered one after the other. -/
theorem process_offer (n : Naming) {m : Metric} {bucket : Int64}
    (hbucket : TimeBucket.ofMillis? m.startTime = some bucket) (d : Dispatcher Output) (h : Host) :
    let answer := offer (sourcesOf n.rename? m) d.receiver (normalize (.ofNaming n) m h).2
    let ended := d.timer.start.finish answer.2.2
    process (.ofNaming n) m d h =
      (answer.1.map (⟨bucket, ·, (n.rename? m.destService m.endpoint).isSome⟩),
        ⟨answer.2.1, ended.1⟩, ended.2) := by
  have hrename : (Collaborators.ofNaming n).rename m.destService m.endpoint =
      .done (n.rename? m.destService m.endpoint) := rfl
  have hdone : (Collaborators.ofNaming n).bucket m.startTime = .done bucket := by
    simp only [Collaborators.ofNaming, Collaborators.minuteBucket, hbucket]
  have hrun := normalizeAndDispatch_done hrename hdone (fun _ _ => rfl) (fun _ _ => rfl)
    d.receiver h
  have hsources : sourcesOf n.rename? m =
      Fanout.canonical (m.withName (n.rename? m.destService m.endpoint)) bucket
        (ServiceId.ofService m.sourceService .normal)
        (ServiceId.ofService m.destService .normal) := by
    rw [sourcesOf, hbucket]
  rw [hsources, process, hrun]

/-- A record is dispatched, or it fails as a whole; either way every file gets the lines of its
sources. -/
theorem process_writes {before : Location → Bytes} {bytes : Bytes} {locs : List Location}
    {members : Members Output} (n : Naming) (m : Metric) (name : String) (timer : Timer) {h : Host}
    (hm : Members.Holds h.store before bytes members locs) (hroom : h.store.shortages = []) :
    ∃ o members' timer' h', process (.ofNaming n) m ⟨.set name members, timer⟩ h =
        (o, ⟨.set name members', timer'⟩, h') ∧ (∀ message, o ≠ .crashed message) ∧
      Members.Holds h'.store before (bytes ++ (sourcesOf n.rename? m).flatMap Source.bytes)
        members' locs ∧
      h'.store.shortages = [] ∧ Store.AgreeOff locs h.store h'.store := by
  cases hbucket : TimeBucket.ofMillis? m.startTime with
  | none =>
    have hnone : sourcesOf n.rename? m = [] := by rw [sourcesOf, hbucket]
    have hstore : (timer.start.finish (normalize (.ofNaming n) m h).2).2.store = h.store := by
      rw [Timer.finish_store, normalize_store]
    refine ⟨_, members, _, _, process_unbucketed n hbucket ⟨.set name members, timer⟩ h,
      ?_, ?_, ?_, ?_⟩
    · intro message heq
      cases heq
    · rw [hstore, hnone]
      simpa using hm
    · rw [hstore]
      exact hroom
    · rw [hstore]
      exact fun _ _ => rfl
  | some bucket =>
    have hprocess := process_offer n hbucket ⟨.set name members, timer⟩ h
    rw [← normalize_store (.ofNaming n) m h] at hm hroom
    obtain ⟨members', h2, hoffer, hm', hroom', hoff⟩ :=
      offer_done name (sourcesOf n.rename? m) hm hroom
    rw [normalize_store] at hoff
    simp only [hoffer] at hprocess
    refine ⟨_, members', _, _, hprocess, ?_, ?_, ?_, ?_⟩
    · intro message heq
      cases heq
    · rwa [Timer.finish_store]
    · rwa [Timer.finish_store]
    · rwa [Timer.finish_store]

end Dispatcher

namespace Replay

variable {before : Location → Bytes} {locs : List Location}

/-- All files have got `bytes`, and there is room for more. -/
def Holds (before : Location → Bytes) (locs : List Location) (bytes : Bytes) (r : Replay) : Prop :=
  ∃ name members, r.dispatcher.receiver = .set name members ∧
    Members.Holds r.host.store before bytes members locs ∧ r.host.store.shortages = []

/-- The invariant between two lines: the text `rest` is still to be read, from no file that is
written to, and all files have got `bytes`. -/
structure Writing (before : Location → Bytes) (locs : List Location) (bytes : Bytes)
    (rest : List Char) (r : Replay) : Prop where
  unread : r.feed.unread r.host.store = .ok (Text.encode (String.ofList rest))
  apart : ∀ loc, r.feed.origin = some loc → loc ∉ locs
  holds : r.Holds before locs bytes

theorem Writing.congr {bytes : Bytes} {rest : List Char} {r r' : Replay}
    (h : r.Writing before locs bytes rest) (hfeed : r'.feed = r.feed)
    (hdispatcher : r'.dispatcher = r.dispatcher) (hstore : r'.host.store = r.host.store) :
    r'.Writing before locs bytes rest := by
  obtain ⟨hunread, hapart, hholds⟩ := h
  exact ⟨by rw [hfeed, hstore]; exact hunread, by rw [hfeed]; exact hapart,
    by rw [Holds, hdispatcher, hstore]; exact hholds⟩

theorem advance_lines (c : Collaborators) (limit : Option Nat) (isStopped : Nat → Bool)
    {r : Replay} {cs : List Char} (hstop : isStopped r.lines = false)
    (h : r.feed.unread r.host.store = .ok (Text.encode (String.ofList cs))) :
    (cs = [] ∧ ∃ feed, r.advance c limit isStopped = (.finished, { r with feed })) ∨
      ∃ line rest feed, r.advance c limit isStopped =
          ({ r with feed, lines := r.lines + 1 } : Replay).takeLine c limit (String.ofList line) ∧
        feed.origin = r.feed.origin ∧
        feed.unread r.host.store = .ok (Text.encode (String.ofList rest)) ∧
        rest.length < cs.length ∧ Text.linesOf cs = line :: Text.linesOf rest := by
  rcases Feed.nextLine_lines h with ⟨hnil, f', hf⟩ | ⟨line, rest, f', hf, horigin, hunread, hrest⟩
  · exact .inl ⟨hnil, f', by simp [advance, hstop, hf]⟩
  · have htext : Feed.textOf (Text.encode (String.ofList line)) = .ok (String.ofList line) := by
      rw [Feed.textOf, Text.decode?_eq_some.mpr rfl]
    exact .inr ⟨line, rest, f', by simp [advance, hstop, hf, htext], horigin, hunread, hrest⟩

theorem advance_text (c : Collaborators) (limit : Option Nat) (isStopped : Nat → Bool)
    {r : Replay} {cs : List Char} (hstop : isStopped r.lines = false)
    (h : r.feed.unread r.host.store = .ok (Text.encode (String.ofList cs))) :
    (cs = [] ∧ ∃ feed, r.advance c limit isStopped = (.finished, { r with feed })) ∨
      ∃ line rest feed, r.advance c limit isStopped =
          ({ r with feed, lines := r.lines + 1 } : Replay).takeLine c limit (String.ofList line) ∧
        feed.origin = r.feed.origin ∧
        feed.unread r.host.store = .ok (Text.encode (String.ofList rest)) ∧
        rest.length < cs.length ∧ recordsOf cs = (recordOf? line).toList ++ recordsOf rest := by
  rcases advance_lines c limit isStopped hstop h with
    hend | ⟨line, rest, feed, hadvance, horigin, hunread, hlt, hlines⟩
  · exact .inl hend
  · exact .inr ⟨line, rest, feed, hadvance, horigin, hunread, hlt, recordsOf_cons hlines⟩

theorem takeRecord_writing {bytes : Bytes} {rest : List Char} {r : Replay} (n : Naming) (m : Metric)
    (hw : r.Writing before locs bytes rest) :
    ∃ r', r.takeRecord (.ofNaming n) m = (.next, r') ∧
      r'.Writing before locs (bytes ++ bytesOf n.rename? [m]) rest ∧
      r'.progress.recordsRead = r.progress.recordsRead + 1 := by
  obtain ⟨hunread, hapart, name, members, hreceiver, hholds, hroom⟩ := hw
  obtain ⟨o, members', timer', h', hprocess, hcrash, hholds', hroom', hoff⟩ :=
    Dispatcher.process_writes n m name r.dispatcher.timer hholds hroom
  rw [← hreceiver] at hprocess
  let r1 : Replay :=
    { r with
      progress := { r.progress with recordsRead := r.progress.recordsRead + 1 }
      dispatcher := ⟨.set name members', timer'⟩
      host := h' }
  have hr1 : r1.Writing before locs (bytes ++ bytesOf n.rename? [m]) rest := by
    refine ⟨?_, hapart, name, members', rfl, by simpa [bytesOf] using hholds', hroom'⟩
    -- nothing was written to the input, which is still read as before
    have hsame : r.feed.unread h'.store = r.feed.unread r.host.store :=
      Feed.unread_congr fun loc hloc => by
        rw [Store.content, Store.content, hoff loc (hapart loc hloc)]
    exact hsame.trans hunread
  cases o with
  | done d =>
    exact ⟨r1.succeed m d, by simp only [takeRecord, hprocess, r1],
      hr1.congr rfl rfl rfl, rfl⟩
  | failed e =>
    exact ⟨r1.fail e, by simp only [takeRecord, hprocess, r1], hr1.congr rfl rfl rfl, rfl⟩
  | crashed message => exact absurd rfl (hcrash message)

/-- The step of the invariant: at the limit a line ends the replay, and below it every file gets
what the record of the line is written as, if it holds one. -/
theorem takeLine_writing {bytes : Bytes} {rest : List Char} {r : Replay} (n : Naming)
    (limit : Option Nat) (line : List Char) (hw : r.Writing before locs bytes rest) :
    (r.isAtLimit limit = true ∧ ∃ r', r.takeLine (.ofNaming n) limit (String.ofList line) =
        (.finished, r') ∧ r'.Writing before locs bytes rest) ∨
      r.isAtLimit limit = false ∧ ∃ r', r.takeLine (.ofNaming n) limit (String.ofList line) =
          (.next, r') ∧
        r'.Writing before locs (bytes ++ bytesOf n.rename? (recordOf? line).toList) rest ∧
        r'.progress.recordsRead = r.progress.recordsRead + (recordOf? line).toList.length := by
  rw [takeLine, String.toList_ofList]
  cases hlimit : r.isAtLimit limit with
  | true => exact .inl ⟨rfl, _, if_pos rfl, hw.congr rfl rfl rfl⟩
  | false =>
    refine .inr ⟨rfl, ?_⟩
    rw [if_neg (by nofun)]
    by_cases hblank : (Text.trim line).isEmpty
    · have hnone : recordOf? line = none := by rw [recordOf?, if_pos hblank]
      refine ⟨r, if_pos hblank, ?_, by rw [hnone]; rfl⟩
      rw [hnone]
      simpa [bytesOf] using hw
    · cases hdecode : Metric.decode (String.ofList (Text.trim line)) with
      | error e =>
        have hnone : recordOf? line = none := by
          rw [recordOf?, if_neg hblank, hdecode]
          rfl
        refine ⟨r.skip e, by simp only [hdecode, if_neg hblank], ?_, by rw [hnone]; rfl⟩
        rw [hnone]
        have hskip : (r.skip e).Writing before locs bytes rest := hw.congr rfl rfl rfl
        simpa [bytesOf] using hskip
      | ok m =>
        have hsome : recordOf? line = some m := by
          rw [recordOf?, if_neg hblank, hdecode]
          rfl
        obtain ⟨r', hr, hw', hread⟩ := takeRecord_writing n m hw
        refine ⟨r', by simp only [hdecode, if_neg hblank, hr], ?_, by rw [hsome]; exact hread⟩
        rw [hsome]
        exact hw'

theorem upTo_nil (limit : Option Nat) : upTo limit [] = [] := by
  cases limit <;> simp [upTo]

theorem isAtLimit_true {limit : Option Nat} {r : Replay} (h : r.isAtLimit limit = true) :
    ∃ n, limit = some n ∧ n ≤ r.progress.recordsRead := by
  cases limit with
  | none => cases h
  | some n => exact ⟨n, rfl, of_decide_eq_true h⟩

theorem isAtLimit_false {limit : Option Nat} {r : Replay} (h : r.isAtLimit limit = false) :
    ∀ n, limit = some n → r.progress.recordsRead < n := by
  rintro n rfl
  exact Nat.lt_of_not_le (of_decide_eq_false h)

theorem upTo_limit {limit : Option Nat} {read : Nat} (h : ∃ n, limit = some n ∧ n ≤ read)
    (records : List Metric) : upTo (limit.map (· - read)) records = [] := by
  obtain ⟨n, rfl, hle⟩ := h
  simp [upTo, Nat.sub_eq_zero_of_le hle]

theorem upTo_left {limit : Option Nat} {read : Nat} (new later : List Metric)
    (hlimit : ∀ n, limit = some n → read < n) (hnew : new.length ≤ 1) :
    upTo (limit.map (· - read)) (new ++ later) =
      new ++ upTo (limit.map (· - (read + new.length))) later := by
  cases limit with
  | none => rfl
  | some n =>
    have := hlimit n rfl
    simp only [Option.map_some, upTo, List.take_append, Nat.sub_sub]
    rw [List.take_of_length_le (by omega)]

/-- The run from any state with the invariant, by induction on the number of lines that may still be
read. -/
theorem run_writes (n : Naming) (limit : Option Nat) (fuel : Nat) :
    ∀ {bytes : Bytes} {rest : List Char} {r : Replay}, rest.length < fuel →
      r.Writing before locs bytes rest →
      ∃ r', r.run (.ofNaming n) limit (fun _ => false) fuel = (.finished, r') ∧
        r'.Holds before locs (bytes ++ bytesOf n.rename?
          (upTo (limit.map (· - r.progress.recordsRead)) (recordsOf rest))) := by
  induction fuel with
  | zero =>
    -- every line takes a character, so that there is always a round left
    exact fun hfuel => absurd hfuel (Nat.not_lt_zero _)
  | succ fuel ih =>
    intro bytes rest r hfuel hw
    rw [run]
    rcases advance_text (.ofNaming n) limit (fun _ => false) rfl hw.unread with
      ⟨rfl, feed, hadvance⟩ | ⟨line, rest', feed, hadvance, horigin, hunread, hlt, hrecords⟩
    · refine ⟨{ r with feed }, by rw [hadvance], ?_⟩
      rw [recordsOf_nil, upTo_nil, bytesOf, List.flatMap_nil, List.append_nil]
      exact hw.holds
    · have hw1 : ({ r with feed, lines := r.lines + 1 } : Replay).Writing before locs bytes rest' :=
        ⟨hunread, by rw [horigin]; exact hw.apart, hw.holds⟩
      rw [hadvance, hrecords]
      rcases takeLine_writing n limit line hw1 with ⟨hat, r', hr, hw'⟩ | ⟨hat, r', hr, hw', hread⟩
      · refine ⟨r', by rw [hr], ?_⟩
        rw [upTo_limit (isAtLimit_true hat), bytesOf, List.flatMap_nil, List.append_nil]
        exact hw'.holds
      · have hlength : (recordOf? line).toList.length ≤ 1 := by
          cases recordOf? line <;> simp
        obtain ⟨r'', hrun, hholds⟩ := ih (by omega) hw'
        refine ⟨r'', by rw [hr]; exact hrun, ?_⟩
        rw [upTo_left _ _ (isAtLimit_false hat) hlength, bytesOf_append, ← List.append_assoc]
        rw [hread] at hholds
        exact hholds

theorem finish_writes {start : Replay} {text : List Char} {fuel : Nat} (n : Naming)
    (limit : Option Nat) (hfuel : text.length < fuel)
    (hw : start.Writing before locs [] text) (hread : start.progress.recordsRead = 0) :
    ∃ report h', finish (start.run (.ofNaming n) limit (fun _ => false) fuel) =
        (.done report, h') ∧
      ∀ loc ∈ locs, h'.store.content loc =
        .ok (before loc ++ bytesOf n.rename? (upTo limit (recordsOf text))) := by
  obtain ⟨r, hrun, name, members, hreceiver, hholds, hroom⟩ := run_writes n limit fuel hfuel hw
  obtain ⟨members', h', hflush, hcontent, -, hclose⟩ := Members.flush_done members hholds hroom
  refine ⟨r.report (.set name members'), h', ?_, fun loc hloc => ?_⟩
  · simp only [hrun, finish, hreceiver, Receiver.flush, hflush, Receiver.close, hclose]
  · rw [hcontent loc hloc, hread]
    simp

end Replay
namespace ReplaySettings

/-- The input is a text, and is none of the files at `locs`. -/
def HasInput (s : ReplaySettings) (stdin : Bytes) (store : Store) (locs : List Location)
    (text : String) : Prop :=
  if s.input = "-" then Text.decode? stdin = some text
  else
    ∃ loc, store.openRead s.input = .ok loc ∧ loc ∉ locs ∧
      store.content loc = .ok (Text.encode text)

/-- What a replay of a text writes to each file. -/
def written (s : ReplaySettings) (text : String) : Bytes :=
  bytesOf (Config.nameOf? s.config.services) (upTo s.limit (recordsOf text.toList))

theorem openReceivers_store (s : ReplaySettings) (h : Host) :
    Store.Grown h.store (s.openReceivers h).2.store := by
  unfold openReceivers
  split
  · exact Output.openAll_store [Replay.fallback] _
  · exact Output.openAll_store _ h

theorem openReceivers_fresh {s : ReplaySettings} {h h1 : Host} {outputs : List Output}
    (ho : s.openReceivers h = (.ok outputs, h1)) : ∀ output ∈ outputs, output.Fresh := by
  unfold openReceivers at ho
  split at ho
  · exact Output.openAll_fresh [Replay.fallback] ho
  · exact Output.openAll_fresh _ ho

theorem openInput_done {s : ReplaySettings} {stdin : Bytes} {store : Store} {locs : List Location}
    {text : String} (h : s.HasInput stdin store locs text) :
    ∃ feed, s.openInput stdin store = .ok feed ∧ feed.unread store = .ok (Text.encode text) ∧
      ∀ loc, feed.origin = some loc → loc ∉ locs := by
  rw [HasInput] at h
  rw [openInput]
  by_cases hstdin : s.input = "-"
  · rw [if_pos hstdin] at h ⊢
    rw [Text.decode?_eq_some.mp h]
    exact ⟨_, rfl, Feed.unread_ofBytes _ _, nofun⟩
  · rw [if_neg hstdin] at h ⊢
    obtain ⟨loc, hloc, hapart, hcontent⟩ := h
    rw [hloc]
    refine ⟨.ofFile loc, rfl, by rw [Feed.unread_ofFile, hcontent], ?_⟩
    rintro _ ⟨⟩
    exact hapart

/-- A replay with the rules of a naming succeeds if there is room for everything, and leaves each
file with its bytes from before and the lines of the sources of all records behind them. -/
theorem replay_naming {s : ReplaySettings} {n : Naming} {stdin : Bytes} {h h1 : Host}
    {outputs : List Output} {text : String} (hn : Naming.ofServices s.config.services = .ok n)
    (hopen : s.openReceivers h = (.ok outputs, h1)) (hroom : h.store.shortages = [])
    (hdistinct : (Output.locations outputs).Nodup)
    (hfiles : ∀ loc ∈ Output.locations outputs, ∃ c, h1.store.node? loc = some (.file c))
    (hinput : s.HasInput stdin h1.store (Output.locations outputs) text) :
    ∃ report h', s.replay stdin (fun _ => false) h = (.done report, h') ∧
      ∀ loc ∈ Output.locations outputs, ∃ before, h.store.content loc = .ok before ∧
        h'.store.content loc =
          .ok (before ++ bytesOf n.rename? (upTo s.limit (recordsOf text.toList))) := by
  have hfresh := openReceivers_fresh hopen
  have hgrown := s.openReceivers_store h
  rw [hopen] at hgrown
  obtain ⟨feed, hfeed, hunread, hapart⟩ := openInput_done hinput
  let before : Location → Bytes := fun loc =>
    match h.store.content loc with
    | .ok bytes => bytes
    | .error _ => []
  have hbefore : ∀ loc ∈ Output.locations outputs, ∃ c,
      h1.store.node? loc = some (.file c) ∧ c.bytes = before loc := by
    intro loc hloc
    obtain ⟨c, hc⟩ := hfiles loc hloc
    exact ⟨c, hc, by simp only [before, hgrown.content hc]⟩
  let ready : Host := h1.log .info .replay "Dispatcher ready"
    [ ("receivers", toString outputs.length), ("naming_services", toString n.serviceCount),
      ("naming_rules", toString n.ruleCount) ]
  let start : Replay := ⟨feed, 0, .none, false, ⟨Output.setOf outputs, .metered⟩, ready⟩
  have hstart : start.Writing before (Output.locations outputs) [] text.toList :=
    ⟨by rw [String.ofList_toList]; exact hunread, hapart, "receivers", _, rfl,
      Members.holds_ofList hfresh hdistinct hbefore, hgrown.shortages.trans hroom⟩
  have hfuel : text.toList.length < Replay.lineBound feed ready.store := by
    have hremaining : feed.remaining ready.store = (Text.encode text).length :=
      Feed.remaining_of_unread hunread
    refine Nat.lt_of_le_of_lt ?_ (Nat.lt_add_of_pos_right (by decide))
    rw [hremaining]
    exact Text.length_le_encode text
  obtain ⟨report, h', hfinish, hcontent⟩ := Replay.finish_writes n s.limit hfuel hstart rfl
  have hreplay : s.replay stdin (fun _ => false) h = Replay.finish
      (start.run (.ofNaming n) s.limit (fun _ => false) (Replay.lineBound feed ready.store)) := by
    have hfeed' : s.openInput stdin ready.store = .ok feed := hfeed
    simp only [ready] at hfeed'
    simp only [replay, hopen, hn, hfeed', start, ready]
  refine ⟨report, h', hreplay.trans hfinish, fun loc hloc => ⟨before loc, ?_, hcontent loc hloc⟩⟩
  obtain ⟨c, hc, hbytes⟩ := hbefore loc hloc
  rw [hgrown.content hc, hbytes]

/-- A replay of a valid configuration succeeds if there is room for everything, and leaves each file
with its bytes from before and the lines of the sources of all records behind them. An endpoint gets
the name of the first rule that matches it as a whole, if the rules of its service are sound. -/
theorem replay_writes {s : ReplaySettings} {stdin : Bytes} {h h1 : Host} {outputs : List Output}
    {text : String} (hvalid : s.config.validate = .ok ())
    (hopen : s.openReceivers h = (.ok outputs, h1)) (hroom : h.store.shortages = [])
    (hdistinct : (Output.locations outputs).Nodup)
    (hfiles : ∀ loc ∈ Output.locations outputs, ∃ c, h1.store.node? loc = some (.file c))
    (hinput : s.HasInput stdin h1.store (Output.locations outputs) text) :
    (∃ report h', s.replay stdin (fun _ => false) h = (.done report, h') ∧
      ∀ loc ∈ Output.locations outputs, ∃ before, h.store.content loc = .ok before ∧
        h'.store.content loc = .ok (before ++ s.written text)) ∧
      ∀ service, (∀ r ∈ Config.rulesOf s.config.services service, r.Sound) → ∀ endpoint,
        Config.FirstNamed (·.Spans endpoint) (Config.rulesOf s.config.services service)
          (Config.nameOf? s.config.services service endpoint) := by
  have hcompiles := Config.validate_compiles hvalid
  obtain ⟨n, hn, hname⟩ := Naming.ofServices_done hcompiles
  have hnames : n.rename? = Config.nameOf? s.config.services := by
    funext service endpoint
    exact hname service endpoint
  refine ⟨?_, fun service hs endpoint => Config.nameOf?_spans hcompiles hs endpoint⟩
  rw [written, ← hnames]
  exact replay_naming hn hopen hroom hdistinct hfiles hinput

/-- Items of a shop have one name; two files get the same lines, and no more than two records are
read. -/
def shopSettings : ReplaySettings where
  config :=
    { version := .v1
      services := [⟨"shop", [⟨"item", "/items/[0-9]+"⟩]⟩]
      receivers :=
        [⟨"journal", .log, []⟩, ⟨"first", .file, [("path", "a.jsonl")]⟩,
          ⟨"second", .file, [("path", "out/b.jsonl")]⟩] }
  input := "-"
  limit := some 2

/-- A blank line, a call of an item, a line that is no record, a moment without a time bucket, and a
call that is not read. -/
def shopInput : String :=
  "\n[0,\"\",\"\",\"shop\",\"\",\"/items/7\",5,true,200,\"http\",\"server\"] \r\nnothing\n" ++
  "\x7b\"start_time\":9223372036854775807\x7d\n" ++
  "\x7b\"start_time\":0,\"source_service_name\":\"a\"\x7d"

def shopHost : Host :=
  .withStore ((Store.initial []).put ["a.jsonl"] (.file (.ofBytes (Text.encode "old\n"))))

def shopOutputs : List Output :=
  [.log "journal", .file ⟨"first", ["a.jsonl"], .empty⟩,
    .file ⟨"second", ["out", "b.jsonl"], .empty⟩]

/-- The sources of a call of the server of the shop. -/
def shopSources (endpoint : String) : List Source :=
  let call : Call := ⟨5, true, 200, .http⟩
  [ .all ⟨197001010000, "shop", "", endpoint, call⟩,
    .service ⟨197001010000, "shop", .normal, "", endpoint, call⟩,
    .serviceInstance ⟨197001010000, "", "shop", .normal, endpoint, call⟩,
    .endpoint ⟨197001010000, endpoint, "shop", .normal, "", call⟩ ]

theorem replay_writes_shop :
    shopSettings.config.validate = .ok () ∧
      (∃ h1, shopSettings.openReceivers shopHost = (.ok shopOutputs, h1) ∧
        (∀ loc ∈ Output.locations shopOutputs, ∃ c, h1.store.node? loc = some (.file c)) ∧
        shopSettings.HasInput (Text.encode shopInput) h1.store (Output.locations shopOutputs)
          shopInput) ∧
      (Output.locations shopOutputs).Nodup ∧
      (∃ report h', shopSettings.replay (Text.encode shopInput) (fun _ => false) shopHost =
          (.done report, h') ∧
        h'.store.content ["a.jsonl"] =
          .ok (Text.encode "old\n" ++ (shopSources "item").flatMap Source.bytes) ∧
        h'.store.content ["out", "b.jsonl"] =
          .ok ((shopSources "item").flatMap Source.bytes)) := by
  have hvalid : shopSettings.config.validate = .ok () := by decide +kernel
  have hopen : ∃ h1, shopSettings.openReceivers shopHost = (.ok shopOutputs, h1) ∧
      (∀ loc ∈ Output.locations shopOutputs, ∃ c, h1.store.node? loc = some (.file c)) ∧
      shopSettings.HasInput (Text.encode shopInput) h1.store (Output.locations shopOutputs)
        shopInput := by
    refine ⟨_, rfl, ?_, Text.decode?_eq_some.mpr rfl⟩
    intro loc hloc
    simp only [Output.locations, shopOutputs, List.filterMap, Output.location?, List.mem_cons,
      List.not_mem_nil, or_false] at hloc
    rcases hloc with rfl | rfl
    · exact ⟨_, rfl⟩
    · exact ⟨_, rfl⟩
  have hdistinct : (Output.locations shopOutputs).Nodup := by decide
  refine ⟨hvalid, hopen, hdistinct, ?_⟩
  obtain ⟨h1, hopen, hfiles, hinput⟩ := hopen
  obtain ⟨⟨report, h', hreplay, hcontent⟩, -⟩ :=
    replay_writes hvalid hopen rfl hdistinct hfiles hinput
  have hsources : (upTo (some 2) (recordsOf shopInput.toList)).flatMap
      (sourcesOf (Config.nameOf? shopSettings.config.services)) = shopSources "item" := by
    decide +kernel
  have hwritten : shopSettings.written shopInput = (shopSources "item").flatMap Source.bytes := by
    rw [← hsources, ← bytesOf_eq]
    rfl
  rw [hwritten] at hcontent
  refine ⟨report, h', hreplay, ?_, ?_⟩
  · obtain ⟨before, hbefore, hafter⟩ := hcontent ["a.jsonl"] (by decide)
    cases hbefore
    exact hafter
  · obtain ⟨before, hbefore, hafter⟩ := hcontent ["out", "b.jsonl"] (by decide)
    cases hbefore
    exact hafter

/-- The only rule closes a group that it never opened. -/
def looseSettings : ReplaySettings where
  config :=
    { version := .v1
      services := [⟨"shop", [⟨"ab", "a)|(?:b"⟩]⟩]
      receivers := [⟨"first", .file, [("path", "a.jsonl")]⟩] }
  input := "-"
  limit := none

def looseInput : String := "[0,\"\",\"\",\"shop\",\"\",\"ax\",5,true,200,\"http\",\"server\"]"

/-- No rule matches the endpoint as a whole, and still it gets the name of one. -/
theorem replay_writes_loose :
    looseSettings.config.validate = .ok () ∧
      (∀ r ∈ Config.rulesOf looseSettings.config.services "shop", ¬ r.Spans "ax") ∧
      ∃ report h', looseSettings.replay (Text.encode looseInput) (fun _ => false)
          (.withStore (.initial [])) = (.done report, h') ∧
        h'.store.content ["a.jsonl"] = .ok ((shopSources "ab").flatMap Source.bytes) := by
  have hvalid : looseSettings.config.validate = .ok () := by decide +kernel
  refine ⟨hvalid, ?_, ?_⟩
  · rintro r hr ⟨e, he, -⟩
    cases List.mem_singleton.mp hr
    have hopen : Regex.exprOf "a)|(?:b" = .error .groupUnopened := by decide +kernel
    rw [hopen] at he
    cases he
  · obtain ⟨n, hn, hname⟩ := Naming.ofServices_done (Config.validate_compiles hvalid)
    have hnames : n.rename? = Config.nameOf? looseSettings.config.services := by
      funext service endpoint
      exact hname service endpoint
    have hopen : looseSettings.openReceivers (.withStore (.initial [])) =
        (.ok [.file ⟨"first", ["a.jsonl"], .empty⟩],
          (looseSettings.openReceivers (.withStore (.initial []))).2) := rfl
    have hfiles : ∀ loc ∈ [["a.jsonl"]], ∃ c,
        (looseSettings.openReceivers (.withStore (.initial []))).2.store.node? loc =
          some (.file c) := by
      intro loc hloc
      cases List.mem_singleton.mp hloc
      exact ⟨_, rfl⟩
    have hinput : looseSettings.HasInput (Text.encode looseInput)
        (looseSettings.openReceivers (.withStore (.initial []))).2.store [["a.jsonl"]]
        looseInput := Text.decode?_eq_some.mpr rfl
    obtain ⟨report, h', hreplay, hcontent⟩ := replay_naming hn hopen rfl (by decide) hfiles hinput
    have hsources : (recordsOf looseInput.toList).flatMap
        (sourcesOf (Config.nameOf? looseSettings.config.services)) = shopSources "ab" := by
      decide +kernel
    refine ⟨report, h', hreplay, ?_⟩
    obtain ⟨before, hbefore, hafter⟩ := hcontent ["a.jsonl"] (by decide)
    have hall : upTo looseSettings.limit (recordsOf looseInput.toList) =
        recordsOf looseInput.toList := rfl
    cases hbefore
    rw [hall, hnames, bytesOf_eq, hsources] at hafter
    exact hafter

end ReplaySettings
end MeshTelemetry
