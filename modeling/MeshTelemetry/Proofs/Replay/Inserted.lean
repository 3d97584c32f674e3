import MeshTelemetry.Proofs.Replay.Accounts
import MeshTelemetry.Proofs.Replay.Input
import MeshTelemetry.Proofs.Source.Lines

/-!
# MeshTelemetry.Proofs.Replay.Inserted

One more line in the input of a replay, which holds no record. If it is text, the replay counts it
and goes on as it would without it. If not, the replay fails when it comes to it.

* `Store.withLine`: the input with one more line.
* `Replay.run_addMalformed`: nothing depends on the number of malformed lines.
* `Replay.run_front`: the lines in front of it; `Replay.advance_malformed`,
  `Replay.advance_unreadable`: the line itself; `Replay.Abreast.skip`: where this leads to.
* `Replay.finish_malformed`, `Replay.finish_unreadable`: the replays from that line on.
* `ReplaySettings.replay_withLine`: the replays as a whole.
-/

namespace MeshTelemetry

namespace Feed

theorem linesOf_cutLine (bytes : Bytes) :
    Store.linesOf bytes =
      match cutLine bytes with
      | none => if bytes.isEmpty then [] else [bytes]
      | some (line, rest) => line :: Store.linesOf rest := by
  simp only [Store.linesOf]
  induction bytes with
  | nil => rfl
  | cons b bytes ih =>
    rw [cutLine_cons]
    by_cases hb : b = lineBreak
    · simp [Text.linesBy, hb]
    · simp only [Text.linesBy, if_neg hb, ih]
      cases cutLine bytes with
      | none => cases bytes <;> simp
      | some cut => simp

theorem exists_firstLine {bytes : Bytes} (h : Store.linesOf bytes ≠ []) :
    ∃ line rest, firstLine bytes = some (line, rest) ∧
      Store.linesOf bytes = line :: Store.linesOf rest := by
  rw [linesOf_cutLine] at h ⊢
  rw [firstLine]
  cases hcut : cutLine bytes with
  | some cut => exact ⟨cut.1, cut.2, rfl, rfl⟩
  | none =>
    rw [hcut] at h
    by_cases hempty : bytes.isEmpty
    · exact absurd (if_pos hempty) h
    · exact ⟨bytes, [], if_neg hempty, if_neg hempty⟩

theorem firstLine_line {line : Bytes} (h : lineBreak ∉ line) (rest : Bytes) :
    firstLine (line ++ lineBreak :: rest) = some (line ++ [lineBreak], rest) := by
  rw [firstLine, cutLine_unbroken h, cutLine_cons, if_pos rfl]
  rfl

theorem textOf_line {line : Bytes} {text : String} (h : Text.decode? line = some text) :
    textOf (line ++ [lineBreak]) = .ok (text ++ "\n") := by
  have hbytes : line ++ [lineBreak] = Text.encode (text ++ "\n") := by
    rw [Text.encode_append, Text.decode?_eq_some.mp h]
    rfl
  rw [textOf, Text.decode?_eq_some.mpr hbytes]

theorem textOf_bytes {line : Bytes} (hline : lineBreak ∉ line) (h : Text.decode? line = none) :
    ∃ cause, textOf (line ++ [lineBreak]) = .error cause := by
  have hnone : Text.decode? (line ++ [lineBreak]) = none := by
    rw [Option.eq_none_iff_forall_ne_some]
    intro text htext
    -- the text would be cut at its line break as its bytes are, and what is in front were text
    obtain ⟨cs, rfl⟩ := text.exists_eq_ofList
    have hcut := cutLine_encode cs
    rw [← Text.decode?_eq_some.mp htext, cutLine_unbroken hline, cutLine_cons, if_pos rfl] at hcut
    obtain ⟨⟨before, behind⟩, -, heq⟩ := Option.map_eq_some_iff.mp hcut.symm
    have hbefore : line ++ [lineBreak] = Text.encode (String.ofList before) ++ [lineBreak] := by
      have hfirst : Text.encode (String.ofList (before ++ ['\n'])) = line ++ [lineBreak] :=
        congrArg Prod.fst heq
      rw [← hfirst, Text.encode_ofList, Text.encode_ofList, List.flatMap_append]
      rfl
    rw [Text.decode?_eq_some.mpr (List.append_cancel_right hbefore)] at h
    cases h
  rw [textOf, hnone]
  cases Text.Utf8.fault? (line ++ [lineBreak]) with
  | none => exact ⟨_, rfl⟩
  | some fault => exact ⟨_, rfl⟩

end Feed

namespace Store

/-- The content with one more line in front of the one with this index. -/
def withLine (content : Bytes) (index : Nat) (line : Bytes) : Bytes :=
  ((linesOf content).insertIdx index (line ++ [Feed.lineBreak])).flatten

theorem withLine_zero (content line : Bytes) :
    withLine content 0 line = line ++ Feed.lineBreak :: content := by
  rw [withLine, List.insertIdx_zero, List.flatten_cons, Text.linesBy_flatten, List.append_assoc,
    List.singleton_append]

theorem withLine_succ {content first rest : Bytes}
    (h : linesOf content = first :: linesOf rest) (index : Nat) (line : Bytes) :
    withLine content (index + 1) line = first ++ withLine rest index line := by
  rw [withLine, h, List.insertIdx_succ_cons, List.flatten_cons]
  rfl

end Store

/-- One more line was malformed. -/
def Progress.addMalformed (p : Progress) : Progress := { p with malformed := p.malformed + 1 }

def ReplayReport.addMalformed (report : ReplayReport) : ReplayReport :=
  { report with malformed := report.malformed + 1 }

/-- The hosts differ in what the input file holds, and in what was logged of the replay itself. -/
abbrev Host.SameButReplay (d : Difference) : Host → Host → Prop :=
  Host.Alike (·.component ≠ .replay) d

theorem Host.SameButReplay.notes {d : Difference} (line line' : Nat) :
    Replay.Notes (Host.SameButReplay d) line line' :=
  fun _ _ _ hh => (hh.log_left rfl).log_right rfl

namespace Replay

variable {matters : Event → Bool} {d : Difference} {c : Collaborators}
  {isStopped isStopped' : Nat → Bool} {n : Nat} {line rest bytes : Bytes} {r r' : Replay}

def addMalformed (r : Replay) : Replay := { r with progress := r.progress.addMalformed }

theorem takeRecord_addMalformed (c : Collaborators) (m : Metric) (r : Replay) :
    r.addMalformed.takeRecord c m = (r.takeRecord c m).map id addMalformed := by
  have hprocess : r.addMalformed.dispatcher.process c m r.addMalformed.host =
      r.dispatcher.process c m r.host := rfl
  rw [takeRecord, takeRecord, hprocess]
  rcases r.dispatcher.process c m r.host with ⟨o, dispatcher, host⟩
  cases o <;> rfl

theorem takeLine_addMalformed (c : Collaborators) (limit : Option Nat) (text : String)
    (r : Replay) :
    r.addMalformed.takeLine c limit text = (r.takeLine c limit text).map id addMalformed := by
  have hlimit : r.addMalformed.isAtLimit limit = r.isAtLimit limit := by cases limit <;> rfl
  simp only [takeLine, hlimit]
  split
  · rfl
  · split
    · rfl
    · cases Metric.decode (String.ofList (Text.trim text.toList)) with
      | error e => rfl
      | ok m => exact takeRecord_addMalformed c m r

theorem advance_addMalformed (c : Collaborators) (limit : Option Nat) (isStopped : Nat → Bool)
    (r : Replay) :
    r.addMalformed.advance c limit isStopped =
      (r.advance c limit isStopped).map id addMalformed := by
  have hnext : r.addMalformed.feed.nextLine r.addMalformed.host.store =
      r.feed.nextLine r.host.store := rfl
  have hlines : r.addMalformed.lines = r.lines := rfl
  rw [advance, advance, hnext, hlines]
  split
  · rfl
  · rcases r.feed.nextLine r.host.store with e | ⟨line?, feed⟩
    · rfl
    · cases line? with
      | none => rfl
      | some line =>
        simp only
        cases Feed.textOf line with
        | error e => rfl
        | ok text => exact takeLine_addMalformed c limit text { r with feed, lines := r.lines + 1 }

theorem run_addMalformed (c : Collaborators) (limit : Option Nat) (isStopped : Nat → Bool)
    (fuel : Nat) (r : Replay) :
    r.addMalformed.run c limit isStopped fuel =
      (r.run c limit isStopped fuel).map id addMalformed := by
  induction fuel generalizing r with
  | zero => rfl
  | succ fuel ih =>
    rw [run, run, advance_addMalformed]
    rcases r.advance c limit isStopped with ⟨v, s⟩
    cases v with
    | next => exact ih s
    | _ => rfl

theorem finish_addMalformed (ended : Verdict × Replay) :
    finish (ended.map id addMalformed) =
      (finish ended).map (Outcome.map ReplayReport.addMalformed) id := by
  obtain ⟨v, r⟩ := ended
  have hflushed : finish (.finished, r.addMalformed) =
      (finish (.finished, r)).map (Outcome.map ReplayReport.addMalformed) id := by
    have hflush : r.addMalformed.dispatcher.receiver.flush r.addMalformed.host =
        r.dispatcher.receiver.flush r.host := rfl
    simp only [finish, hflush]
    rcases r.dispatcher.receiver.flush r.host with ⟨o, receiver, h⟩
    cases o <;> rfl
  cases v with
  | next => exact hflushed
  | finished => exact hflushed
  | failed e => rfl
  | crashed message => rfl

/-- Both replays read the lines in front of the one that is put in, unless they end there in the
same way and with a fault. By induction on these lines. -/
theorem run_front (hnotes : ∀ n n', Notes (Host.Alike matters d) n n') (line : Bytes) (i : Nat) :
    ∀ {n fuel fuel' : Nat} {bytes : Bytes} {r r' : Replay}, i < (Store.linesOf bytes).length →
      bytes.length < fuel → (Store.withLine bytes i line).length < fuel' →
      (∀ k < i, isStopped (n + k) = false) → (∀ k < i, isStopped' (n + k) = false) →
      r.Abreast matters d n n bytes (Store.withLine bytes i line) r' →
      (∃ (v : Verdict) (s s' : Replay), v ≠ .next ∧ v ≠ .finished ∧
        r.run c none isStopped fuel = (v, s) ∧ r'.run c none isStopped' fuel' = (v, s') ∧
        s.Alike (Host.Alike matters d) (Output.WritesTo d.Spares) s') ∨
      ∃ (rest : Bytes) (s s' : Replay) (left left' : Nat), rest.length < left ∧
        (line ++ Feed.lineBreak :: rest).length < left' ∧
        s.Abreast matters d (n + i) (n + i) rest (line ++ Feed.lineBreak :: rest) s' ∧
        r.run c none isStopped fuel = s.run c none isStopped left ∧
        r'.run c none isStopped' fuel' = s'.run c none isStopped' left' := by
  induction i with
  | zero =>
    intro n fuel fuel' bytes r r' _ hfuel hfuel' _ _ h
    rw [Store.withLine_zero] at hfuel' h
    exact .inr ⟨bytes, r, r', fuel, fuel', hfuel, hfuel', h, rfl, rfl⟩
  | succ i ih =>
    intro n fuel fuel' bytes r r' hi hfuel hfuel' hgoing hgoing' h
    obtain ⟨first, rest, hfirst, hlines⟩ :=
      Feed.exists_firstLine (List.ne_nil_of_length_pos (Nat.zero_lt_of_lt hi))
    rw [hlines, List.length_cons, Nat.add_lt_add_iff_right] at hi
    have hrest : rest ≠ [] := by
      rintro rfl
      exact absurd hi (Nat.not_lt_zero i)
    have hfirst' : Feed.firstLine (Store.withLine bytes (i + 1) line) =
        some (first, Store.withLine rest i line) := by
      rw [Store.withLine_succ hlines]
      exact Feed.firstLine_behind hfirst hrest _
    have hrun : isStopped n = false := hgoing 0 (Nat.succ_pos i)
    have hrun' : isStopped' n = false := hgoing' 0 (Nat.succ_pos i)
    have hstride := h.advance (c := c) hnotes (hrun'.trans hrun.symm) (by rw [hfirst, hfirst']; rfl)
    obtain ⟨fuel, rfl⟩ := Nat.exists_eq_add_one_of_ne_zero (Nat.ne_zero_of_lt hfuel)
    obtain ⟨fuel', rfl⟩ := Nat.exists_eq_add_one_of_ne_zero (Nat.ne_zero_of_lt hfuel')
    have hlt := Feed.firstLine_length hfirst
    have hlt' := Feed.firstLine_length hfirst'
    generalize ha : r.advance c none isStopped = a at hstride
    generalize ha' : r'.advance c none isStopped' = a' at hstride
    cases hstride with
    | ended v hv hend halike =>
      refine .inl ⟨v, _, _, hv, fun hfinished => ?_, run_ended ha hv fuel, run_ended ha' hv fuel',
        halike⟩
      rcases hend hfinished with hstopped | hnone
      · rw [hrun] at hstopped
        cases hstopped
      · rw [hfirst] at hnone
        cases hnone
    | next hread hread' hnext =>
      cases hfirst.symm.trans hread
      cases hfirst'.symm.trans hread'
      rw [run, run, ha, ha', Nat.add_comm i, ← Nat.add_assoc]
      refine ih hi (by omega) (by omega) (fun k hk => ?_) (fun k hk => ?_) hnext
      · rw [Nat.add_assoc]
        exact hgoing (1 + k) (by omega)
      · rw [Nat.add_assoc]
        exact hgoing' (1 + k) (by omega)

theorem advance_malformed {text : String} (hline : Feed.lineBreak ∉ line)
    (htext : Text.decode? line = some text) (hbad : isMalformed text.toList)
    (hstop : isStopped r.lines = false)
    (hunread : r.feed.unread r.host.store = .ok (line ++ Feed.lineBreak :: rest)) :
    ∃ feed e, feed.origin = r.feed.origin ∧ feed.unread r.host.store = .ok rest ∧
      r.advance c none isStopped =
        (.next, ({ r with feed, lines := r.lines + 1 } : Replay).skip e) := by
  rcases advance_unread c none hstop hunread with
    ⟨hnone, -⟩ | ⟨_, _, feed, hfirst, horigin, hrest, hadvance⟩
  · rw [Feed.firstLine_line hline] at hnone
    cases hnone
  · rw [Feed.firstLine_line hline] at hfirst
    cases hfirst
    rw [Feed.textOf_line htext] at hadvance
    have hbroken : text ++ "\n" = String.ofList (text.toList ++ ['\n']) := by
      rw [String.ofList_append, String.ofList_toList]
    have hread : ({ r with feed, lines := r.lines + 1 } : Replay).isAtLimit none = false := rfl
    simp only [isMalformed, isBlankLine, Bool.and_eq_true, Bool.not_eq_true',
      Option.isNone_iff_eq_none] at hbad
    simp only [hbroken] at hadvance
    rcases takeLine_cases c (text.toList ++ ['\n']) hread with
      ⟨hblank, -⟩ | ⟨e, -, -, hskip⟩ | ⟨m, -, hsome, -⟩
    · rw [Text.trim_lineBreak, hbad.1] at hblank
      cases hblank
    · exact ⟨feed, e, horigin, hrest, hadvance.trans hskip⟩
    · rw [recordOf?_lineBreak, hbad.2] at hsome
      cases hsome

theorem advance_unreadable (hline : Feed.lineBreak ∉ line) (hbytes : Text.decode? line = none)
    (hstop : isStopped r.lines = false)
    (hunread : r.feed.unread r.host.store = .ok (line ++ Feed.lineBreak :: rest)) :
    ∃ cause s, r.advance c none isStopped = (.failed cause, s) := by
  rcases advance_unread c none hstop hunread with
    ⟨hnone, -⟩ | ⟨_, _, feed, hfirst, -, -, hadvance⟩
  · rw [Feed.firstLine_line hline] at hnone
    cases hnone
  · rw [Feed.firstLine_line hline] at hfirst
    cases hfirst
    obtain ⟨cause, hcause⟩ := Feed.textOf_bytes hline hbytes
    rw [hcause] at hadvance
    exact ⟨cause, _, hadvance⟩

/-- Behind the line that one of them skipped, both have the same before them. -/
theorem Abreast.skip {n' : Nat} {bytes' : Bytes} {feed : Feed}
    (h : r.Abreast (·.component ≠ .replay) d n n' rest bytes' r')
    (horigin : feed.origin = r'.feed.origin) (hunread : feed.unread r'.host.store = .ok rest)
    (e : DecodeError) :
    r.addMalformed.Abreast (·.component ≠ .replay) d n (n' + 1) rest rest
      (({ r' with feed, lines := r'.lines + 1 } : Replay).skip e) where
  alike :=
    { progress := congrArg Progress.addMalformed h.alike.progress
      interrupted := h.alike.interrupted
      dispatcher := h.alike.dispatcher
      all := h.alike.all
      hosts := h.alike.hosts.log_right rfl }
  lines := h.lines
  lines' := congrArg (· + 1) h.lines'
  unread := h.unread
  unread' := hunread
  origin := h.origin
  origin' := h.origin'.congr horigin

/-- From the line that one of them has before it: if it is text, that replay ends with one more
malformed line, and in the same way otherwise. -/
theorem finish_malformed {text : String} {fuel fuel' : Nat} (hline : Feed.lineBreak ∉ line)
    (htext : Text.decode? line = some text) (hbad : isMalformed text.toList)
    (h : r.Abreast (·.component ≠ .replay) d n n rest (line ++ Feed.lineBreak :: rest) r')
    (hfuel : rest.length < fuel) (hfuel' : (line ++ Feed.lineBreak :: rest).length < fuel')
    (hstop : isStopped' n = false) (hbehind : ∀ k, isStopped' (n + 1 + k) = isStopped (n + k)) :
    let ended := finish (r.run c none isStopped fuel)
    let ended' := finish (r'.run c none isStopped' fuel')
    ended'.1 = ended.1.map ReplayReport.addMalformed ∧ Host.SameButReplay d ended.2 ended'.2 := by
  obtain ⟨fuel', rfl⟩ := Nat.exists_eq_add_one_of_ne_zero (Nat.ne_zero_of_lt hfuel')
  have hgoing : isStopped' r'.lines = false := by rw [h.lines', hstop]
  obtain ⟨feed, e, horigin, hunread, hadvance⟩ :=
    advance_malformed (c := c) hline htext hbad hgoing h.unread'
  have hfuel'' : rest.length < fuel' := by
    simp only [List.length_append, List.length_cons] at hfuel'
    omega
  obtain ⟨v, s, s', hrun, hrun', halike⟩ :=
    run_abreast (c := c) Host.SameButReplay.notes fuel hfuel hfuel'' hbehind
      (h.skip horigin hunread e)
  have hended := finish_alike Host.Alike.similarity Host.Alike.respects v halike
  rw [← hrun, run_addMalformed, finish_addMalformed] at hended
  rw [run, hadvance]
  simp only [hrun']
  exact hended

theorem finish_unreadable {fuel' : Nat} (hline : Feed.lineBreak ∉ line)
    (hbytes : Text.decode? line = none)
    (h : r.Abreast matters d n n rest (line ++ Feed.lineBreak :: rest) r')
    (hfuel' : (line ++ Feed.lineBreak :: rest).length < fuel') (hstop : isStopped' n = false) :
    ∃ cause, (finish (r'.run c none isStopped' fuel')).1 = .failed (.unreadable cause) := by
  obtain ⟨fuel', rfl⟩ := Nat.exists_eq_add_one_of_ne_zero (Nat.ne_zero_of_lt hfuel')
  have hgoing : isStopped' r'.lines = false := by rw [h.lines', hstop]
  obtain ⟨cause, s, hadvance⟩ := advance_unreadable (c := c) hline hbytes hgoing h.unread'
  have hfailed : Verdict.failed cause ≠ .next := by
    intro hnext
    cases hnext
  rw [run_ended hadvance hfailed]
  exact ⟨cause, rfl⟩

end Replay

/-- If a shutdown is requested, then behind the line with this index, and in both replays in front
of the same one, though the second replay has read one line more by then. -/
structure StopsBehind (index : Nat) (isStopped isStopped' : Nat → Bool) : Prop where
  front : ∀ k < index, isStopped k = false
  front' : ∀ k ≤ index, isStopped' k = false
  behind : ∀ k, isStopped' (index + 1 + k) = isStopped (index + k)

namespace ReplaySettings

/-- A line that holds no record is put in front of some line of the input. If it is text, the replay
counts it as malformed, and reports and does the same as without it. If it is not, the replay fails,
with this line if it has not failed before. -/
theorem replay_withLine {s : ReplaySettings} (hlimit : s.limit = none) {bytes line : Bytes}
    {i : Nat} (hi : i < (Store.linesOf bytes).length) (hline : Feed.lineBreak ∉ line)
    {d : Difference} {stdin stdin' : Bytes} {h h' : Host}
    (hinput : s.Feeds bytes (Store.withLine bytes i line) d stdin h stdin' h')
    {isStopped isStopped' : Nat → Bool} (hstops : StopsBehind i isStopped isStopped') :
    let r := s.replay stdin isStopped h
    let r' := s.replay stdin' isStopped' h'
    (∀ text, Text.decode? line = some text → isMalformed text.toList →
      r'.1 = r.1.map ReplayReport.addMalformed ∧ Host.SameButReplay d r.2 r'.2) ∧
    (Text.decode? line = none →
      (∃ cause, r'.1 = .failed (.unreadable cause)) ∨
        r'.1 = r.1 ∧ ∀ report, r.1 ≠ .done report) := by
  rcases hinput.start (·.component ≠ .replay) isStopped isStopped' with
    ⟨e, h1, h1', hr, hr', hh1⟩ | ⟨naming, r, r', habreast, hr, hr'⟩
  · simp only [hr, hr']
    exact ⟨fun _ _ _ => ⟨rfl, hh1⟩, fun _ => .inr ⟨trivial, fun _ hdone => by cases hdone⟩⟩
  · rw [hlimit] at hr hr'
    have hgoing : ∀ k < i, isStopped (0 + k) = false := by
      intro k hk
      rw [Nat.zero_add]
      exact hstops.front k hk
    have hgoing' : ∀ k < i, isStopped' (0 + k) = false := by
      intro k hk
      rw [Nat.zero_add]
      exact hstops.front' k (Nat.le_of_lt hk)
    rcases Replay.run_front (c := .ofNaming naming) Host.SameButReplay.notes line i hi
      (Replay.bytes_lt_lineBound habreast.unread) (Replay.bytes_lt_lineBound habreast.unread')
      hgoing hgoing' habreast with
      ⟨v, t, t', hnext, hfinished, hrun, hrun', halike⟩ |
      ⟨rest, t, t', left, left', hleft, hleft', habreast, hrun, hrun'⟩
    · -- both have ended in front of the line
      have hended := Replay.finish_alike Host.Alike.similarity Host.Alike.respects v halike
      have hfault : ∀ report, (Replay.finish (v, t)).1 ≠ .done report := by
        intro report hdone
        exact (Replay.finish_done (Prod.ext hdone rfl)).1.elim hnext hfinished
      have hsame : (Replay.finish (v, t)).1.map ReplayReport.addMalformed =
          (Replay.finish (v, t)).1 := by
        generalize (Replay.finish (v, t)).1 = o at hfault ⊢
        cases o with
        | done report => exact absurd rfl (hfault report)
        | _ => rfl
      simp only [hr, hr', hrun, hrun', hsame]
      exact ⟨fun _ _ _ => hended, fun _ => .inr ⟨hended.1, hfault⟩⟩
    · rw [Nat.zero_add] at habreast
      have hstop := hstops.front' i (Nat.le_refl i)
      simp only [hr, hr', hrun, hrun']
      refine ⟨fun text htext hbad => ?_, fun hbytes => .inl ?_⟩
      · exact Replay.finish_malformed hline htext hbad habreast hleft hleft' hstop hstops.behind
      · exact Replay.finish_unreadable hline hbytes habreast hleft' hstop

/-- Nothing is configured, and all of the input is read. -/
def plainSettings : ReplaySettings := { logSettings with limit := none }

/-- The calls of the shop with a line between them that is no record. -/
theorem replay_withLine_shop :
    let bytes := Text.encode shopInput
    let line := Text.encode "[0,1]"
    let host : Host := .withStore (.initial [])
    let going := fun _ : Nat => false
    plainSettings.limit = none ∧ 2 < (Store.linesOf bytes).length ∧ Feed.lineBreak ∉ line ∧
      plainSettings.Feeds bytes (Store.withLine bytes 2 line) none bytes host
        (Store.withLine bytes 2 line) host ∧
      StopsBehind 2 going going ∧ Text.decode? line = some "[0,1]" ∧
      isMalformed "[0,1]".toList ∧
      ∃ report, (plainSettings.replay bytes going host).1 = .done report ∧
        (report.recordsRead, report.malformed) = (3, 1) ∧
        (plainSettings.replay (Store.withLine bytes 2 line) going host).1 =
          .done report.addMalformed ∧
        Host.SameButReplay none (plainSettings.replay bytes going host).2
          (plainSettings.replay (Store.withLine bytes 2 line) going host).2 := by
  intro bytes line host going
  have hindex : 2 < (Store.linesOf bytes).length := by decide +kernel
  have hline : Feed.lineBreak ∉ line := Text.lineBreak_notMem_encode (by decide)
  have hinput : plainSettings.Feeds bytes (Store.withLine bytes 2 line) none bytes host
      (Store.withLine bytes 2 line) host := .stdin host rfl
  have hstops : StopsBehind 2 going going := ⟨fun _ _ => rfl, fun _ _ => rfl, fun _ => rfl⟩
  have htext : Text.decode? line = some "[0,1]" := Text.decode?_eq_some.mpr rfl
  have hbad : isMalformed "[0,1]".toList := by decide +kernel
  refine ⟨rfl, hindex, hline, hinput, hstops, htext, hbad, ?_⟩
  have hfigures : (plainSettings.replay bytes going host).1.map
      (fun report => (report.recordsRead, report.malformed)) = .done (3, 1) := by decide +kernel
  obtain ⟨houtcome, hhosts⟩ :=
    (replay_withLine rfl hindex hline hinput hstops).1 "[0,1]" htext hbad
  generalize (plainSettings.replay bytes going host).1 = o at hfigures houtcome ⊢
  cases o with
  | failed e => cases hfigures
  | crashed message => cases hfigures
  | done report => exact ⟨report, rfl, Outcome.done.inj hfigures, houtcome, hhosts⟩

/-- A single byte that begins no character, on a line of its own, and the calls of the shop are not
reported. -/
theorem replay_withLine_byte :
    let bytes := Text.encode shopInput
    let host : Host := .withStore (.initial [])
    (∃ report, (plainSettings.replay bytes (fun _ => false) host).1 = .done report) ∧
      ∀ report, (plainSettings.replay (Store.withLine bytes 0 [0xff]) (fun _ => false) host).1 ≠
        .done report := by
  intro bytes host
  have hdone : (plainSettings.replay bytes (fun _ => false) host).1.map (fun _ => ()) =
      .done () := by decide +kernel
  have hfailed :
      (plainSettings.replay (Store.withLine bytes 0 [0xff]) (fun _ => false) host).1.map
        (fun _ => ()) = .failed (.unreadable (.badLine 0 (some 1))) := by decide +kernel
  constructor
  · generalize (plainSettings.replay bytes (fun _ => false) host).1 = o at hdone ⊢
    cases o with
    | failed e => cases hdone
    | crashed message => cases hdone
    | done report => exact ⟨report, rfl⟩
  · intro report hreport
    rw [hreport] at hfailed
    cases hfailed

end ReplaySettings
end MeshTelemetry
