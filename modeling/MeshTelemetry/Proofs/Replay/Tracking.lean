import MeshTelemetry.Proofs.Meters
import MeshTelemetry.Proofs.Replay.Journal
import MeshTelemetry.Proofs.Replay.Limit

/-!
# MeshTelemetry.Proofs.Replay.Tracking

Which lines a replay takes, and what is true of it with respect to them. A property that every
line keeps holds at the end of the lines that were taken; these are the first ones of the input, as
long as nobody writes to it.

* `Replay.Tracks`: a property of the lines taken so far that each further line keeps.
* `Replay.Reads`: what is still to be read, and will not be changed; `frontOf`: up to the limit.
* `Replay.run_tracks`: the run of lines.
* `ReplaySettings.replay_tracks`: the replay that ends with a report.
-/

namespace MeshTelemetry

/-- The lines that are read up to a limit: the shortest front that holds so many records. -/
def frontOf : Option Nat → List (List Char) → List (List Char)
  | none, lines => lines
  | some n, lines => leading n lines

theorem frontOf_nil (limit : Option Nat) : frontOf limit [] = [] := by
  cases limit with
  | none => rfl
  | some n => cases n <;> rfl

namespace Replay

variable {c : Collaborators} {limit : Option Nat} {isStopped : Nat → Bool} {r r' : Replay}

theorem frontOf_limit (hlimit : r.isAtLimit limit = true) (lines : List (List Char)) :
    frontOf (limit.map (· - r.progress.recordsRead)) lines = [] := by
  obtain ⟨n, rfl, hle⟩ := isAtLimit_true hlimit
  rw [Option.map_some, Nat.sub_eq_zero_of_le hle]
  cases lines <;> rfl

theorem frontOf_cons (hlimit : r.isAtLimit limit = false) (line : List Char)
    (rest : List (List Char)) :
    frontOf (limit.map (· - r.progress.recordsRead)) (line :: rest) =
      line :: frontOf
        (limit.map (· - (r.progress.recordsRead + (recordOf? line).toList.length))) rest := by
  cases limit with
  | none => rfl
  | some n =>
    have hbelow := isAtLimit_false hlimit n rfl
    obtain ⟨left, hleft⟩ := Nat.exists_eq_add_one_of_ne_zero (Nat.sub_ne_zero_of_lt hbelow)
    simp only [Option.map_some, frontOf, hleft, leading, Nat.sub_add_eq]
    cases recordOf? line <;> rfl

/-- A property of a replay and of the lines that it has taken. It looks at what was counted, at the
receivers and at the store; and every line that does not end the replay keeps it. -/
structure Tracks (c : Collaborators) (I : List (List Char) → Replay → Prop) : Prop where
  congr : ∀ {lines : List (List Char)} {r r' : Replay}, I lines r → r'.progress = r.progress →
    r'.dispatcher = r.dispatcher → r'.host.meters = r.host.meters →
    r'.host.store = r.host.store → I lines r'
  blank : ∀ {lines : List (List Char)} {line : List Char} {r : Replay}, I lines r →
    (Text.trim line).isEmpty → recordOf? line = none → I (lines ++ [line]) r
  skip : ∀ {lines : List (List Char)} {line : List Char} {r : Replay} (e : DecodeError), I lines r →
    ¬ (Text.trim line).isEmpty → recordOf? line = none → I (lines ++ [line]) (r.skip e)
  record : ∀ {lines : List (List Char)} {line : List Char} {r r' : Replay} {m : Metric}, I lines r →
    ¬ (Text.trim line).isEmpty → recordOf? line = some m → r.takeRecord c m = (.next, r') →
    I (lines ++ [line]) r'

variable {I : List (List Char) → Replay → Prop} {lines : List (List Char)}

theorem Tracks.takeLine (hI : Tracks c I) (line : List Char) (hr : I lines r)
    (hlimit : r.isAtLimit limit = false)
    (h : r.takeLine c limit (String.ofList line) = (.next, r')) : I (lines ++ [line]) r' := by
  rcases takeLine_cases c line hlimit with
    ⟨hblank, hnone, htake⟩ | ⟨e, hblank, hnone, htake⟩ | ⟨m, hblank, hsome, htake⟩
  · rw [htake] at h
    cases h
    exact hI.blank hr hblank hnone
  · rw [htake] at h
    cases h
    exact hI.skip e hr hblank hnone
  · rw [htake] at h
    exact hI.record hr hblank hsome h

/-- The text that is still to be read, from no file that a receiver writes to. -/
structure Reads (cs : List Char) (r : Replay) : Prop where
  unread : r.feed.unread r.host.store = .ok (Text.encode (String.ofList cs))
  apart : ∀ loc, r.feed.origin = some loc → r.dispatcher.receiver.All (Output.Avoids loc)

theorem Reads.takeLine {cs : List Char} (line : List Char) (h : r.Reads cs)
    (hlimit : r.isAtLimit limit = false) :
    (r.takeLine c limit (String.ofList line)).2.Reads cs := by
  obtain ⟨hfeed, -, -⟩ := takeLine_frame c line hlimit
  have hkept : ∀ loc, r.feed.origin = some loc →
      (r.takeLine c limit (String.ofList line)).2.dispatcher.receiver.All (Output.Avoids loc) ∧
        (r.takeLine c limit (String.ofList line)).2.host.store.node? loc =
          r.host.store.node? loc := fun loc hloc =>
    takeLine_keeps (Output.keeps_lasting (Store.lasts_node fun _ hother _ _ => hother)) c limit _
      ⟨h.apart loc hloc, rfl⟩
  refine ⟨?_, fun loc hloc => ?_⟩
  · rw [hfeed, ← h.unread]
    refine Feed.unread_congr fun loc hloc => ?_
    rw [Store.content, Store.content, (hkept loc hloc).2]
  · rw [hfeed] at hloc
    exact (hkept loc hloc).1

/-- A step after which the replay goes on has taken a line, the first one of what is to be read. -/
theorem advance_next (h : r.advance c limit isStopped = (.next, r')) :
    ∃ line feed, ({ r with feed, lines := r.lines + 1 } : Replay).isAtLimit limit = false ∧
      ({ r with feed, lines := r.lines + 1 } : Replay).takeLine c limit (String.ofList line) =
        (.next, r') ∧
      ∀ cs, r.Reads cs → ∃ rest, ({ r with feed, lines := r.lines + 1 } : Replay).Reads rest ∧
        rest.length < cs.length ∧ Text.linesOf cs = line :: Text.linesOf rest := by
  unfold advance at h
  split at h
  · cases h
  · split at h
    · cases h
    · cases h
    · next bytes feed hnext =>
      split at h
      · cases h
      · next text htext =>
        refine ⟨text.toList, feed, ?_, by rwa [String.ofList_toList], fun cs hcs => ?_⟩
        · by_contra hlimit
          rw [Bool.not_eq_false] at hlimit
          rw [takeLine, if_pos hlimit] at h
          cases h
        · rcases Feed.nextLine_lines hcs.unread with
            ⟨-, f', hf⟩ | ⟨line, rest, f', hf, horigin, hunread, hlt, hlines⟩
          · rw [hnext] at hf
            cases hf
          · rw [hnext] at hf
            cases hf
            rw [Feed.textOf, Text.decode?_eq_some.mpr rfl] at htext
            cases htext
            rw [String.toList_ofList]
            exact ⟨rest, ⟨hunread, by rw [horigin]; exact hcs.apart⟩, hlt, hlines⟩

/-- A step that ends the replay takes no line. Unless it was interrupted, there is none, or the
limit is reached. -/
theorem advance_finished (h : r.advance c limit isStopped = (.finished, r')) :
    r'.progress = r.progress ∧ r'.dispatcher = r.dispatcher ∧ r'.host.meters = r.host.meters ∧
      r'.host.store = r.host.store ∧ (r'.interrupted = false → ∀ cs, r.Reads cs →
        frontOf (limit.map (· - r.progress.recordsRead)) (Text.linesOf cs) = []) := by
  unfold advance at h
  split at h
  · cases h
    exact ⟨rfl, rfl, rfl, rfl, nofun⟩
  · split at h
    · cases h
    · next feed hnext =>
      cases h
      refine ⟨rfl, rfl, rfl, rfl, fun _ cs hcs => ?_⟩
      rcases Feed.nextLine_lines hcs.unread with ⟨rfl, -⟩ | ⟨line, rest, f', hf, -⟩
      · exact frontOf_nil _
      · rw [hnext] at hf
        cases hf
    · next bytes feed hnext =>
      split at h
      · cases h
      · next text htext =>
        rw [← String.ofList_toList (s := text)] at h
        have hlimit := isAtLimit_of_finished text.toList h
        rw [takeLine, if_pos hlimit] at h
        cases h
        exact ⟨rfl, rfl, rfl, rfl, fun _ cs _ => frontOf_limit hlimit _⟩

/-- The run from any state, by induction on the number of lines that may still be read. -/
theorem run_tracks (hI : Tracks c I) (fuel : Nat) :
    ∀ {lines : List (List Char)} {r r' : Replay}, I lines r →
      r.run c limit isStopped fuel = (.finished, r') →
      ∃ taken, I (lines ++ taken) r' ∧ ∀ cs, cs.length < fuel → r.Reads cs →
        taken <+: frontOf (limit.map (· - r.progress.recordsRead)) (Text.linesOf cs) ∧
        (r'.interrupted = false →
          taken = frontOf (limit.map (· - r.progress.recordsRead)) (Text.linesOf cs)) := by
  induction fuel with
  | zero =>
    intro lines r r' hr h
    cases h
    exact ⟨[], by rwa [List.append_nil], fun cs hfuel => absurd hfuel (Nat.not_lt_zero _)⟩
  | succ fuel ih =>
    intro lines r r' hr h
    rw [run] at h
    rcases hadvance : r.advance c limit isStopped with ⟨v, r1⟩
    rw [hadvance] at h
    cases v with
    | failed e => cases h
    | crashed message => cases h
    | finished =>
      cases h
      obtain ⟨hprogress, hdispatcher, hmeters, hstore, hend⟩ := advance_finished hadvance
      refine ⟨[], ?_, fun cs _ hcs => ⟨List.nil_prefix, fun hgoing => (hend hgoing cs hcs).symm⟩⟩
      rw [List.append_nil]
      exact hI.congr hr hprogress hdispatcher hmeters hstore
    | next =>
      obtain ⟨line, feed, hlimit, htake, hreads⟩ := advance_next hadvance
      have hread : I lines { r with feed, lines := r.lines + 1 } := hI.congr hr rfl rfl rfl rfl
      obtain ⟨taken, htaken, hfront⟩ := ih (hI.takeLine line hread hlimit htake) h
      refine ⟨line :: taken, by rwa [List.append_cons], fun cs hfuel hcs => ?_⟩
      obtain ⟨rest, hrest, hlt, hlines⟩ := hreads cs hcs
      have hlater := hrest.takeLine (c := c) line hlimit
      obtain ⟨-, -, hcount⟩ := takeLine_frame c line hlimit
      rw [htake] at hlater hcount
      obtain ⟨hleads, hall⟩ := hfront rest (by omega) hlater
      rw [hlines, frontOf_cons (r := r) hlimit]
      rw [hcount] at hleads hall
      exact ⟨(List.prefix_cons_inj line).mpr hleads, fun hgoing => by rw [← hall hgoing]⟩

end Replay

namespace ReplaySettings

variable {s : ReplaySettings} {stdin : Bytes} {isStopped : Nat → Bool} {h h' : Host}
  {report : ReplayReport}

theorem openReceivers_meters (s : ReplaySettings) (h : Host) :
    (s.openReceivers h).2.meters = h.meters := by
  unfold openReceivers
  split
  · exact Output.openAll_meters _ _
  · exact Output.openAll_meters _ _

/-- A replay with a report has taken lines, of which every property is true that each line keeps. If
the input is a text that no receiver writes to, they are its first lines up to the limit. -/
theorem replay_tracks {I : Naming → List (List Char) → Replay → Prop}
    (hI : ∀ n, Replay.Tracks (.ofNaming n) (I n))
    (hstart : ∀ n feed outputs ready, ready.meters = h.meters →
      ready.store.shortages = h.store.shortages →
      I n [] ⟨feed, 0, .none, false, ⟨Output.setOf outputs, .metered⟩, ready⟩)
    (hdone : s.replay stdin isStopped h = (.done report, h')) :
    ∃ n lines r receiver h2, Naming.ofServices s.config.services = .ok n ∧ I n lines r ∧
      r.dispatcher.receiver.flush r.host = (.done (), receiver, h2) ∧
      report = r.report receiver ∧ h' = receiver.close h2 ∧
      ∀ text, (∀ outputs h1, s.openReceivers h = (.ok outputs, h1) →
          s.HasInput stdin h1.store (Output.locations outputs) text) →
        lines <+: frontOf s.limit (Text.linesOf text.toList) ∧
          (report.interrupted = false →
            lines = frontOf s.limit (Text.linesOf text.toList)) := by
  unfold replay at hdone
  split at hdone
  · cases hdone
  · next outputs h1 hopen =>
    split at hdone
    · cases hdone
    · next n hn =>
      simp only at hdone
      generalize hready : h1.log .info .replay "Dispatcher ready" _ = ready at hdone
      have hmeters : ready.meters = h.meters := by
        rw [← hready, ← s.openReceivers_meters h, hopen]
        rfl
      have hstore : ready.store = h1.store := hready ▸ rfl
      have hroom : ready.store.shortages = h.store.shortages := by
        have hgrown := s.openReceivers_store h
        rw [hopen] at hgrown
        rw [hstore, hgrown.shortages]
      split at hdone
      · cases hdone
      · next feed hfeed =>
        have hbegin := hstart n feed outputs ready hmeters hroom
        generalize hfirst : (⟨feed, 0, .none, false, ⟨Output.setOf outputs, .metered⟩, ready⟩ :
          Replay) = start at hdone hbegin
        obtain ⟨hv, receiver, h2, hflush, hreport, hclosed⟩ := Replay.finish_done hdone
        have hne := Replay.run_ne_next (.ofNaming n) s.limit isStopped
          (Replay.lineBound feed ready.store) start
        generalize hended : start.run (.ofNaming n) s.limit isStopped
          (Replay.lineBound feed ready.store) = ended at hv hflush hreport hne
        obtain ⟨v, r⟩ := ended
        obtain rfl : v = .finished := hv.resolve_left hne
        obtain ⟨lines, hlines, hfront⟩ := Replay.run_tracks (hI n) _ hbegin hended
        refine ⟨n, lines, r, receiver, h2, hn, hlines, hflush, hreport, hclosed,
          fun text hinput => ?_⟩
        obtain ⟨feed', hfeed', hunread, hapart⟩ := openInput_done (hinput outputs h1 hopen)
        rw [← hstore, hfeed] at hfeed'
        cases hfeed'
        rw [← hstore] at hunread
        have hreads : start.Reads text.toList := by
          rw [← hfirst]
          refine ⟨by rwa [String.ofList_toList], fun loc hloc => Output.all_setOf ?_⟩
          rintro other hother rfl
          exact hapart _ hloc hother
        have hall := hfront text.toList (Replay.length_lt_lineBound hunread) hreads
        have hzero : s.limit.map (· - start.progress.recordsRead) = s.limit := by
          rw [← hfirst]
          cases s.limit <;> rfl
        rw [hzero] at hall
        rw [hreport]
        exact hall

end ReplaySettings
end MeshTelemetry
