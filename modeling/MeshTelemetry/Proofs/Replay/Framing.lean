import MeshTelemetry.Proofs.Replay.Limit

/-!
# MeshTelemetry.Proofs.Replay.Framing

Two inputs that have the same entries in their lines, whatever stands around them: blanks before and
behind an entry, blank lines, line feeds with and without carriage returns. Replays of them differ
in the numbers of the lines, and in whether a line follows behind the limit.

* `Text.entriesOf`: the entries of a text; `Text.entriesOf_line`: those of its first line.
* `Host.SameButLines`: what the log may differ in.
* `Replay.run_limited`, `Replay.run_entry`: where a replay comes to by itself, at its limit and
  below it.
* `Replay.Apace`: two replays that have taken the same entries; `Replay.Apace.takeLine`: they take
  the next one; `Replay.run_apace`: the runs.
* `ReplaySettings.replay_framing`: the replays as a whole.
-/

namespace MeshTelemetry

namespace Text

/-- A line without the carriage return at its end. -/
def dropReturn (line : List Char) : List Char :=
  if line.getLast? = some '\r' then line.dropLast else line

/-- What the lines of a text come to when they are trimmed and the blank ones are left out. A line
ends at a line feed, or at a carriage return and a line feed. -/
def entriesOf (cs : List Char) : List (List Char) :=
  ((splitAt '\n' cs).map fun line => trim (dropReturn line)).filter fun entry => !entry.isEmpty

theorem trim_dropReturn (line : List Char) : trim (dropReturn line) = trim line := by
  unfold dropReturn
  split
  · next h =>
    obtain ⟨front, rfl⟩ := List.getLast?_eq_some_iff.mp h
    rw [List.dropLast_concat, trim_blankEnd (by decide)]
  · rfl

theorem entriesOf_lines (cs : List Char) :
    entriesOf cs = ((linesOf cs).map trim).filter fun entry => !entry.isEmpty := by
  simp only [entriesOf, trim_dropReturn]
  rw [splitAt_cut, linesOf_cut]
  cases hcut : cut? '\n' cs with
  | none =>
    cases cs with
    | nil => rfl
    | cons c cs => rfl
  | some cut =>
    obtain ⟨before, behind⟩ := cut
    have ih := entriesOf_lines behind
    simp only [entriesOf, trim_dropReturn] at ih
    simp only [List.map_cons, List.filter_cons, trim_lineBreak, ih]
termination_by cs.length
decreasing_by exact cut?_length hcut

theorem entriesOf_line {cs line rest : List Char} (h : linesOf cs = line :: linesOf rest) :
    entriesOf cs = if (trim line).isEmpty then entriesOf rest else trim line :: entriesOf rest := by
  rw [entriesOf_lines, entriesOf_lines, h, List.map_cons, List.filter_cons]
  cases (trim line).isEmpty <;> rfl

end Text

/-- An entry of the log without the number of the line that it is about. -/
def Event.unnumbered (e : Event) : Event :=
  if e.component = .replay then { e with fields := e.fields.filter (·.1 ≠ "line") } else e

/-- The hosts differ in what the input file holds, in the numbers of lines in the log, and in
whether it was logged that the limit was reached. -/
structure Host.SameButLines (d : Difference) (h h' : Host) : Prop where
  store : Store.Alike d h.store h'.store
  meters : h'.meters = h.meters
  events : (h'.events.filter (!·.isLimitNote)).map Event.unnumbered =
    (h.events.filter (!·.isLimitNote)).map Event.unnumbered

namespace Host.SameButLines

variable {d : Difference} {h h' : Host}

theorem of_alike (hh : Host.Alike (fun _ => true) d h h') : Host.SameButLines d h h' := by
  have hevents := hh.events
  rw [List.filter_true, List.filter_true] at hevents
  exact ⟨hh.store, hh.meters, by rw [hevents]⟩

theorem log (hh : Host.SameButLines d h h') {e e' : Event} (hnote : e'.isLimitNote = e.isLimitNote)
    (heq : e'.unnumbered = e.unnumbered) :
    Host.SameButLines d { h with events := e :: h.events }
      { h' with events := e' :: h'.events } := by
  refine ⟨hh.store, hh.meters, ?_⟩
  simp only [List.filter_cons, hnote]
  split
  · rw [List.map_cons, List.map_cons, heq, hh.events]
  · exact hh.events

theorem similarity : Host.Similarity (Host.SameButLines d) where
  log _ _ _ _ hh := hh.log rfl rfl
  tally meter hh := by
    refine ⟨hh.store, ?_, hh.events⟩
    simp only [Host.tally, hh.meters]

theorem notes (line line' : Nat) : Replay.Notes (Host.SameButLines d) line line' :=
  fun _ _ _ hh => hh.log rfl (by simp [Event.unnumbered])

theorem device {loc : Location} (hloc : d.Spares loc) :
    Device.Respects (Host.SameButLines d) (FileOutput.device loc) := by
  intro h h' bytes hh
  obtain ⟨answer, s, s', hs, hs', hstore⟩ := hh.store.device hloc bytes
  exact ⟨answer, _, _, hs, hs', hstore, hh.meters, hh.events⟩

theorem respects : Sink.Respects (Host.SameButLines d) (Output.WritesTo d.Spares) :=
  Output.respects similarity fun _ hloc => device hloc

end Host.SameButLines

namespace Replay

/-- No shutdown is requested. -/
abbrev going : Nat → Bool := fun _ => false

variable {d : Difference} {c : Collaborators} {limit : Option Nat} {r r' s s' : Replay}

/-- The replay has read on and taken nothing; it may have noted its limit. -/
inductive Rests (r : Replay) : Replay → Prop
  | quiet (feed : Feed) (lines : Nat) : Rests r { r with feed, lines }
  | noted (feed : Feed) (lines : Nat) (fields : List (String × String)) :
      Rests r
        { r with feed, lines, host := r.host.log .info .replay "Reached record limit" fields }

theorem Rests.of_read {feed : Feed} {lines : Nat}
    (h : ({ r with feed, lines } : Replay).Rests s) : r.Rests s := by
  cases h with
  | quiet feed' lines' => exact .quiet feed' lines'
  | noted feed' lines' fields => exact .noted feed' lines' fields

theorem Rests.same (h : r.Rests s) :
    s.progress = r.progress ∧ s.interrupted = r.interrupted ∧ s.dispatcher = r.dispatcher ∧
      s.host.store = r.host.store ∧ s.host.meters = r.host.meters ∧
      s.host.events.filter (!·.isLimitNote) = r.host.events.filter (!·.isLimitNote) := by
  cases h with
  | quiet feed lines => exact ⟨rfl, rfl, rfl, rfl, rfl, rfl⟩
  | noted feed lines fields => exact ⟨rfl, rfl, rfl, rfl, rfl, rfl⟩

theorem Rests.alike {p : Output → Prop} (hs : r.Rests s) (hs' : r'.Rests s')
    (h : r.Alike (Host.SameButLines d) p r') : s.Alike (Host.SameButLines d) p s' := by
  obtain ⟨hprogress, hinterrupted, hdispatcher, hstore, hmeters, hevents⟩ := hs.same
  obtain ⟨hprogress', hinterrupted', hdispatcher', hstore', hmeters', hevents'⟩ := hs'.same
  refine ⟨?_, ?_, ?_, ?_, ?_, ?_, ?_⟩
  · rw [hprogress, hprogress', h.progress]
  · rw [hinterrupted, hinterrupted', h.interrupted]
  · rw [hdispatcher, hdispatcher', h.dispatcher]
  · rw [hdispatcher]
    exact h.all
  · rw [hstore, hstore']
    exact h.hosts.store
  · rw [hmeters, hmeters', h.hosts.meters]
  · rw [hevents, hevents', h.hosts.events]

theorem run_limited {text : List Char} {fuel : Nat} (hlimit : r.isAtLimit limit = true)
    (hunread : r.feed.unread r.host.store = .ok (Text.encode (String.ofList text)))
    (hfuel : text.length < fuel) :
    ∃ s, r.run c limit going fuel = (.finished, s) ∧ r.Rests s := by
  obtain ⟨fuel, rfl⟩ := Nat.exists_eq_add_one_of_ne_zero (Nat.ne_zero_of_lt hfuel)
  have hended : ∀ {s : Replay}, r.advance c limit going = (.finished, s) →
      r.run c limit going (fuel + 1) = (.finished, s) := fun h => run_ended h (by decide) fuel
  rcases advance_lines c limit going rfl hunread with
    ⟨-, feed, hadvance⟩ | ⟨line, rest, feed, hadvance, -⟩
  · exact ⟨_, hended hadvance, .quiet feed r.lines⟩
  · have hread : ({ r with feed, lines := r.lines + 1 } : Replay).isAtLimit limit = true := hlimit
    rw [takeLine, if_pos hread] at hadvance
    exact ⟨_, hended hadvance, .noted feed (r.lines + 1) _⟩

/-- How a replay goes on after a step. -/
def goOn (c : Collaborators) (limit : Option Nat) (fuel : Nat) :
    Verdict × Replay → Verdict × Replay
  | (.next, r) => r.run c limit going fuel
  | ended => ended

theorem run_succ (c : Collaborators) (limit : Option Nat) (fuel : Nat) (r : Replay) :
    r.run c limit going (fuel + 1) = goOn c limit fuel (r.advance c limit going) := by
  rw [run]
  rcases r.advance c limit going with ⟨v, s⟩
  cases v <;> rfl

/-- A replay below its limit passes over blank lines and takes the next entry, if there is one. By
induction on the lines. -/
theorem run_entry (c : Collaborators) (fuel : Nat) :
    ∀ {text : List Char} {r : Replay}, r.isAtLimit limit = false →
      r.feed.unread r.host.store = .ok (Text.encode (String.ofList text)) → text.length < fuel →
      (Text.entriesOf text = [] ∧
          ∃ s, r.run c limit going fuel = (.finished, s) ∧ r.Rests s) ∨
        ∃ line rest feed lines left,
          Text.entriesOf text = Text.trim line :: Text.entriesOf rest ∧
          feed.origin = r.feed.origin ∧
          feed.unread r.host.store = .ok (Text.encode (String.ofList rest)) ∧ rest.length < left ∧
          r.run c limit going fuel =
            goOn c limit left
              (({ r with feed, lines } : Replay).takeLine c limit (String.ofList line)) := by
  induction fuel with
  | zero => exact fun _ _ hfuel => absurd hfuel (Nat.not_lt_zero _)
  | succ fuel ih =>
    intro text r hlimit hunread hfuel
    rw [run_succ]
    rcases advance_lines c limit going rfl hunread with
      ⟨rfl, feed, hadvance⟩ | ⟨line, rest, feed, hadvance, horigin, hrest, hlt, hlines⟩
    · rw [hadvance]
      exact .inl ⟨rfl, _, rfl, .quiet feed r.lines⟩
    · rw [hadvance, Text.entriesOf_line hlines]
      have hread : ({ r with feed, lines := r.lines + 1 } : Replay).isAtLimit limit = false :=
        hlimit
      have hleft : rest.length < fuel := by omega
      by_cases hblank : (Text.trim line).isEmpty
      · have htake : ({ r with feed, lines := r.lines + 1 } : Replay).takeLine c limit
            (String.ofList line) = (.next, { r with feed, lines := r.lines + 1 }) := by
          rcases takeLine_cases c line hread with
            ⟨-, -, htake⟩ | ⟨e, hsome, -, -⟩ | ⟨m, hsome, -, -⟩
          · exact htake
          · exact absurd hblank hsome
          · exact absurd hblank hsome
        rw [if_pos hblank, htake]
        rcases ih hread hrest hleft with
          ⟨hnone, s, hrun, hrests⟩ | ⟨line', rest', feed', lines', left, hentry, horigin', hothers⟩
        · exact .inl ⟨hnone, s, hrun, hrests.of_read⟩
        · exact .inr ⟨line', rest', feed', lines', left, hentry, horigin'.trans horigin, hothers⟩
      · rw [if_neg hblank]
        exact .inr ⟨line, rest, feed, r.lines + 1, fuel, rfl, horigin, hrest, hleft, rfl⟩

theorem takeLine_entry {line line' : List Char} (h : Text.trim line' = Text.trim line) :
    r.takeLine c limit (String.ofList line') = r.takeLine c limit (String.ofList line) := by
  simp only [takeLine, String.toList_ofList, h]

/-- The invariant of two replays that have taken the same entries: they are alike, and have the
texts before them that are still to be read. -/
structure Apace (d : Difference) (text text' : List Char) (r r' : Replay) : Prop where
  alike : r.Alike (Host.SameButLines d) (Output.WritesTo d.Spares) r'
  unread : r.feed.unread r.host.store = .ok (Text.encode (String.ofList text))
  unread' : r'.feed.unread r'.host.store = .ok (Text.encode (String.ofList text'))
  origin : r.feed.ReadsFrom d
  origin' : r'.feed.ReadsFrom d

variable {text text' : List Char}

theorem Apace.read (h : r.Apace d text text' r') {feed feed' : Feed} {rest rest' : List Char}
    (lines lines' : Nat) (horigin : feed.origin = r.feed.origin)
    (horigin' : feed'.origin = r'.feed.origin)
    (hrest : feed.unread r.host.store = .ok (Text.encode (String.ofList rest)))
    (hrest' : feed'.unread r'.host.store = .ok (Text.encode (String.ofList rest'))) :
    ({ r with feed, lines } : Replay).Apace d rest rest'
      { r' with feed := feed', lines := lines' } :=
  ⟨⟨h.alike.progress, h.alike.interrupted, h.alike.dispatcher, h.alike.all, h.alike.hosts⟩, hrest,
    hrest', h.origin.congr horigin, h.origin'.congr horigin'⟩

theorem Apace.takeLine (h : r.Apace d text text' r') (c : Collaborators) {line line' : List Char}
    (hlimit : r.isAtLimit limit = false) (hlimit' : r'.isAtLimit limit = false)
    (hentry : Text.trim line' = Text.trim line) :
    let s := r.takeLine c limit (String.ofList line)
    let s' := r'.takeLine c limit (String.ofList line')
    s'.1 = s.1 ∧ s.2.Apace d text text' s'.2 := by
  intro s s'
  have hs' : s' = r'.takeLine c limit (String.ofList line) := takeLine_entry hentry
  obtain ⟨hverdict, hafter⟩ := takeLine_alike Host.SameButLines.similarity
    Host.SameButLines.respects c (String.ofList line) hlimit hlimit' (Host.SameButLines.notes _ _)
    h.alike
  obtain ⟨hfeed, -, -⟩ := takeLine_frame c line hlimit
  obtain ⟨hfeed', -, -⟩ := takeLine_frame c line hlimit'
  rw [← hs'] at hverdict hafter hfeed'
  have hsame := Feed.unread_alike h.alike.hosts.store hafter.hosts.store h.origin
  have hsame' := Feed.unread_alike h.alike.hosts.store hafter.hosts.store h.origin'
  refine ⟨hverdict, hafter, ?_, ?_, ?_, ?_⟩
  · rw [hfeed]
    exact hsame.1.trans h.unread
  · rw [hfeed']
    exact hsame'.2.trans h.unread'
  · rw [hfeed]
    exact h.origin
  · rw [hfeed']
    exact h.origin'

/-- Both replays end without taking anything, or both take the next entry. -/
theorem Apace.catchUp (h : r.Apace d text text' r') (c : Collaborators) (limit : Option Nat)
    {fuel fuel' : Nat} (hsame : Text.entriesOf text' = Text.entriesOf text)
    (hfuel : text.length < fuel) (hfuel' : text'.length < fuel') :
    (∃ s s', r.run c limit going fuel = (.finished, s) ∧
        r'.run c limit going fuel' = (.finished, s') ∧
        s.Alike (Host.SameButLines d) (Output.WritesTo d.Spares) s') ∨
      ∃ v s s' entry rest rest' left left', r.run c limit going fuel = goOn c limit left (v, s) ∧
        r'.run c limit going fuel' = goOn c limit left' (v, s') ∧
        Text.entriesOf text = entry :: Text.entriesOf rest ∧
        Text.entriesOf rest' = Text.entriesOf rest ∧ rest.length < left ∧ rest'.length < left' ∧
        s.Apace d rest rest' s' := by
  have hlimits : r'.isAtLimit limit = r.isAtLimit limit := by
    simp only [isAtLimit, h.alike.progress]
  cases hlimit : r.isAtLimit limit with
  | true =>
    obtain ⟨s, hrun, hrests⟩ := run_limited (c := c) hlimit h.unread hfuel
    obtain ⟨s', hrun', hrests'⟩ := run_limited (c := c) (hlimits.trans hlimit) h.unread' hfuel'
    exact .inl ⟨s, s', hrun, hrun', hrests.alike hrests' h.alike⟩
  | false =>
    have hlimit' := hlimits.trans hlimit
    rcases run_entry c fuel hlimit h.unread hfuel with
      ⟨hnone, s, hrun, hrests⟩ |
      ⟨line, rest, feed, lines, left, hentry, horigin, hrest, hleft, hrun⟩ <;>
    rcases run_entry c fuel' hlimit' h.unread' hfuel' with
      ⟨hnone', s', hrun', hrests'⟩ |
      ⟨line', rest', feed', lines', left', hentry', horigin', hrest', hleft', hrun'⟩
    · exact .inl ⟨s, s', hrun, hrun', hrests.alike hrests' h.alike⟩
    · rw [hsame, hnone] at hentry'
      cases hentry'
    · rw [hsame, hentry] at hnone'
      cases hnone'
    · rw [hsame, hentry, List.cons.injEq] at hentry'
      obtain ⟨hline, hbehind⟩ := hentry'
      obtain ⟨hverdict, hnext⟩ := (h.read lines lines' horigin horigin' hrest hrest').takeLine c
        hlimit hlimit' hline.symm
      generalize Replay.takeLine c limit (String.ofList line) _ = taken at hrun hverdict hnext
      generalize Replay.takeLine c limit (String.ofList line') _ = taken' at hrun' hverdict hnext
      obtain ⟨v, s⟩ := taken
      obtain ⟨v', s'⟩ := taken'
      obtain rfl : v' = v := hverdict
      exact .inr ⟨v', s, s', _, rest, rest', left, left', hrun, hrun', hentry, hbehind.symm, hleft,
        hleft', hnext⟩

/-- Replays with the same entries before them end in the same way, by induction on the entries. -/
theorem run_apace (c : Collaborators) (limit : Option Nat) (entries : List (List Char)) :
    ∀ {fuel fuel' : Nat} {text text' : List Char} {r r' : Replay}, Text.entriesOf text = entries →
      Text.entriesOf text' = entries → text.length < fuel → text'.length < fuel' →
      r.Apace d text text' r' →
      ∃ v s s', r.run c limit going fuel = (v, s) ∧ r'.run c limit going fuel' = (v, s') ∧
        s.Alike (Host.SameButLines d) (Output.WritesTo d.Spares) s' := by
  induction entries with
  | nil =>
    intro fuel fuel' text text' r r' hnil hnil' hfuel hfuel' h
    rcases h.catchUp c limit (hnil'.trans hnil.symm) hfuel hfuel' with
      ⟨s, s', hended⟩ | ⟨_, _, _, _, _, _, _, _, -, -, hentry, -⟩
    · exact ⟨.finished, s, s', hended⟩
    · rw [hnil] at hentry
      cases hentry
  | cons entry entries ih =>
    intro fuel fuel' text text' r r' hentries hentries' hfuel hfuel' h
    rcases h.catchUp c limit (hentries'.trans hentries.symm) hfuel hfuel' with
      ⟨s, s', hended⟩ |
      ⟨v, s, s', _, rest, rest', left, left', hrun, hrun', hentry, hrest, hleft, hleft', hnext⟩
    · exact ⟨.finished, s, s', hended⟩
    · rw [hentries, List.cons.injEq] at hentry
      rw [hrun, hrun']
      by_cases hv : v = .next
      · subst hv
        exact ih hentry.2.symm (hrest.trans hentry.2.symm) hleft hleft' hnext
      · have hended : ∀ (fuel : Nat) (s : Replay), goOn c limit fuel (v, s) = (v, s) := by
          intro fuel s
          cases v with
          | next => exact absurd rfl hv
          | _ => rfl
        exact ⟨v, s, s', hended left s, hended left' s', hnext.alike⟩

end Replay

namespace ReplaySettings

/-- The inputs of two replays have the same entries in their lines, in whatever way these are
framed, and no shutdown is requested. Then the replays have the same outcome, which is a report or
an error, and count and write the same. They log the same, except for the numbers of lines and for
a note that the limit was reached. -/
theorem replay_framing {s : ReplaySettings} {text text' : String}
    (hsame : Text.entriesOf text'.toList = Text.entriesOf text.toList) {d : Difference}
    {stdin stdin' : Bytes} {h h' : Host} (hinput : s.Supplies text text' d stdin h stdin' h') :
    let r := s.replay stdin Replay.going h
    let r' := s.replay stdin' Replay.going h'
    r'.1 = r.1 ∧ Host.SameButLines d r.2 r'.2 := by
  rcases hinput.feeds.start (fun _ => true) Replay.going Replay.going with
    ⟨e, h1, h1', hr, hr', hh1⟩ | ⟨naming, r, r', habreast, hr, hr'⟩
  · simp only [hr, hr']
    exact ⟨trivial, .of_alike hh1⟩
  · have hstart : r.Apace d text.toList text'.toList r' := by
      refine ⟨⟨habreast.alike.progress, habreast.alike.interrupted, habreast.alike.dispatcher,
        habreast.alike.all, .of_alike habreast.alike.hosts⟩, ?_, ?_, habreast.origin,
        habreast.origin'⟩
      · rw [String.ofList_toList]
        exact habreast.unread
      · rw [String.ofList_toList]
        exact habreast.unread'
    obtain ⟨v, t, t', hrun, hrun', halike⟩ :=
      Replay.run_apace (.ofNaming naming) s.limit _ rfl hsame
        (Replay.length_lt_lineBound habreast.unread) (Replay.length_lt_lineBound habreast.unread')
        hstart
    simp only [hr, hr', hrun, hrun']
    exact Replay.finish_alike Host.SameButLines.similarity Host.SameButLines.respects v halike

/-- The lines of the queue in another frame. -/
def framedText : String :=
  "\r\n  nothing\r\n\t[0,\"\",\"\",\"shop\",\"\",\"/items/7\",5,true,200,\"http\",\"server\"] \n" ++
  "nothing\u3000\n\x7b\"start_time\":0,\"source_service_name\":\"a\"\x7d\r\n\n"

theorem replay_framing_queue :
    Text.entriesOf framedText.toList = Text.entriesOf queueText.toList ∧
      ∃ d, queueSettings.Supplies queueText framedText d [] (queueHost queueText) []
          (queueHost framedText) ∧
        let r := queueSettings.replay [] Replay.going (queueHost queueText)
        let r' := queueSettings.replay [] Replay.going (queueHost framedText)
        r'.1 = r.1 ∧ Host.SameButLines d r.2 r'.2 := by
  have hsame : Text.entriesOf framedText.toList = Text.entriesOf queueText.toList := by
    decide +kernel
  have hinput : queueSettings.Supplies queueText framedText
      (some (["in.jsonl"], .ofBytes (Text.encode queueText), .ofBytes (Text.encode framedText))) []
      (queueHost queueText) [] (queueHost framedText) := by
    refine .file [] (by decide) rfl (Content.bytes_ofBytes _) (Content.bytes_ofBytes _) ?_
    have hopen : queueSettings.openReceivers (queueHost queueText) =
        (.ok shopOutputs, (queueSettings.openReceivers (queueHost queueText)).2) := rfl
    intro outputs h1 ho
    cases hopen.symm.trans ho
    refine ⟨by decide, fun loc' hread => ?_⟩
    cases hread
    rfl
  exact ⟨hsame, _, hinput, replay_framing hsame hinput⟩

/-- A blank line behind the record that reaches the limit is noted in the log, as a line is read
that is not looked at. -/
theorem replay_framing_limit :
    let s : ReplaySettings := ⟨.empty, "-", some 1⟩
    let host : Host := .withStore (.initial [])
    let text := "\x7b\"start_time\":0\x7d\n"
    let text' := text ++ "\n"
    Text.entriesOf text'.toList = Text.entriesOf text.toList ∧
      s.Supplies text text' none (Text.encode text) host (Text.encode text') host ∧
      (s.replay (Text.encode text') Replay.going host).2.events.map Event.unnumbered ≠
        (s.replay (Text.encode text) Replay.going host).2.events.map Event.unnumbered := by
  intro s host text text'
  exact ⟨by decide +kernel, .stdin host rfl, by decide +kernel⟩

end ReplaySettings
end MeshTelemetry
