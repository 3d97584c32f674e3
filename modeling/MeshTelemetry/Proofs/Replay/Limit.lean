import MeshTelemetry.Proofs.Replay.Input
import MeshTelemetry.Proofs.Replay.Written

/-!
# MeshTelemetry.Proofs.Replay.Limit

A replay with a limit is the replay of the first lines of its input, up to the record that reaches
the limit.

* `IsLeading`: the shortest front of a list of lines that holds so many records; `leading`.
* `Replay.Lockstep`: the invariant of the two replays between two lines; `Replay.Lockstep.advance`:
  its step; `Replay.run_lockstep`: the runs.
* `ReplaySettings.replay_limit`: the replays as a whole.
-/

namespace MeshTelemetry

/-- The shortest front of a list of lines that holds `n` records, or all lines if there are fewer
records in them. -/
structure IsLeading (n : Nat) (lines front : List (List Char)) : Prop where
  within : front <+: lines
  enough : n ≤ (front.filterMap recordOf?).length ∨ front = lines
  shortest : ∀ shorter, shorter <+: front → n ≤ (shorter.filterMap recordOf?).length →
    shorter = front

def leading : Nat → List (List Char) → List (List Char)
  | 0, _ => []
  | _ + 1, [] => []
  | n + 1, line :: rest => line :: leading (if (recordOf? line).isSome then n else n + 1) rest

theorem isLeading_zero (lines : List (List Char)) : IsLeading 0 lines [] :=
  ⟨List.nil_prefix, .inl (Nat.zero_le _), fun _ h _ => List.prefix_nil.mp h⟩

theorem IsLeading.unique {n : Nat} {lines front front' : List (List Char)}
    (h : IsLeading n lines front) (h' : IsLeading n lines front') : front = front' := by
  -- the shorter one of both holds enough records already, or is all there is
  have hle : ∀ {front front'}, IsLeading n lines front → IsLeading n lines front' →
      front <+: front' → front = front' := by
    intro front front' h h' hprefix
    rcases h.enough with henough | hall
    · exact h'.shortest front hprefix henough
    · exact hprefix.eq_of_length_le (hall ▸ h'.within.length_le)
  rcases List.prefix_or_prefix_of_prefix h.within h'.within with hprefix | hprefix
  · exact hle h h' hprefix
  · exact (hle h' h hprefix).symm

theorem filterMap_cons_length (line : List Char) (lines : List (List Char)) :
    ((line :: lines).filterMap recordOf?).length =
      (recordOf? line).toList.length + (lines.filterMap recordOf?).length := by
  cases h : recordOf? line <;> simp [h, Nat.add_comm]

theorem IsLeading.cons {n : Nat} {line : List Char} {rest front : List (List Char)} (hn : 0 < n)
    (h : IsLeading (n - (recordOf? line).toList.length) rest front) :
    IsLeading n (line :: rest) (line :: front) where
  within := (List.prefix_cons_inj line).mpr h.within
  enough := by
    rw [filterMap_cons_length]
    rcases h.enough with henough | hall
    · exact .inl (by omega)
    · exact .inr (by rw [hall])
  shortest shorter hprefix henough := by
    cases shorter with
    | nil => exact absurd henough (Nat.not_le_of_lt hn)
    | cons first shorter =>
      obtain ⟨rfl, hbehind⟩ := List.cons_prefix_cons.mp hprefix
      rw [filterMap_cons_length] at henough
      rw [h.shortest shorter hbehind (by omega)]

theorem leading_isLeading (n : Nat) (lines : List (List Char)) :
    IsLeading n lines (leading n lines) := by
  induction lines generalizing n with
  | nil =>
    have hnil : leading n [] = [] := by cases n <;> rfl
    rw [hnil]
    exact ⟨List.nil_prefix, .inr rfl, fun _ h _ => List.prefix_nil.mp h⟩
  | cons line rest ih =>
    cases n with
    | zero => exact isLeading_zero _
    | succ n =>
      refine .cons (Nat.succ_pos n) ?_
      cases h : recordOf? line with
      | none => simpa [leading, h] using ih (n + 1)
      | some m => simpa [leading, h] using ih n

theorem IsLeading.cases {n : Nat} {lines front : List (List Char)} (h : IsLeading n lines front) :
    (front = [] ∧ (n = 0 ∨ lines = [])) ∨
      ∃ line rest front', lines = line :: rest ∧ front = line :: front' ∧ 0 < n ∧
        IsLeading (n - (recordOf? line).toList.length) rest front' := by
  rw [h.unique (leading_isLeading n lines)]
  cases lines with
  | nil => exact .inl ⟨by cases n <;> rfl, .inr rfl⟩
  | cons line rest =>
    cases n with
    | zero => exact .inl ⟨rfl, .inl rfl⟩
    | succ n =>
      refine .inr ⟨line, rest, _, rfl, rfl, Nat.succ_pos n, ?_⟩
      cases h : recordOf? line with
      | none => simpa [h] using leading_isLeading (n + 1) rest
      | some m => simpa [h] using leading_isLeading n rest

/-- The entry of the log with which a replay says that it has come to its limit. -/
def Event.isLimitNote (e : Event) : Bool :=
  e.component = .replay && e.message = "Reached record limit"

/-- The hosts differ in what the input file holds, and in whether it was logged that the limit was
reached. -/
abbrev Host.SameButInput (d : Difference) : Host → Host → Prop := Host.Alike (!·.isLimitNote) d

namespace Replay

/-- The invariant of a replay `r` up to `n` records and a replay `r'` without a limit: the text that
is left for `r'` is the front of the text that is left for `r`, up to the record that reaches the
limit. -/
structure Lockstep (d : Difference) (n : Nat) (text text' : List Char) (r r' : Replay) : Prop where
  alike : r.Alike (Host.SameButInput d) (Output.WritesTo d.Spares) r'
  lines : r'.lines = r.lines
  unread : r.feed.unread r.host.store = .ok (Text.encode (String.ofList text))
  unread' : r'.feed.unread r'.host.store = .ok (Text.encode (String.ofList text'))
  origin : r.feed.ReadsFrom d
  origin' : r'.feed.ReadsFrom d
  front : IsLeading (n - r.progress.recordsRead) (Text.linesOf text) (Text.linesOf text')

variable {d : Difference} {n : Nat} {text text' : List Char} {r r' : Replay}

/-- Both replays read a line, and stay in lockstep unless it crashes them. -/
theorem Lockstep.takeLine {c : Collaborators} {line rest rest' : List Char} {feed feed' : Feed}
    (h : r.Lockstep d n text text' r') (hbelow : r.progress.recordsRead < n)
    (horigin : feed.origin = r.feed.origin) (horigin' : feed'.origin = r'.feed.origin)
    (hunread : feed.unread r.host.store = .ok (Text.encode (String.ofList rest)))
    (hunread' : feed'.unread r'.host.store = .ok (Text.encode (String.ofList rest')))
    (hfront : IsLeading (n - r.progress.recordsRead - (recordOf? line).toList.length)
      (Text.linesOf rest) (Text.linesOf rest')) :
    let s := ({ r with feed, lines := r.lines + 1 } : Replay).takeLine c (some n)
      (String.ofList line)
    let s' := ({ r' with feed := feed', lines := r'.lines + 1 } : Replay).takeLine c none
      (String.ofList line)
    s'.1 = s.1 ∧ s.2.Lockstep d n rest rest' s'.2 := by
  intro s s'
  have hlimit : ({ r with feed, lines := r.lines + 1 } : Replay).isAtLimit (some n) = false :=
    decide_eq_false (Nat.not_le_of_lt hbelow)
  have hlimit' : ({ r' with feed := feed', lines := r'.lines + 1 } : Replay).isAtLimit none =
      false := rfl
  have halike : ({ r with feed, lines := r.lines + 1 } : Replay).Alike (Host.SameButInput d)
      (Output.WritesTo d.Spares) { r' with feed := feed', lines := r'.lines + 1 } :=
    ⟨h.alike.progress, h.alike.interrupted, h.alike.dispatcher, h.alike.all, h.alike.hosts⟩
  have hnotes : Notes (Host.SameButInput d) (r.lines + 1) (r'.lines + 1) := by
    rw [h.lines]
    exact notes_self Host.Alike.similarity _
  obtain ⟨hverdict, hafter⟩ := takeLine_alike Host.Alike.similarity Host.Alike.respects c
    (String.ofList line) hlimit hlimit' hnotes halike
  obtain ⟨hfeed, hlines, hread⟩ := takeLine_frame c line hlimit
  obtain ⟨hfeed', hlines', -⟩ := takeLine_frame c line hlimit'
  have hreads : feed.ReadsFrom d := h.origin.congr horigin
  have hreads' : feed'.ReadsFrom d := h.origin'.congr horigin'
  refine ⟨hverdict, hafter, ?_, ?_, ?_, ?_, ?_, ?_⟩
  · rw [hlines, hlines', h.lines]
  · rw [hfeed]
    exact (Feed.unread_alike h.alike.hosts.store hafter.hosts.store hreads).1.trans hunread
  · rw [hfeed']
    exact (Feed.unread_alike h.alike.hosts.store hafter.hosts.store hreads').2.trans hunread'
  · rw [hfeed]
    exact hreads
  · rw [hfeed']
    exact hreads'
  · rw [hread, Nat.sub_add_eq]
    exact hfront

/-- What one step of both replays leads to: both end, in the same way, or both have read a line. -/
inductive Advance (d : Difference) (n : Nat) (text text' : List Char) :
    Verdict × Replay → Verdict × Replay → Prop
  | ended (v : Verdict) {s s' : Replay} (hv : v ≠ .next)
      (h : s.Alike (Host.SameButInput d) (Output.WritesTo d.Spares) s') :
      Advance d n text text' (v, s) (v, s')
  | next {rest rest' : List Char} {s s' : Replay} (hlt : rest.length < text.length)
      (hlt' : rest'.length < text'.length) (h : s.Lockstep d n rest rest' s') :
      Advance d n text text' (.next, s) (.next, s')

theorem Lockstep.finish {c : Collaborators} {isStopped : Nat → Bool}
    (h : r.Lockstep d n text text' r') (hstop : isStopped r.lines = false)
    (hnone : Text.linesOf text' = [])
    (hwhy : n - r.progress.recordsRead = 0 ∨ Text.linesOf text = []) :
    Advance d n text text' (r.advance c (some n) isStopped) (r'.advance c none isStopped) := by
  obtain rfl := Text.linesBy_eq_nil hnone
  obtain ⟨feed', hadvance'⟩ : ∃ feed', r'.advance c none isStopped =
      (.finished, { r' with feed := feed' }) := by
    rcases advance_lines c none isStopped (h.lines ▸ hstop) h.unread' with
      ⟨-, hend⟩ | ⟨_, _, _, _, _, _, hlt, -⟩
    · exact hend
    · exact absurd hlt (Nat.not_lt_zero _)
  rcases advance_lines c (some n) isStopped hstop h.unread with
    ⟨-, feed, hadvance⟩ | ⟨line, rest, feed, hadvance, -, -, -, hlines⟩
  · rw [hadvance, hadvance']
    exact .ended .finished (by decide) ⟨h.alike.progress, h.alike.interrupted, h.alike.dispatcher,
      h.alike.all, h.alike.hosts⟩
  · have hlimit : ({ r with feed, lines := r.lines + 1 } : Replay).isAtLimit (some n) = true := by
      rcases hwhy with hzero | hnil
      · exact decide_eq_true (Nat.le_of_sub_eq_zero hzero)
      · rw [hnil] at hlines
        cases hlines
    rw [hadvance, hadvance', Replay.takeLine, if_pos hlimit]
    exact .ended .finished (by decide) ⟨h.alike.progress, h.alike.interrupted, h.alike.dispatcher,
      h.alike.all, h.alike.hosts.log_left rfl⟩

theorem Lockstep.advance (c : Collaborators) (isStopped : Nat → Bool)
    (h : r.Lockstep d n text text' r') :
    Advance d n text text' (r.advance c (some n) isStopped) (r'.advance c none isStopped) := by
  cases hstop : isStopped r.lines with
  | true =>
    have hstop' : isStopped r'.lines = true := h.lines ▸ hstop
    simp only [Replay.advance, hstop, hstop', if_true]
    refine .ended .finished (by decide) ⟨h.alike.progress, rfl, h.alike.dispatcher, h.alike.all, ?_⟩
    simp only [log, lineField, h.lines]
    exact Host.Alike.similarity.log _ _ _ _ h.alike.hosts
  | false =>
    rcases h.front.cases with ⟨hnone, hwhy⟩ | ⟨line, rest, front, hlines, hlines', hpos, hfront⟩
    · exact h.finish hstop hnone hwhy
    · -- both texts begin with the same line
      rcases advance_lines c (some n) isStopped hstop h.unread with
        ⟨rfl, -⟩ | ⟨line1, rest1, feed, hadvance, horigin, hunread, hlt, hcut⟩
      · cases hlines
      rcases advance_lines c none isStopped (h.lines ▸ hstop) h.unread' with
        ⟨rfl, -⟩ | ⟨line2, rest2, feed', hadvance', horigin', hunread', hlt', hcut'⟩
      · cases hlines'
      rw [hlines, List.cons.injEq] at hcut
      rw [hlines', List.cons.injEq] at hcut'
      obtain ⟨rfl, rfl⟩ := hcut
      obtain ⟨rfl, rfl⟩ := hcut'
      obtain ⟨hverdict, hnext⟩ := h.takeLine (c := c) (Nat.lt_of_sub_pos hpos) horigin horigin'
        hunread hunread' hfront
      rw [hadvance, hadvance']
      generalize Replay.takeLine c (some n) _ _ = s at hverdict hnext ⊢
      generalize Replay.takeLine c none _ _ = s' at hverdict hnext ⊢
      obtain ⟨v, s⟩ := s
      obtain ⟨v', s'⟩ := s'
      obtain rfl : v' = v := hverdict
      by_cases hv : v' = .next
      · subst hv
        exact .next hlt hlt' hnext
      · exact .ended v' hv hnext.alike

/-- Replays in lockstep end in the same way, by induction on the lines that may still be read. -/
theorem run_lockstep (c : Collaborators) (isStopped : Nat → Bool) (fuel : Nat) :
    ∀ {fuel' : Nat} {text text' : List Char} {r r' : Replay}, text.length < fuel →
      text'.length < fuel' → r.Lockstep d n text text' r' →
      ∃ v s s', r.run c (some n) isStopped fuel = (v, s) ∧ r'.run c none isStopped fuel' = (v, s') ∧
        s.Alike (Host.SameButInput d) (Output.WritesTo d.Spares) s' := by
  induction fuel with
  | zero => exact fun hfuel => absurd hfuel (Nat.not_lt_zero _)
  | succ fuel ih =>
    intro fuel' text text' r r' hfuel hfuel' h
    obtain ⟨fuel', rfl⟩ := Nat.exists_eq_add_one_of_ne_zero (Nat.ne_zero_of_lt hfuel')
    have hstep := h.advance c isStopped
    generalize ha : r.advance c (some n) isStopped = a at hstep
    generalize ha' : r'.advance c none isStopped = a' at hstep
    cases hstep with
    | ended v hv halike => exact ⟨v, _, _, run_ended ha hv fuel, run_ended ha' hv fuel', halike⟩
    | next hlt hlt' hnext =>
      rw [run, run, ha, ha']
      exact ih (by omega) (by omega) hnext

end Replay

namespace Text

theorem cut?_behind {sep : Char} {cs before behind : List Char}
    (h : cut? sep cs = some (before, behind)) (other : List Char) :
    cut? sep (before ++ sep :: other) = some (before, other) := by
  induction cs generalizing before with
  | nil => cases h
  | cons c cs ih =>
    simp only [cut?] at h
    split at h
    · cases h
      simp [cut?]
    · next hc =>
      obtain ⟨⟨b, r⟩, hcut, heq⟩ := Option.map_eq_some_iff.mp h
      cases heq
      simp [cut?, hc, ih hcut]

theorem linesOf_flatten {front : List (List Char)} : ∀ {cs : List Char},
    front <+: linesOf cs → linesOf front.flatten = front := by
  induction front with
  | nil => exact fun _ => rfl
  | cons line front ih =>
    intro cs h
    rw [linesOf_cut] at h
    cases hcut : cut? '\n' cs with
    | some cut =>
      obtain ⟨before, behind⟩ := cut
      rw [hcut] at h
      obtain ⟨rfl, hbehind⟩ := List.cons_prefix_cons.mp h
      rw [linesOf_cut, List.flatten_cons, List.append_assoc, List.singleton_append,
        cut?_behind hcut]
      simp only [ih hbehind]
    | none =>
      rw [hcut] at h
      by_cases hempty : cs.isEmpty
      · rw [if_pos hempty] at h
        cases List.prefix_nil.mp h
      · rw [if_neg hempty] at h
        obtain ⟨rfl, hnil⟩ := List.cons_prefix_cons.mp h
        obtain rfl := List.prefix_nil.mp hnil
        rw [linesOf_cut, List.flatten_cons, List.flatten_nil, List.append_nil, hcut]
        exact if_neg hempty

end Text

namespace ReplaySettings

/-- The input is `text` for a replay from `stdin` on `h`, and `text'` for one from `stdin'` on `h'`;
besides that both start from the same. An input file is none that a receiver writes to. -/
inductive Supplies (s : ReplaySettings) (text text' : String) :
    Difference → Bytes → Host → Bytes → Host → Prop
  | stdin (h : Host) (hs : s.input = "-") :
      Supplies s text text' none (Text.encode text) h (Text.encode text') h
  | file (stdin : Bytes) {h : Host} {loc : Location} {c c' : Content} (hs : s.input ≠ "-")
      (hc : h.store.node? loc = some (.file c)) (hbytes : c.bytes = Text.encode text)
      (hbytes' : c'.bytes = Text.encode text')
      (hopen : ∀ outputs h1, s.openReceivers h = (.ok outputs, h1) →
        loc ∉ Output.locations outputs ∧
          ∀ loc', h1.store.openRead s.input = .ok loc' → loc' = loc) :
      Supplies s text text' (some (loc, c, c')) stdin h stdin
        { h with store := h.store.put loc (.file c') }

variable {s : ReplaySettings} {text text' : String} {d : Difference} {stdin stdin' : Bytes}
  {h h' : Host}

theorem Supplies.feeds (hinput : s.Supplies text text' d stdin h stdin' h') :
    s.Feeds (Text.encode text) (Text.encode text') d stdin h stdin' h' := by
  cases hinput with
  | stdin h hs => exact .stdin h hs
  | file stdin hs hc hbytes hbytes' hopen => exact .file stdin hs hc hbytes hbytes' hopen

theorem Supplies.alike (hinput : s.Supplies text text' d stdin h stdin' h') :
    Host.SameButInput d h h' := hinput.feeds.alike

theorem Supplies.spares (hinput : s.Supplies text text' d stdin h stdin' h') {h1 : Host}
    {outputs : List Output} (ho : s.openReceivers h = (.ok outputs, h1)) :
    ∀ loc ∈ Output.locations outputs, d.Spares loc := hinput.feeds.spares ho

theorem Supplies.openInput (hinput : s.Supplies text text' d stdin h stdin' h') {h1 h1' : Host}
    {outputs : List Output} (ho : s.openReceivers h = (.ok outputs, h1))
    (h1alike : Store.Alike d h1.store h1'.store) :
    Except.Both (fun feed feed' => feed.unread h1.store = .ok (Text.encode text) ∧
        feed'.unread h1'.store = .ok (Text.encode text') ∧ feed.ReadsFrom d ∧ feed'.ReadsFrom d)
      (s.openInput stdin h1.store) (s.openInput stdin' h1'.store) :=
  hinput.feeds.openInput ho h1alike

end ReplaySettings

theorem Replay.length_lt_lineBound {f : Feed} {s : Store} {text : String}
    (h : f.unread s = .ok (Text.encode text)) : text.toList.length < lineBound f s :=
  Nat.lt_of_le_of_lt (Text.length_le_encode text) (bytes_lt_lineBound h)

namespace ReplaySettings

/-- A replay up to `n` records is the replay without a limit of the shortest front of the lines of
its input that holds `n` records: it has the same outcome, which is a report or an error, and leaves
the same host behind. -/
theorem replay_limit {s : ReplaySettings} {n : Nat} (hlimit : s.limit = some n) {text : String}
    {front : List (List Char)} (hfront : IsLeading n (Text.linesOf text.toList) front)
    {d : Difference} {stdin stdin' : Bytes} {h h' : Host}
    (hinput : s.Supplies text (String.ofList front.flatten) d stdin h stdin' h')
    (isStopped : Nat → Bool) :
    let r := s.replay stdin isStopped h
    let r' := { s with limit := none }.replay stdin' isStopped h'
    r'.1 = r.1 ∧ Host.SameButInput d r.2 r'.2 := by
  obtain ⟨answer, h1, h1', ho, ho', hh1⟩ := s.openReceivers_alike hinput.alike
  have ho'' : { s with limit := none }.openReceivers h' = (answer, h1') := ho'
  simp only [replay, ho, ho'', hlimit]
  cases answer with
  | error e => exact ⟨rfl, hh1⟩
  | ok outputs =>
    cases Naming.ofServices s.config.services with
    | error v => exact ⟨rfl, hh1⟩
    | ok naming =>
      simp only
      generalize hready : h1.log .info .replay "Dispatcher ready" _ = h2
      generalize hready' : h1'.log .info .replay "Dispatcher ready" _ = h2'
      have hh2 : Host.SameButInput d h2 h2' := by
        rw [← hready, ← hready']
        exact Host.Alike.similarity.log _ _ _ _ hh1
      have hstore : h2.store = h1.store := hready ▸ rfl
      have hstore' : h2'.store = h1'.store := hready' ▸ rfl
      have hopened := hinput.openInput ho hh1.store
      rw [← hstore, ← hstore'] at hopened
      have hopen' : { s with limit := none }.openInput stdin' h2'.store =
          s.openInput stdin' h2'.store := rfl
      rw [hopen']
      rcases hopened.cases with
        ⟨e, he, he'⟩ | ⟨feed, feed', hf, hf', hunread, hunread', hreads, hreads'⟩
      · rw [he, he']
        exact ⟨rfl, hh2⟩
      · simp only [hf, hf']
        have hstart : Replay.Lockstep d n text.toList front.flatten
            ⟨feed, 0, .none, false, ⟨Output.setOf outputs, .metered⟩, h2⟩
            ⟨feed', 0, .none, false, ⟨Output.setOf outputs, .metered⟩, h2'⟩ := by
          refine ⟨⟨rfl, rfl, rfl, Output.all_setOf (hinput.spares ho), hh2⟩, rfl, ?_, hunread',
            hreads, hreads', ?_⟩
          · rwa [String.ofList_toList]
          · rwa [Text.linesOf_flatten hfront.within]
        have hfuel := Replay.length_lt_lineBound hunread
        have hfuel' := Replay.length_lt_lineBound hunread'
        rw [String.toList_ofList] at hfuel'
        obtain ⟨v, r, r', hr, hr', halike⟩ :=
          Replay.run_lockstep (.ofNaming naming) isStopped _ hfuel hfuel' hstart
        rw [hr, hr']
        exact Replay.finish_alike Host.Alike.similarity Host.Alike.respects v halike

/-- The shop with its input in a file, of which one record is read. -/
def queueSettings : ReplaySettings := { shopSettings with input := "in.jsonl", limit := some 1 }

/-- A record between lines that are none, and one more behind them. -/
def queueText : String :=
  "nothing\n[0,\"\",\"\",\"shop\",\"\",\"/items/7\",5,true,200,\"http\",\"server\"]\n" ++
  "\nnothing\n\x7b\"start_time\":0,\"source_service_name\":\"a\"\x7d"

/-- What of it is read. -/
def queueFront : String :=
  "nothing\n[0,\"\",\"\",\"shop\",\"\",\"/items/7\",5,true,200,\"http\",\"server\"]\n"

def queueHost (text : String) : Host :=
  .withStore ((Store.initial []).put ["in.jsonl"] (.file (.ofBytes (Text.encode text))))

theorem replay_limit_queue :
    queueSettings.limit = some 1 ∧
      IsLeading 1 (Text.linesOf queueText.toList) (Text.linesOf queueFront.toList) ∧
      String.ofList (Text.linesOf queueFront.toList).flatten = queueFront ∧
      ∃ d, queueSettings.Supplies queueText queueFront d [] (queueHost queueText) []
          (queueHost queueFront) ∧
        let r := queueSettings.replay [] (fun _ => false) (queueHost queueText)
        let r' := { queueSettings with limit := none }.replay [] (fun _ => false)
          (queueHost queueFront)
        r'.1 = r.1 ∧ Host.SameButInput d r.2 r'.2 := by
  have hfront : IsLeading 1 (Text.linesOf queueText.toList) (Text.linesOf queueFront.toList) := by
    have heq : Text.linesOf queueFront.toList = leading 1 (Text.linesOf queueText.toList) := by
      decide +kernel
    rw [heq]
    exact leading_isLeading 1 _
  have htext : String.ofList (Text.linesOf queueFront.toList).flatten = queueFront := by
    decide +kernel
  have hinput : queueSettings.Supplies queueText queueFront
      (some (["in.jsonl"], .ofBytes (Text.encode queueText), .ofBytes (Text.encode queueFront))) []
      (queueHost queueText) [] (queueHost queueFront) := by
    refine .file [] (by decide) rfl (Content.bytes_ofBytes _) (Content.bytes_ofBytes _) ?_
    have hopen : queueSettings.openReceivers (queueHost queueText) =
        (.ok shopOutputs, (queueSettings.openReceivers (queueHost queueText)).2) := rfl
    intro outputs h1 ho
    cases hopen.symm.trans ho
    refine ⟨by decide, fun loc' hread => ?_⟩
    cases hread
    rfl
  refine ⟨rfl, hfront, htext, _, hinput, ?_⟩
  exact replay_limit rfl hfront (by rwa [htext]) fun _ => false

end ReplaySettings

end MeshTelemetry
