import MeshTelemetry.Proofs.Replay.Alike
import MeshTelemetry.Proofs.Replay.Lines

/-!
# MeshTelemetry.Proofs.Replay.Input

Two replays with the same settings whose inputs differ. As long as both have the same line before
them, they do the same.

* `ReplaySettings.Feeds`: the inputs; `ReplaySettings.Feeds.start`: both replays before the first
  line.
* `Replay.Abreast`: two replays between two lines; `Replay.Abreast.advance`: both read the same
  line.
* `Replay.run_abreast`: they end in the same way if the same is left to be read.
-/

namespace MeshTelemetry

namespace Feed

/-- The feed reads what hosts differ in, or no file at all. -/
def ReadsFrom (d : Difference) (f : Feed) : Prop :=
  ∀ loc, f.origin = some loc → ∃ c c', d = some (loc, c, c')

theorem readsFrom_ofBytes (d : Difference) (bytes : Bytes) : (ofBytes bytes).ReadsFrom d := by
  rintro loc ⟨⟩

theorem ReadsFrom.congr {d : Difference} {f f' : Feed} (h : f.ReadsFrom d)
    (horigin : f'.origin = f.origin) : f'.ReadsFrom d := by
  rw [ReadsFrom, horigin]
  exact h

variable {d : Difference} {s s' s1 s1' : Store} {f : Feed}

theorem unread_alike (h : Store.Alike d s s') (h1 : Store.Alike d s1 s1') (hf : f.ReadsFrom d) :
    f.unread s1 = f.unread s ∧ f.unread s1' = f.unread s' := by
  constructor
  · refine unread_congr fun loc hloc => ?_
    obtain ⟨c, c', hd⟩ := hf loc hloc
    rw [Store.content_file (h.here loc c c' hd).1, Store.content_file (h1.here loc c c' hd).1]
  · refine unread_congr fun loc hloc => ?_
    obtain ⟨c, c', hd⟩ := hf loc hloc
    rw [Store.content_file (h.here loc c c' hd).2, Store.content_file (h1.here loc c c' hd).2]

theorem cutLine_eq {bytes line rest : Bytes} (h : cutLine bytes = some (line, rest)) :
    line ++ rest = bytes ∧ line ≠ [] := by
  induction bytes generalizing line with
  | nil => cases h
  | cons b bytes ih =>
    rw [cutLine_cons] at h
    split at h
    · cases h
      exact ⟨rfl, List.cons_ne_nil b []⟩
    · obtain ⟨⟨l, r⟩, hcut, heq⟩ := Option.map_eq_some_iff.mp h
      cases heq
      exact ⟨congrArg (b :: ·) (ih hcut).1, List.cons_ne_nil b l⟩

theorem cutLine_behind {bytes line rest : Bytes} (h : cutLine bytes = some (line, rest))
    (other : Bytes) : cutLine (line ++ other) = some (line, other) := by
  induction bytes generalizing line with
  | nil => cases h
  | cons b bytes ih =>
    rw [cutLine_cons] at h
    split at h
    · next hb =>
      cases h
      rw [List.singleton_append, cutLine_cons, if_pos hb]
    · next hb =>
      obtain ⟨⟨l, r⟩, hcut, heq⟩ := Option.map_eq_some_iff.mp h
      cases heq
      rw [List.cons_append, cutLine_cons, if_neg hb, ih hcut]
      rfl

theorem firstLine_behind {bytes line rest : Bytes} (h : firstLine bytes = some (line, rest))
    (hrest : rest ≠ []) (other : Bytes) : firstLine (line ++ other) = some (line, other) := by
  unfold firstLine at h
  split at h
  · next hcut =>
    cases h
    rw [firstLine, cutLine_behind hcut]
  · split at h
    · cases h
    · cases h
      exact absurd rfl hrest

theorem firstLine_length {bytes line rest : Bytes} (h : firstLine bytes = some (line, rest)) :
    rest.length < bytes.length := by
  have hpos : ∀ {line : Bytes}, line ≠ [] → line ++ rest = bytes → rest.length < bytes.length := by
    rintro line hne rfl
    rw [List.length_append]
    have := List.length_pos_iff.mpr hne
    omega
  unfold firstLine at h
  split at h
  · next hcut =>
    cases h
    exact hpos (cutLine_eq hcut).2 (cutLine_eq hcut).1
  · split at h
    · cases h
    · next hne =>
      cases h
      exact hpos (by simpa using hne) (List.append_nil _)

end Feed

namespace Replay

variable {matters : Event → Bool} {d : Difference} {c : Collaborators}
  {isStopped isStopped' : Nat → Bool} {n n' : Nat} {bytes bytes' : Bytes} {r r' : Replay}

/-- Two replays that have come equally far, though behind `n` and `n'` lines, and the bytes that
each has before it. -/
structure Abreast (matters : Event → Bool) (d : Difference) (n n' : Nat) (bytes bytes' : Bytes)
    (r r' : Replay) : Prop where
  alike : r.Alike (Host.Alike matters d) (Output.WritesTo d.Spares) r'
  lines : r.lines = n
  lines' : r'.lines = n'
  unread : r.feed.unread r.host.store = .ok bytes
  unread' : r'.feed.unread r'.host.store = .ok bytes'
  origin : r.feed.ReadsFrom d
  origin' : r'.feed.ReadsFrom d

/-- What a step of both replays leads to: both end in the same way, or both have read a line. They
do not end without a fault while there is a line, unless they are stopped. -/
inductive Stride (matters : Event → Bool) (d : Difference) (n n' : Nat) (bytes bytes' : Bytes)
    (stopped : Bool) : Verdict × Replay → Verdict × Replay → Prop
  | ended (v : Verdict) {s s' : Replay} (hv : v ≠ .next)
      (hend : v = .finished → stopped = true ∨ Feed.firstLine bytes = none)
      (h : s.Alike (Host.Alike matters d) (Output.WritesTo d.Spares) s') :
      Stride matters d n n' bytes bytes' stopped (v, s) (v, s')
  | next {line rest rest' : Bytes} {s s' : Replay}
      (hfirst : Feed.firstLine bytes = some (line, rest))
      (hfirst' : Feed.firstLine bytes' = some (line, rest'))
      (h : s.Abreast matters d (n + 1) (n' + 1) rest rest' s') :
      Stride matters d n n' bytes bytes' stopped (.next, s) (.next, s')

theorem advance_unread (c : Collaborators) (limit : Option Nat) (hstop : isStopped r.lines = false)
    (hunread : r.feed.unread r.host.store = .ok bytes) :
    (Feed.firstLine bytes = none ∧
        ∃ feed, r.advance c limit isStopped = (.finished, { r with feed })) ∨
      ∃ line rest feed, Feed.firstLine bytes = some (line, rest) ∧
        feed.origin = r.feed.origin ∧ feed.unread r.host.store = .ok rest ∧
        r.advance c limit isStopped =
          match Feed.textOf line with
          | .error e => (.failed e, { r with feed })
          | .ok text => ({ r with feed, lines := r.lines + 1 } : Replay).takeLine c limit text := by
  rcases Feed.nextLine_unread hunread with
    ⟨hnone, feed, hf⟩ | ⟨line, rest, feed, hfirst, hf, horigin, hrest⟩
  · refine .inl ⟨hnone, feed, ?_⟩
    simp only [advance, hstop, Bool.false_eq_true, if_false, hf]
  · refine .inr ⟨line, rest, feed, hfirst, horigin, hrest, ?_⟩
    cases htext : Feed.textOf line <;>
      simp only [advance, hstop, Bool.false_eq_true, if_false, hf, htext]

theorem Abreast.takeLine (hnotes : ∀ n n', Notes (Host.Alike matters d) n n') {rest rest' : Bytes}
    (h : r.Abreast matters d n n' rest rest' r') (text : String) :
    let s := r.takeLine c none text
    let s' := r'.takeLine c none text
    s'.1 = s.1 ∧ s.2.Abreast matters d n n' rest rest' s'.2 := by
  intro s s'
  have hlimit : r.isAtLimit none = false := rfl
  have hlimit' : r'.isAtLimit none = false := rfl
  obtain ⟨hverdict, hafter⟩ := takeLine_alike Host.Alike.similarity Host.Alike.respects c text
    hlimit hlimit' (hnotes r.lines r'.lines) h.alike
  obtain ⟨hfeed, hlines, -⟩ := takeLine_frame c text.toList hlimit
  obtain ⟨hfeed', hlines', -⟩ := takeLine_frame c text.toList hlimit'
  rw [String.ofList_toList] at hfeed hlines hfeed' hlines'
  have hsame := Feed.unread_alike h.alike.hosts.store hafter.hosts.store h.origin
  have hsame' := Feed.unread_alike h.alike.hosts.store hafter.hosts.store h.origin'
  refine ⟨hverdict, hafter, hlines.trans h.lines, hlines'.trans h.lines', ?_, ?_, ?_, ?_⟩
  · rw [hfeed]
    exact hsame.1.trans h.unread
  · rw [hfeed']
    exact hsame'.2.trans h.unread'
  · rw [hfeed]
    exact h.origin
  · rw [hfeed']
    exact h.origin'

theorem Abreast.advance (hnotes : ∀ n n', Notes (Host.Alike matters d) n n')
    (h : r.Abreast matters d n n' bytes bytes' r') (hstop : isStopped' n' = isStopped n)
    (hsame : (Feed.firstLine bytes').map Prod.fst = (Feed.firstLine bytes).map Prod.fst) :
    Stride matters d n n' bytes bytes' (isStopped n) (r.advance c none isStopped)
      (r'.advance c none isStopped') := by
  obtain ⟨halike, rfl, rfl, hunread, hunread', horigin, horigin'⟩ := h
  cases hstopped : isStopped r.lines with
  | true =>
    simp only [Replay.advance, hstop, hstopped, if_true]
    refine .ended .finished nofun (fun _ => .inl rfl) ⟨halike.progress, rfl, halike.dispatcher,
      halike.all, ?_⟩
    exact hnotes _ _ _ _ _ halike.hosts
  | false =>
    rw [hstopped] at hstop
    rcases advance_unread c none hstopped hunread with
      ⟨hnone, feed, hadvance⟩ | ⟨line, rest, feed, hfirst, hforigin, hrest, hadvance⟩ <;>
    rcases advance_unread c none hstop hunread' with
      ⟨hnone', feed', hadvance'⟩ | ⟨line', rest', feed', hfirst', hforigin', hrest', hadvance'⟩
    · rw [hadvance, hadvance']
      exact .ended .finished nofun (fun _ => .inr hnone)
        ⟨halike.progress, halike.interrupted, halike.dispatcher, halike.all, halike.hosts⟩
    · rw [hnone, hfirst'] at hsame
      cases hsame
    · rw [hfirst, hnone'] at hsame
      cases hsame
    · rw [hfirst, hfirst'] at hsame
      cases hsame
      rw [hadvance, hadvance']
      cases Feed.textOf line with
      | error e =>
        exact .ended (.failed e) nofun nofun
          ⟨halike.progress, halike.interrupted, halike.dispatcher, halike.all, halike.hosts⟩
      | ok text =>
        have hread : ({ r with feed, lines := r.lines + 1 } : Replay).Abreast matters d
            (r.lines + 1) (r'.lines + 1) rest rest'
            { r' with feed := feed', lines := r'.lines + 1 } :=
          ⟨⟨halike.progress, halike.interrupted, halike.dispatcher, halike.all, halike.hosts⟩,
            rfl, rfl, hrest, hrest', horigin.congr hforigin, horigin'.congr hforigin'⟩
        obtain ⟨hverdict, hnext⟩ := hread.takeLine (c := c) hnotes text
        simp only
        generalize hs : Replay.takeLine c none text { r with feed, lines := r.lines + 1 } = s
          at hverdict hnext ⊢
        generalize Replay.takeLine c none text { r' with feed := feed', lines := r'.lines + 1 } = s'
          at hverdict hnext ⊢
        obtain ⟨v, s⟩ := s
        obtain ⟨v', s'⟩ := s'
        obtain rfl : v' = v := hverdict
        by_cases hv : v' = .next
        · subst hv
          exact .next hfirst hfirst' hnext
        · refine .ended v' hv (fun hfinished => ?_) hnext.alike
          rw [hfinished, ← String.ofList_toList (s := text)] at hs
          cases isAtLimit_of_finished text.toList hs

/-- Replays with the same bytes before them end in the same way, by induction on the lines that may
still be read. -/
theorem run_abreast (hnotes : ∀ n n', Notes (Host.Alike matters d) n n') (fuel : Nat) :
    ∀ {fuel' n n' : Nat} {bytes : Bytes} {r r' : Replay}, bytes.length < fuel →
      bytes.length < fuel' → (∀ k, isStopped' (n' + k) = isStopped (n + k)) →
      r.Abreast matters d n n' bytes bytes r' →
      ∃ v s s', r.run c none isStopped fuel = (v, s) ∧ r'.run c none isStopped' fuel' = (v, s') ∧
        s.Alike (Host.Alike matters d) (Output.WritesTo d.Spares) s' := by
  induction fuel with
  | zero => exact fun hfuel => absurd hfuel (Nat.not_lt_zero _)
  | succ fuel ih =>
    intro fuel' n n' bytes r r' hfuel hfuel' hstop h
    obtain ⟨fuel', rfl⟩ := Nat.exists_eq_add_one_of_ne_zero (Nat.ne_zero_of_lt hfuel')
    have hstride := h.advance (c := c) hnotes (hstop 0) rfl
    generalize ha : r.advance c none isStopped = a at hstride
    generalize ha' : r'.advance c none isStopped' = a' at hstride
    cases hstride with
    | ended v hv _ halike => exact ⟨v, _, _, run_ended ha hv fuel, run_ended ha' hv fuel', halike⟩
    | next hfirst hfirst' hnext =>
      cases hfirst.symm.trans hfirst'
      have hlt := Feed.firstLine_length hfirst
      rw [run, run, ha, ha']
      refine ih (by omega) (by omega) (fun k => ?_) hnext
      rw [Nat.add_assoc, Nat.add_assoc]
      exact hstop (1 + k)

theorem bytes_lt_lineBound {f : Feed} {s : Store} (h : f.unread s = .ok bytes) :
    bytes.length < lineBound f s := by
  rw [lineBound, Feed.remaining_of_unread h]
  exact Nat.lt_add_of_pos_right (by decide)

end Replay

namespace ReplaySettings

/-- The input is `bytes` for a replay from `stdin` on `h`, and `bytes'` for one from `stdin'` on
`h'`; besides that both start from the same. An input file is none that a receiver writes to. -/
inductive Feeds (s : ReplaySettings) (bytes bytes' : Bytes) :
    Difference → Bytes → Host → Bytes → Host → Prop
  | stdin (h : Host) (hs : s.input = "-") : Feeds s bytes bytes' none bytes h bytes' h
  | file (stdin : Bytes) {h : Host} {loc : Location} {c c' : Content} (hs : s.input ≠ "-")
      (hc : h.store.node? loc = some (.file c)) (hbytes : c.bytes = bytes)
      (hbytes' : c'.bytes = bytes')
      (hopen : ∀ outputs h1, s.openReceivers h = (.ok outputs, h1) →
        loc ∉ Output.locations outputs ∧
          ∀ loc', h1.store.openRead s.input = .ok loc' → loc' = loc) :
      Feeds s bytes bytes' (some (loc, c, c')) stdin h stdin
        { h with store := h.store.put loc (.file c') }

namespace Feeds

variable {s : ReplaySettings} {bytes bytes' : Bytes} {matters : Event → Bool} {d : Difference}
  {stdin stdin' : Bytes} {h h' : Host}

theorem alike (hinput : s.Feeds bytes bytes' d stdin h stdin' h') : Host.Alike matters d h h' := by
  cases hinput with
  | stdin h hs => exact ⟨⟨rfl, rfl, fun _ _ => rfl, nofun⟩, rfl, rfl⟩
  | @file _ _ loc c c' hs hc hbytes hbytes' hopen =>
    refine ⟨⟨rfl, rfl, fun other hother => ?_, ?_⟩, rfl, rfl⟩
    · rw [Store.node?_put (Store.file_ne_root hc), if_neg]
      rintro rfl
      exact hother c c' rfl
    · rintro _ _ _ ⟨⟩
      exact ⟨hc, by rw [Store.node?_put (Store.file_ne_root hc), if_pos rfl]⟩

theorem spares (hinput : s.Feeds bytes bytes' d stdin h stdin' h') {h1 : Host}
    {outputs : List Output} (ho : s.openReceivers h = (.ok outputs, h1)) :
    ∀ loc ∈ Output.locations outputs, d.Spares loc := by
  cases hinput with
  | stdin h hs => exact fun _ _ => nofun
  | file stdin hs hc hbytes hbytes' hopen =>
    rintro loc hloc _ _ ⟨⟩
    exact (hopen outputs h1 ho).1 hloc

/-- Either the input cannot be opened, for the same reason, or both replays have their bytes before
them. -/
theorem openInput (hinput : s.Feeds bytes bytes' d stdin h stdin' h') {h1 h1' : Host}
    {outputs : List Output} (ho : s.openReceivers h = (.ok outputs, h1))
    (h1alike : Store.Alike d h1.store h1'.store) :
    Except.Both (fun feed feed' => feed.unread h1.store = .ok bytes ∧
        feed'.unread h1'.store = .ok bytes' ∧ feed.ReadsFrom d ∧ feed'.ReadsFrom d)
      (s.openInput stdin h1.store) (s.openInput stdin' h1'.store) := by
  cases hinput with
  | stdin h hs =>
    rw [ReplaySettings.openInput, ReplaySettings.openInput, if_pos hs, if_pos hs]
    exact ⟨Feed.unread_ofBytes _ _, Feed.unread_ofBytes _ _, Feed.readsFrom_ofBytes _ _,
      Feed.readsFrom_ofBytes _ _⟩
  | @file _ _ loc c c' hs hc hbytes hbytes' hopen =>
    rw [ReplaySettings.openInput, ReplaySettings.openInput, if_neg hs, if_neg hs,
      h1alike.openRead]
    cases hread : h1.store.openRead s.input with
    | error e => rfl
    | ok loc' =>
      obtain rfl := (hopen outputs h1 ho).2 loc' hread
      obtain ⟨hnode, hnode'⟩ := h1alike.here _ _ _ rfl
      have hreads : (Feed.ofFile loc').ReadsFrom (some (loc', c, c')) := by
        rintro _ ⟨⟩
        exact ⟨c, c', rfl⟩
      refine ⟨?_, ?_, hreads, hreads⟩
      · rw [Feed.unread_ofFile, Store.content_file hnode, hbytes]
      · rw [Feed.unread_ofFile, Store.content_file hnode', hbytes']

/-- Both replays fail before the first line, in the same way, or both come to it. -/
theorem start (hinput : s.Feeds bytes bytes' d stdin h stdin' h') (matters : Event → Bool)
    (isStopped isStopped' : Nat → Bool) :
    (∃ e h1 h1', s.replay stdin isStopped h = (.failed e, h1) ∧
        s.replay stdin' isStopped' h' = (.failed e, h1') ∧ Host.Alike matters d h1 h1') ∨
      ∃ n, ∃ r r' : Replay, r.Abreast matters d 0 0 bytes bytes' r' ∧
        s.replay stdin isStopped h = Replay.finish (r.run (.ofNaming n) s.limit isStopped
          (Replay.lineBound r.feed r.host.store)) ∧
        s.replay stdin' isStopped' h' = Replay.finish (r'.run (.ofNaming n) s.limit isStopped'
          (Replay.lineBound r'.feed r'.host.store)) := by
  have halike : Host.Alike matters d h h' := hinput.alike
  obtain ⟨answer, h1, h1', ho, ho', hh1⟩ := s.openReceivers_alike halike
  simp only [replay, ho, ho']
  cases answer with
  | error e => exact .inl ⟨_, h1, h1', rfl, rfl, hh1⟩
  | ok outputs =>
    cases Naming.ofServices s.config.services with
    | error v => exact .inl ⟨_, h1, h1', rfl, rfl, hh1⟩
    | ok naming =>
      simp only
      generalize hready : h1.log .info .replay "Dispatcher ready" _ = h2
      generalize hready' : h1'.log .info .replay "Dispatcher ready" _ = h2'
      have hh2 : Host.Alike matters d h2 h2' := by
        rw [← hready, ← hready']
        exact Host.Alike.similarity.log _ _ _ _ hh1
      have hstore : h2.store = h1.store := hready ▸ rfl
      have hstore' : h2'.store = h1'.store := hready' ▸ rfl
      have hopened := hinput.openInput ho hh1.store
      rw [← hstore, ← hstore'] at hopened
      rcases hopened.cases with
        ⟨e, he, he'⟩ | ⟨feed, feed', hf, hf', hunread, hunread', hreads, hreads'⟩
      · rw [he, he']
        exact .inl ⟨_, h2, h2', rfl, rfl, hh2⟩
      · rw [hf, hf']
        refine .inr ⟨naming, ⟨feed, 0, .none, false, ⟨Output.setOf outputs, .metered⟩, h2⟩,
          ⟨feed', 0, .none, false, ⟨Output.setOf outputs, .metered⟩, h2'⟩, ?_, rfl, rfl⟩
        exact ⟨⟨rfl, rfl, rfl, Output.all_setOf (hinput.spares ho), hh2⟩, rfl, rfl, hunread,
          hunread', hreads, hreads'⟩

end Feeds
end ReplaySettings
end MeshTelemetry
