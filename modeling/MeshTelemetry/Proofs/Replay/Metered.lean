import MeshTelemetry.Proofs.Receiver.Jammed
import MeshTelemetry.Proofs.Replay.Accounts
import MeshTelemetry.Proofs.Replay.Single

/-!
# MeshTelemetry.Proofs.Replay.Metered

The summary of a replay that ends with a report, and the meters. Both count the sources and the
renamed endpoints of the records that are dispatched. The meters alone count what was done for a
record before it failed: that its endpoint got a name, and that sources were accepted in front of
the one that was refused.

* `Taken`: a record that was read, with what became of it; `Taken.lost`: the sources that only the
  meters count.
* `Dispatcher.Processed`: what processing a record has done; `Dispatcher.process_taken`.
* `Progress.Tells`: the counts that belong to the records; `Replay.metered_tracks`: each line keeps
  them.
* `ReplaySettings.replay_meters`: the report and the meters.
-/

namespace MeshTelemetry

def Metric.isUnbucketed (m : Metric) : Bool := (TimeBucket.ofMillis? m.startTime).isNone

/-- What becomes of a record: it is dispatched, its moment has no time bucket, or one of its sources
is refused, behind those that were accepted and in front of the rest. -/
inductive Fate
  | dispatched
  | unbucketed
  | refused (accepted : List Source) (source : Source) (rest : List Source)

structure Taken where
  record : Metric
  fate : Fate

namespace Taken

variable (name? : String → String → Option String)

/-- The fate is one that the record can have. -/
def Fits (t : Taken) : Prop :=
  match t.fate with
  | .dispatched => t.record.isUnbucketed = false
  | .unbucketed => t.record.isUnbucketed = true
  | .refused accepted source rest => sourcesOf name? t.record = accepted ++ source :: rest

def isDispatched (t : Taken) : Bool :=
  match t.fate with
  | .dispatched => true
  | _ => false

def isRefused (t : Taken) : Bool :=
  match t.fate with
  | .refused _ _ _ => true
  | _ => false

def isRenamed (t : Taken) : Bool := (name? t.record.destService t.record.endpoint).isSome

/-- The sources that the summary counts. -/
def reported (t : Taken) : List Source :=
  match t.fate with
  | .dispatched => sourcesOf name? t.record
  | _ => []

/-- The sources that were accepted, and that the summary does not count. -/
def lost (t : Taken) : List Source :=
  match t.fate with
  | .refused accepted _ _ => accepted
  | _ => []

/-- The summary with this record. -/
def counted (t : Taken) (d : Stats.Dispatched) : Stats.Dispatched :=
  match t.fate with
  | .dispatched =>
    d.recordSuccess t.record.latency ((sourcesOf name? t.record).map Source.kind)
      (t.isRenamed name?)
  | _ => d.recordFailure

variable {name? : String → String → Option String}

theorem counted_failed (t : Taken) (d : Stats.Dispatched) :
    (t.counted name? d).failed = d.failed + (!t.isDispatched).toNat := by
  obtain ⟨record, fate⟩ := t
  cases fate <;> rfl

theorem counted_sources (kind : SourceKind) (t : Taken) (d : Stats.Dispatched) :
    (t.counted name? d).sources.count kind =
      d.sources.count kind + (t.reported name?).countP (·.kind = kind) := by
  obtain ⟨record, fate⟩ := t
  cases fate with
  | dispatched =>
    refine (Stats.KindCounts.count_foldl kind _ _).trans ?_
    rw [List.countP_map]
    rfl
  | unbucketed => rfl
  | refused => rfl

theorem counted_renamed (t : Taken) (d : Stats.Dispatched) :
    (t.counted name? d).renamed =
      d.renamed + (t.isDispatched && t.isRenamed name?).toNat := by
  obtain ⟨record, fate⟩ := t
  cases fate with
  | dispatched => exact Stats.Dispatched.renamed_success _ _ _ _
  | unbucketed => rfl
  | refused => rfl

end Taken

namespace Dispatcher

theorem renames_ofNaming (n : Naming) (m : Metric) :
    (Collaborators.ofNaming n).renames m = (n.rename? m.destService m.endpoint).isSome := by
  unfold Collaborators.renames
  simp only [Collaborators.ofNaming]
  cases n.rename? m.destService m.endpoint <;> rfl

/-- If there is room for everything, whoever refuses one of the sources is jammed. -/
theorem offer_jammed (list : List Source) : ∀ {r r' : Receiver Output} {h h' : Host}
    {e : DispatchFault}, h.store.shortages = [] → offer list r h = (.failed e, r', h') →
      r'.Jammed h'.store := by
  induction list with
  | nil => exact fun _ ho => by cases ho
  | cons source rest ih =>
    intro r r' h h' e hroom ho
    have hfirm := Store.Firm.receive r source h
    rw [offer_cons] at ho
    rcases hr : r.receive source h with ⟨a, r1, h1⟩
    rw [hr] at ho hfirm
    cases a with
    | crashed message => cases ho
    | failed cause =>
      cases ho
      exact Receiver.receive_jammed source hr (.inr ⟨hroom, cause, rfl⟩)
    | done u =>
      simp only at ho
      generalize hh2 : Host.tally _ (.sources source.kind) = h2 at ho
      have hroom2 : h2.store.shortages = [] := by
        rw [← hh2]
        exact hfirm.room hroom
      rcases hrest : offer rest r1 h2 with ⟨o, r2, h3⟩
      rw [hrest] at ho
      cases o with
      | done kinds => cases ho
      | crashed message => cases ho
      | failed cause =>
        cases ho
        exact ih hroom2 hrest

/-- How dispatching a record ends that has this fate. -/
def Leads (n : Naming) (t : Taken) : Outcome DispatchFault Dispatch → Prop
  | .done d => t.fate = .dispatched ∧
      d.emitted = (sourcesOf n.rename? t.record).map Source.kind ∧ d.renamed = t.isRenamed n.rename?
  | .failed _ => t.isDispatched = false
  | .crashed _ => False

/-- What processing a record has done that has this fate. The meters count the name of its endpoint
and all sources that were accepted; a refused source is refused by one receiver, and jams it if
there is room for everything. -/
structure Processed (n : Naming) (t : Taken) (d : Dispatcher Output) (h : Host)
    (answer : Outcome DispatchFault Dispatch × Dispatcher Output × Host) : Prop where
  fits : t.Fits n.rename?
  leads : Leads n t answer.1
  meters : ∀ {read : Meters → Nat} {worth : Meter → Nat}, Meters.Gauge read worth →
    worth .latency = 0 → read answer.2.2.meters =
      read h.meters + (if t.isRenamed n.rename? then worth (.renamed t.record.destService) else 0) +
        Meters.sourcesWorth worth ((t.reported n.rename? ++ t.lost).map Source.kind)
  refused : ∀ {k : Nat}, d.receiver.Refused k →
    answer.2.1.receiver.Refused (k + t.isRefused.toNat)
  jammed : h.store.shortages = [] → t.isRefused = true →
    answer.2.1.receiver.Jammed answer.2.2.store

/-- Every record that is processed has a fate. -/
theorem process_taken (n : Naming) (m : Metric) (d : Dispatcher Output) (h : Host)
    (hcrash : ∀ message, (process (.ofNaming n) m d h).1 ≠ .crashed message) :
    ∃ fate, Processed n ⟨m, fate⟩ d h (process (.ofNaming n) m d h) := by
  have hnormalized := fun {read : Meters → Nat} {worth : Meter → Nat}
    (hg : Meters.Gauge read worth) => normalize_meters hg (.ofNaming n) m h
  simp only [renames_ofNaming] at hnormalized
  cases hbucket : TimeBucket.ofMillis? m.startTime with
  | none =>
    refine ⟨.unbucketed, ?_⟩
    rw [process_unbucketed n hbucket d h]
    refine ⟨?_, rfl, fun hg hlatency => ?_, fun hrefused => hrefused, nofun⟩
    · exact Option.isNone_iff_eq_none.mpr hbucket
    · exact (Timer.finish_meters hg hlatency _ _).trans (hnormalized hg)
  | some bucket =>
    have hprocess := process_offer n hbucket d h
    have hroom := normalize_store (.ofNaming n) m h
    generalize hlist : sourcesOf n.rename? m = list at hprocess
    obtain ⟨calls, hcalls, hcount⟩ :=
      offer_meters Output.unmetered list d.receiver (normalize (.ofNaming n) m h).2
    have hrefused := fun {k : Nat} => offer_refused (n := k) list (r := d.receiver)
      (normalize (.ofNaming n) m h).2
    rcases hoffer : offer list d.receiver (normalize (.ofNaming n) m h).2 with ⟨o, r1, h1⟩
    rw [hoffer] at hprocess hcalls hcount hrefused
    rw [hprocess] at hcrash ⊢
    have hmeters : ∀ {read : Meters → Nat} {worth : Meter → Nat}, Meters.Gauge read worth →
        worth .latency = 0 → read (d.timer.start.finish h1).2.meters = read h.meters +
          (if (n.rename? m.destService m.endpoint).isSome then worth (.renamed m.destService)
            else 0) + Meters.sourcesWorth worth ((acceptedOf calls).map Source.kind) := by
      intro read worth hg hlatency
      rw [Timer.finish_meters hg hlatency, hcount hg, hnormalized hg]
    cases hcalls with
    | accepted =>
      refine ⟨.dispatched, ?_, ⟨rfl, congrArg _ hlist.symm, rfl⟩, fun hg hlatency => ?_, hrefused,
        nofun⟩
      · exact Option.isNone_eq_false_iff.mpr (Option.isSome_of_eq_some hbucket)
      · rw [acceptedOf_done] at hmeters
        simp only [Taken.reported, hlist, Taken.lost, List.append_nil]
        exact hmeters hg hlatency
    | refused before source after cause =>
      refine ⟨.refused before source after, hlist, rfl, fun hg hlatency => ?_, hrefused,
        fun hroom' _ => ?_⟩
      · have haccepted : acceptedOf (before.map (·, .done ()) ++ [(source, .failed cause)]) =
            before := by
          rw [acceptedOf, List.filterMap_append]
          exact (List.append_nil _).trans (acceptedOf_done before)
        rw [haccepted] at hmeters
        exact hmeters hg hlatency
      · simp only [Timer.finish_store]
        exact offer_jammed _ (by rwa [hroom]) hoffer
    | crashed before source after message => exact absurd rfl (hcrash message)

end Dispatcher

/-- What a replay tells of these records, and what its meters have counted of them. -/
structure Progress.Tells (name? : String → String → Option String) (taken : List Taken)
    (before now : Meters) (p : Progress) : Prop where
  fits : ∀ t ∈ taken, t.Fits name?
  read : p.recordsRead = taken.length
  failed : p.dispatched.failed = taken.countP (!·.isDispatched)
  reported : ∀ kind, p.dispatched.sources.count kind =
    (taken.flatMap (Taken.reported name?)).countP (·.kind = kind)
  sources : ∀ kind, now.count (.sources kind) = before.count (.sources kind) +
    p.dispatched.sources.count kind + (taken.flatMap Taken.lost).countP (·.kind = kind)
  named : p.dispatched.renamed = taken.countP fun t => t.isDispatched && t.isRenamed name?
  renamings : now.renamings = before.renamings + p.dispatched.renamed +
    taken.countP fun t => !t.isDispatched && t.isRenamed name?

namespace Progress

variable {name? : String → String → Option String} {taken : List Taken} {before now : Meters}
  {p : Progress}

theorem tells_none (name? : String → String → Option String) (before : Meters) :
    Progress.none.Tells name? [] before before where
  fits := List.forall_mem_nil _
  read := rfl
  failed := rfl
  reported _ := rfl
  sources _ := rfl
  named := rfl
  renamings := rfl

/-- One more record. The meters count all of its sources that were accepted, and its endpoint, if it
got a name. -/
theorem Tells.tally {t : Taken} {now' : Meters} (hp : p.Tells name? taken before now)
    (hfits : t.Fits name?)
    (hsources : ∀ kind, now'.count (.sources kind) =
      now.count (.sources kind) + (t.reported name? ++ t.lost).countP (·.kind = kind))
    (hrenamings : now'.renamings = now.renamings + (t.isRenamed name?).toNat) :
    Tells name? (taken ++ [t]) before now'
      ⟨p.recordsRead + 1, p.malformed, t.counted name? p.dispatched⟩ where
  fits := List.forall_mem_append.mpr ⟨hp.fits, List.forall_mem_singleton.mpr hfits⟩
  read := by rw [List.length_append, ← hp.read, List.length_singleton]
  failed := by
    rw [List.countP_append, ← hp.failed, List.countP_singleton, Taken.counted_failed]
    cases t.isDispatched <;> rfl
  reported kind := by
    rw [List.flatMap_append, List.countP_append, ← hp.reported, List.flatMap_singleton,
      Taken.counted_sources]
  sources kind := by
    rw [List.flatMap_append, List.countP_append, List.flatMap_singleton, hsources, hp.sources,
      Taken.counted_sources, List.countP_append]
    omega
  named := by
    rw [List.countP_append, ← hp.named, List.countP_singleton, Taken.counted_renamed]
    cases t.isDispatched && t.isRenamed name? <;> rfl
  renamings := by
    rw [List.countP_append, List.countP_singleton, hrenamings, hp.renamings, Taken.counted_renamed]
    cases t.isDispatched <;> cases t.isRenamed name? <;> simp <;> omega

/-- The summary agrees with the meters in the sources exactly if none was accepted of a record that
failed. -/
theorem Tells.sources_iff (hp : p.Tells name? taken before now) :
    (∀ kind, now.count (.sources kind) =
      before.count (.sources kind) + p.dispatched.sources.count kind) ↔
        ∀ t ∈ taken, t.lost = [] := by
  rw [← List.flatMap_eq_nil_iff]
  constructor
  · intro hall
    refine List.eq_nil_iff_forall_not_mem.mpr fun source hsource => ?_
    have hzero : (taken.flatMap Taken.lost).countP (·.kind = source.kind) = 0 := by
      have hsum := hp.sources source.kind
      have hkind := hall source.kind
      omega
    exact absurd rfl (of_decide_eq_false (Bool.eq_false_iff.mpr
      (List.countP_eq_zero.mp hzero source hsource)))
  · intro hnil kind
    rw [hp.sources, hnil]
    rfl

/-- It agrees with them in the renamed endpoints exactly if no record failed that has one. -/
theorem Tells.renamings_iff (hp : p.Tells name? taken before now) :
    now.renamings = before.renamings + p.dispatched.renamed ↔
      ∀ t ∈ taken, t.isRenamed name? = true → t.isDispatched = true := by
  rw [hp.renamings, Nat.add_eq_left, List.countP_eq_zero]
  refine forall₂_congr fun t _ => ?_
  cases t.isDispatched <;> cases t.isRenamed name? <;> simp

end Progress

theorem Receiver.jammed_keeps : Receiver.Keeps fun (r : Receiver Output) s => r.Jammed s where
  receive source hr := Receiver.receive_jammed source rfl (.inl hr)
  flush hr := (Receiver.flush_jammed rfl hr).2

theorem Members.refusals_ofList (receivers : List (Receiver Output)) :
    (Members.ofList receivers).refusals = 0 := by
  induction receivers with
  | nil => rfl
  | cons r receivers ih => rw [Members.ofList, Members.refusals_more, ih]

namespace Replay

/-- The invariant: the counts and the refusals belong to the records that were taken. If there was
room for everything at the start, there is, and a receiver that has refused a source is jammed. -/
structure Metered (n : Naming) (start : Host) (taken : List Taken) (r : Replay) : Prop where
  tells : r.progress.Tells n.rename? taken start.meters r.host.meters
  refused : r.dispatcher.receiver.Refused (taken.countP Taken.isRefused)
  room : start.store.shortages = [] → r.host.store.shortages = []
  jammed : start.store.shortages = [] → (∃ t ∈ taken, t.isRefused = true) →
    r.dispatcher.receiver.Jammed r.host.store

theorem Metered.congr {n : Naming} {start : Host} {taken : List Taken} {r r' : Replay}
    (hr : r.Metered n start taken)
    (htells : r'.progress.Tells n.rename? taken start.meters r'.host.meters)
    (hdispatcher : r'.dispatcher = r.dispatcher) (hstore : r'.host.store = r.host.store) :
    r'.Metered n start taken := by
  obtain ⟨-, hrefused, hroom, hjammed⟩ := hr
  exact ⟨htells, by rwa [hdispatcher], by rwa [hstore], by rwa [hdispatcher, hstore]⟩

theorem takeRecord_counts {n : Naming} {m : Metric} {r r' : Replay} {fate : Fate}
    (hprocessed : Dispatcher.Processed n ⟨m, fate⟩ r.dispatcher r.host
      (r.dispatcher.process (.ofNaming n) m r.host))
    (htake : r.takeRecord (.ofNaming n) m = (.next, r')) :
    ∃ success dispatcher host o, r.dispatcher.process (.ofNaming n) m r.host =
        (o, dispatcher, host) ∧
      r'.progress = ⟨r.progress.recordsRead + 1, r.progress.malformed,
        (⟨m, fate⟩ : Taken).counted n.rename? r.progress.dispatched⟩ ∧
      r'.host.meters = host.meters.bump (.records success) ∧ r'.dispatcher = dispatcher ∧
      r'.host.store = host.store := by
  obtain ⟨dispatcher, host, ⟨d, hprocess, rfl⟩ | ⟨e, hprocess, rfl⟩⟩ := takeRecord_next htake
  · have hleads := hprocessed.leads
    rw [hprocess] at hleads
    obtain ⟨hfate, hemitted, hrenamed⟩ := hleads
    refine ⟨true, dispatcher, host, _, hprocess, ?_, rfl, rfl, rfl⟩
    cases hfate
    simp only [succeed, log, Taken.counted, hemitted, hrenamed]
  · have hleads := hprocessed.leads
    rw [hprocess] at hleads
    refine ⟨false, dispatcher, host, _, hprocess, ?_, rfl, rfl, rfl⟩
    cases fate with
    | dispatched => cases hleads
    | unbucketed => rfl
    | refused => rfl

/-- The step of the invariant: what has become of the record is what it adds to the counts. -/
theorem takeRecord_metered {n : Naming} {start : Host} {taken : List Taken} {m : Metric}
    {r r' : Replay} (hr : r.Metered n start taken)
    (htake : r.takeRecord (.ofNaming n) m = (.next, r')) :
    ∃ fate, r'.Metered n start (taken ++ [⟨m, fate⟩]) := by
  have hcrash : ∀ message,
      (r.dispatcher.process (.ofNaming n) m r.host).1 ≠ .crashed message := by
    intro message hcrashed
    obtain ⟨dispatcher, host, ⟨d, hprocess, -⟩ | ⟨e, hprocess, -⟩⟩ := takeRecord_next htake <;>
      rw [hprocess] at hcrashed <;> cases hcrashed
  obtain ⟨fate, hprocessed⟩ := Dispatcher.process_taken n m r.dispatcher r.host hcrash
  obtain ⟨success, dispatcher, host, o, hprocess, hprogress, hmeters, hdispatcher, hstore⟩ :=
    takeRecord_counts hprocessed htake
  have hroom := takeRecord_keeps (Output.keeps_store Store.lasts_room) (.ofNaming n) m (r := r)
  have hkept := takeRecord_keeps Receiver.jammed_keeps (.ofNaming n) m (r := r)
  rw [htake] at hroom hkept
  obtain ⟨hfits, -, hcount, hrefused, hjammed⟩ := hprocessed
  rw [hprocess] at hcount hrefused hjammed
  refine ⟨fate, ?_, ?_, fun hstart => ?_, fun hstart hany => ?_⟩
  · rw [hprogress, hmeters]
    refine hr.tells.tally hfits (fun kind => ?_) ?_
    · have hgauge := Meters.gauge_count (.sources kind)
      have hsources := hcount hgauge rfl
      rw [Meters.sourcesWorth_count, List.countP_map] at hsources
      refine (hgauge.bump _ _).trans (hsources.trans ?_)
      simp only [reduceCtorEq, decide_false, Bool.toNat_false, ite_self,
        Nat.add_zero]
      rfl
    · have hrenamings := hcount Meters.gauge_renamings rfl
      rw [Meters.sourcesWorth_zero fun _ => rfl] at hrenamings
      refine (Meters.gauge_renamings.bump _ _).trans (hrenamings.trans ?_)
      cases (⟨m, fate⟩ : Taken).isRenamed n.rename? <;> rfl
  · rw [hdispatcher, List.countP_append, List.countP_singleton]
    have hnext := hrefused hr.refused
    cases hfate : (⟨m, fate⟩ : Taken).isRefused <;> rwa [hfate] at hnext
  · exact hroom (hr.room hstart)
  · obtain ⟨t, ht, hrefused⟩ := hany
    rcases List.mem_append.mp ht with hbefore | hlast
    · exact hkept (hr.jammed hstart ⟨t, hbefore, hrefused⟩)
    · obtain rfl := List.mem_singleton.mp hlast
      rw [hdispatcher, hstore]
      exact hjammed (hr.room hstart) hrefused

theorem metered_tracks (n : Naming) (start : Host) :
    Tracks (.ofNaming n) fun lines r => ∃ taken : List Taken,
      taken.map Taken.record = lines.filterMap recordOf? ∧ r.Metered n start taken where
  congr := by
    rintro lines r r' ⟨taken, hrecords, hr⟩ hprogress hdispatcher hmeters hstore
    refine ⟨taken, hrecords, hr.congr ?_ hdispatcher hstore⟩
    rw [hprogress, hmeters]
    exact hr.tells
  blank := by
    rintro lines line r ⟨taken, hrecords, hr⟩ _ hnone
    refine ⟨taken, ?_, hr⟩
    rw [hrecords, List.filterMap_append, List.filterMap_cons_none hnone, List.filterMap_nil,
      List.append_nil]
  skip := by
    rintro lines line r e ⟨taken, hrecords, hr⟩ _ hnone
    refine ⟨taken, ?_, hr.congr ?_ rfl rfl⟩
    · rw [hrecords, List.filterMap_append, List.filterMap_cons_none hnone, List.filterMap_nil,
        List.append_nil]
    · obtain ⟨hfits, hread, hfailed, hreported, hsources, hnamed, hrenamings⟩ := hr.tells
      exact ⟨hfits, hread, hfailed, hreported, hsources, hnamed, hrenamings⟩
  record := by
    rintro lines line r r' m ⟨taken, hrecords, hr⟩ _ hsome htake
    obtain ⟨fate, hnext⟩ := takeRecord_metered hr htake
    refine ⟨_, ?_, hnext⟩
    rw [List.map_append, hrecords, List.filterMap_append, List.filterMap_cons_some hsome,
      List.filterMap_nil]
    rfl

end Replay

namespace ReplaySettings

variable {s : ReplaySettings} {stdin : Bytes} {isStopped : Nat → Bool} {h h' : Host}
  {report : ReplayReport}

/-- The summary of a replay that ends with a report counts the records that were dispatched, and the
meters count what was done for all of them. Hence they agree in the sources exactly if none was
accepted of a record that failed, and in the renamed endpoints exactly if no record failed that has
one. A receiver has refused a source of each record that has a time bucket and failed; if there is
room for everything, there is no such record. -/
theorem replay_meters (hdone : s.replay stdin isStopped h = (.done report, h')) :
    ∃ n lines, ∃ taken : List Taken, Naming.ofServices s.config.services = .ok n ∧
      taken.map Taken.record = lines.filterMap recordOf? ∧
      report.progress.Tells n.rename? taken h.meters h'.meters ∧
      ((∀ kind, h'.meters.count (.sources kind) =
        h.meters.count (.sources kind) + report.dispatched.sources.count kind) ↔
          ∀ t ∈ taken, t.lost = []) ∧
      (h'.meters.renamings = h.meters.renamings + report.dispatched.renamed ↔
        ∀ t ∈ taken, t.isRenamed n.rename? = true → t.isDispatched = true) ∧
      (report.receivers.map (·.2.2)).sum = taken.countP Taken.isRefused ∧
      (h.store.shortages = [] → taken.countP Taken.isRefused = 0) ∧
      ∀ text, (∀ outputs h1, s.openReceivers h = (.ok outputs, h1) →
          s.HasInput stdin h1.store (Output.locations outputs) text) →
        lines <+: frontOf s.limit (Text.linesOf text.toList) ∧
          (report.interrupted = false →
            lines = frontOf s.limit (Text.linesOf text.toList)) := by
  have hstart : ∀ n feed outputs (ready : Host), ready.meters = h.meters →
      ready.store.shortages = h.store.shortages → ∃ taken : List Taken,
        taken.map Taken.record = ([] : List (List Char)).filterMap recordOf? ∧
        Replay.Metered n h taken
          ⟨feed, 0, .none, false, ⟨Output.setOf outputs, .metered⟩, ready⟩ := by
    intro n feed outputs ready hmeters hroom
    refine ⟨[], rfl, ?_, ⟨_, _, rfl, Members.refusals_ofList _⟩, hroom.trans, ?_⟩
    · rw [hmeters]
      exact Progress.tells_none n.rename? h.meters
    · rintro - ⟨t, ht, -⟩
      cases ht
  obtain ⟨n, lines, r, receiver, h2, hn, ⟨taken, hrecords, hr⟩, hflush, rfl, rfl, hlines⟩ :=
    replay_tracks (fun n => Replay.metered_tracks n h) hstart hdone
  have htells : (r.report receiver).progress.Tells n.rename? taken h.meters
      (receiver.close h2).meters := by
    rw [Output.closed_meters hflush]
    exact hr.tells
  refine ⟨n, lines, taken, hn, hrecords, htells, htells.sources_iff, htells.renamings_iff, ?_,
    fun hroom => ?_, hlines⟩
  · have hflushed := Receiver.flush_refused hr.refused r.host
    rw [hflush] at hflushed
    obtain ⟨name, members, rfl, hrefusals⟩ := hflushed
    rw [← hrefusals, Members.refusals, Members.tallies, List.map_map]
    rfl
  · -- a receiver that is jammed cannot be flushed
    rw [List.countP_eq_zero]
    intro t ht hrefused
    exact (Receiver.flush_jammed hflush (hr.jammed hroom ⟨t, ht, hrefused⟩)).1 rfl

/-- Two sources of the only record are offered; the first one is counted by the meters alone. -/
theorem replay_meters_short :
    let settings := shortSettings (String.ofList (List.replicate Buffered.capacity 'a'))
    ∃ report h', settings.replay (Text.encode shortInput) (fun _ => false) shortHost =
        (.done report, h') ∧
      report.dispatched.sources.count .instanceUpdate = 0 ∧
      h'.meters.count (.sources .instanceUpdate) = 1 ∧
      report.dispatched.renamed = 0 ∧ h'.meters.renamings = 1 ∧
      ∃ n taken, Naming.ofServices settings.config.services = .ok n ∧
        report.progress.Tells n.rename? taken shortHost.meters h'.meters ∧
        (∃ t ∈ taken, t.lost ≠ []) ∧
        ∃ t ∈ taken, t.isRenamed n.rename? = true ∧ t.isDispatched = false := by
  intro settings
  obtain ⟨report, h', hreplay, hnamed, hrenamings, hreported, hsources⟩ :=
    replay_short (escape?_replicate Buffered.capacity) (length_encode_replicate _).ge
  obtain ⟨n, lines, taken, hn, -, htells, hsources_iff, hrenamings_iff, -⟩ := replay_meters hreplay
  have hstart : shortHost.meters = [] := rfl
  have hlost : ∃ t ∈ taken, t.lost ≠ [] := by
    by_contra hnone
    have hall := hsources_iff.mpr (by simpa using hnone) .instanceUpdate
    rw [hsources, hreported, hstart] at hall
    cases hall
  have hfailed : ∃ t ∈ taken, t.isRenamed n.rename? = true ∧ t.isDispatched = false := by
    by_contra hnone
    have hall := hrenamings_iff.mpr (by simpa using hnone)
    rw [hrenamings, hnamed, hstart] at hall
    cases hall
  exact ⟨report, h', hreplay, hreported, hsources, hnamed, hrenamings, n, taken, hn, htells, hlost,
    hfailed⟩

/-- Endpoints of the shop have one name. -/
def itemSettings : ReplaySettings where
  config := { version := .v1, services := [⟨"shop", [⟨"b", "a"⟩]⟩], receivers := [] }
  input := "-"
  limit := none

/-- A call of the shop at a moment without a time bucket. -/
def lostInput : String :=
  "[9223372036854775807,\"\",\"\",\"shop\",\"\",\"a\",5,true,200,\"http\",\"server\"]"

/-- The only endpoint got a name, and the summary counts none. -/
theorem replay_meters_lost :
    ∃ report h', itemSettings.replay (Text.encode lostInput) (fun _ => false)
        (Host.withStore (.initial [])) = (.done report, h') ∧
      report.dispatched.renamed = 0 ∧
      h'.meters.renamings = (Host.withStore (.initial [])).meters.renamings + 1 := by
  have hfigures : (itemSettings.replay (Text.encode lostInput) (fun _ => false)
        (Host.withStore (.initial []))).1.map (·.dispatched.renamed) = .done 0 ∧
      (itemSettings.replay (Text.encode lostInput) (fun _ => false)
        (Host.withStore (.initial []))).2.meters.renamings = 1 := by decide +kernel
  rcases hreplay : itemSettings.replay (Text.encode lostInput) (fun _ => false)
    (Host.withStore (.initial [])) with ⟨o, h'⟩
  rw [hreplay] at hfigures
  obtain ⟨hfigures, htotal⟩ := hfigures
  cases o with
  | failed e => cases hfigures
  | crashed message => cases hfigures
  | done report => exact ⟨report, h', rfl, Outcome.done.inj hfigures, htotal⟩

end ReplaySettings
end MeshTelemetry
