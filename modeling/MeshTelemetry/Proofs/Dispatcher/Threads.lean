import Mathlib
import MeshTelemetry.Proofs.Dispatcher.Alone
import MeshTelemetry.Proofs.Stats.Counts
import MeshTelemetry.Receiver.Output

/-!
# MeshTelemetry.Proofs.Dispatcher.Threads

Threads that dispatch records to the same receivers, which keep what they get in memory, in any
interleaving of their steps.

* `IsInterleaving`: a list mixes others, each of which it has in order and as a whole.
* `Thread.Sound`: how far a thread is with its records, and what its summary says of them.
* `Team.Faithful`: the invariant between two steps; `Team.step_faithful`: its step.
* `Team.run_faithful`: at the end every receiver holds an interleaving of the sources of the
  threads, and the summaries add up to what it holds.
* `Team.run_ends`: every run can be brought to its end.
-/

namespace MeshTelemetry

/-- Collaborators that never fail, and answer the same to the same question. -/
structure Answers where
  rename : String → String → Option String
  bucket : Int64 → Int64
  identify : String → NodeType → String

namespace Answers

variable (a : Answers)

def collaborators : Collaborators where
  rename service endpoint := .done (a.rename service endpoint)
  bucket millis := .done (a.bucket millis)
  identify service type := .done (a.identify service type)

/-- The record's endpoint gets a new name. -/
def isRenamed (m : Metric) : Bool := (a.rename m.destService m.endpoint).isSome

/-- The sources of a record. -/
def sources (m : Metric) : List Source :=
  Fanout.canonical (m.withName (a.rename m.destService m.endpoint)) (a.bucket m.startTime)
    (a.identify m.sourceService .normal) (a.identify m.destService .normal)

/-- The sources of records in their order. -/
def stream (records : List Metric) : List Source := records.flatMap a.sources

/-- A summary of exactly these records, all of which were dispatched. -/
structure Summarises (records : List Metric) (d : Stats.Dispatched) : Prop where
  processed : d.processed = records.length
  failed : d.failed = 0
  renamed : d.renamed = records.countP a.isRenamed
  sources : ∀ kind, d.sources.count kind = (a.stream records).countP (·.kind = kind)

end Answers

/-- The list mixes others: it arises as first one and then another of them grows at its end. -/
inductive IsInterleaving {α : Type} : List (List α) → List α → Prop
  | none {streams : List (List α)} (h : ∀ l ∈ streams, l = []) : IsInterleaving streams []
  | grow {streams : List (List α)} {merged l : List α} {i : Nat} (h : IsInterleaving streams merged)
      (hi : streams[i]? = some l) (x : α) :
      IsInterleaving (streams.set i (l ++ [x])) (merged ++ [x])

namespace IsInterleaving

variable {α : Type} {streams : List (List α)} {merged : List α}

theorem extend (h : IsInterleaving streams merged) {i : Nat} {l : List α}
    (hi : streams[i]? = some l) (more : List α) :
    IsInterleaving (streams.set i (l ++ more)) (merged ++ more) := by
  induction more generalizing streams merged l with
  | nil =>
    obtain ⟨hlt, rfl⟩ := List.getElem?_eq_some_iff.mp hi
    simpa using h
  | cons x more ih =>
    have hlt := (List.getElem?_eq_some_iff.mp hi).1
    have hnext := ih (h.grow hi x) (List.getElem?_set_self hlt)
    simpa only [List.set_set, List.append_assoc, List.singleton_append] using hnext

theorem perm_set {i : Nat} {l : List α} (hi : streams[i]? = some l) (x : α) :
    (streams.flatten ++ [x]).Perm (streams.set i (l ++ [x])).flatten := by
  induction streams generalizing i with
  | nil => cases hi
  | cons first streams ih =>
    cases i with
    | zero =>
      cases hi
      simp only [List.set_cons_zero, List.flatten_cons, List.append_assoc]
      exact List.perm_append_comm.append_left _
    | succ i =>
      simp only [List.set_cons_succ, List.flatten_cons, List.append_assoc]
      exact (ih (i := i) hi).append_left _

/-- Nothing is lost, and nothing is there twice. -/
theorem perm (h : IsInterleaving streams merged) : merged.Perm streams.flatten := by
  induction h with
  | none h => rw [List.flatten_eq_nil_iff.mpr h]
  | grow _ hi x ih => exact (ih.append_right [x]).trans (perm_set hi x)

end IsInterleaving

/-- The member keeps what it gets in memory, and that is what it holds. -/
def Member.Holds (m : Member Output) (name : String) (list : List Source) : Prop :=
  m.receiver = .sink (.memory name list)

namespace Delivery

/-- The delivery has met no refusal. -/
def IsSmooth (d : Delivery) : Prop :=
  match d.stage with
  | .offering | .accepted | .returned (.ok ()) => True
  | _ => False

/-- What a member is still to get. -/
def remainder (d : Delivery) (j : Nat) : List Source := if j < d.accepted then [] else [d.source]

/-- The member has accepted the source and has yet to count that. -/
def isUncounted (d : Delivery) (j : Nat) : Bool :=
  match d.stage with
  | .accepted => d.passed = j
  | _ => false

variable {d d' : Delivery} {s s' : Shared Output} {answer : Option (Outcome Fault Unit)}

theorem Step.smooth (h : Step d s answer d' s') (hd : d.IsSmooth)
    (hm : ∀ m ∈ s.members, ∃ name list, m.Holds name list) : d'.IsSmooth := by
  cases h with
  | finish hnone => trivial
  | offer hat hr =>
    obtain ⟨name, list, hlist⟩ := hm _ (List.mem_of_getElem? hat)
    rw [hlist] at hr
    cases hr
    trivial
  | accept => trivial
  | refuse e => exact hd
  | report e host => exact hd
  | returned answer => exact hd
  | crashed message => exact hd

/-- What a member gets in a step, it no longer is to get; and it is counted, or about to be. -/
theorem Step.gains (h : Step d s answer d' s') (hd : d.IsSmooth)
    (hm : ∀ m ∈ s.members, ∃ name list, m.Holds name list) {j : Nat} {m' : Member Output}
    (hm' : s'.members[j]? = some m') :
    ∃ m more, s.members[j]? = some m ∧
      (∀ name list, m.Holds name list → m'.Holds name (list ++ more)) ∧
      d.remainder j = more ++ d'.remainder j ∧
      m'.received + (d'.isUncounted j).toNat =
        m.received + (d.isUncounted j).toNat + more.length := by
  have hsame : ∀ {m : Member Output} {name list}, m.Holds name list →
      m.Holds name (list ++ []) := fun hlist => by rwa [List.append_nil]
  cases h with
  | finish hnone => exact ⟨m', [], hm', fun _ _ => hsame, rfl, rfl⟩
  | @offer source passed _ m _ _ _ hat hr =>
    obtain ⟨name, list, hlist⟩ := hm _ (List.mem_of_getElem? hat)
    rw [hlist] at hr
    cases hr
    by_cases hj : passed = j
    · subst hj
      rw [List.getElem?_set_self (List.getElem?_eq_some_iff.mp hat).1] at hm'
      cases hm'
      refine ⟨m, [source], hat, fun name' list' hlist' => ?_, ?_, ?_⟩
      · cases hlist.symm.trans hlist'
        rfl
      · simp [remainder, Delivery.accepted, Stage.ofAnswer]
      · simp [isUncounted, Stage.ofAnswer]
    · rw [List.getElem?_set_ne hj] at hm'
      refine ⟨m', [], hm', fun _ _ => hsame, ?_, ?_⟩
      · by_cases hlt : j < passed
        · simp [remainder, Delivery.accepted, Stage.ofAnswer, hlt, Nat.lt_succ_of_lt hlt]
        · have hlt' : ¬ j < passed + 1 := by omega
          simp [remainder, Delivery.accepted, Stage.ofAnswer, hlt, hlt']
      · simp [isUncounted, Stage.ofAnswer, hj]
  | @accept source passed =>
    rw [List.getElem?_modify] at hm'
    obtain ⟨m, hat, rfl⟩ := Option.map_eq_some_iff.mp hm'
    refine ⟨m, [], hat, fun name list hlist => ?_, rfl, ?_⟩
    · split
      · exact hsame hlist
      · exact hsame hlist
    · by_cases hj : passed = j <;> simp [isUncounted, Member.countReceived, hj]
  | refuse e => exact hd.elim
  | report e host => exact hd.elim
  | returned answer => exact ⟨m', [], hm', fun _ _ => hsame, rfl, rfl⟩
  | crashed message => exact hd.elim

/-- How many steps of a delivery to `n` members are left. -/
def rank (n : Nat) (d : Delivery) : Nat :=
  match d.stage with
  | .offering => 2 * (n - d.passed) + 1
  | .accepted => 2 * (n - d.passed)
  | _ => 0

theorem Step.rank_lt (h : Step d s answer d' s') (hd : d.IsSmooth)
    (hwithin : d.Within s.members.length) (hm : ∀ m ∈ s.members, ∃ name list, m.Holds name list)
    (hon : ∀ answer, d.stage ≠ .returned answer) :
    d'.rank s.members.length < d.rank s.members.length := by
  cases h with
  | finish hnone => exact Nat.succ_pos _
  | offer hat hr =>
    obtain ⟨name, list, hlist⟩ := hm _ (List.mem_of_getElem? hat)
    rw [hlist] at hr
    cases hr
    exact Nat.lt_succ_self _
  | @accept source passed =>
    have hlt : passed < s.members.length := hwithin
    simp only [rank]
    omega
  | refuse e => exact hd.elim
  | report e host => exact hd.elim
  | returned answer => exact absurd rfl (hon answer)
  | crashed message => exact hd.elim

end Delivery

namespace Activity

/-- The record that the thread is at. -/
def record? : Activity → Option Metric
  | .dispatching m _ _ => some m
  | .delivering m _ _ _ => some m
  | .settling m _ => some m
  | _ => none

/-- The sources of the record that a member is still to get. -/
def ahead (j : Nat) : Activity → List Source
  | .dispatching _ _ left => left
  | .delivering _ _ delivery left => delivery.remainder j ++ left
  | _ => []

/-- A member has accepted a source of the record and has yet to count that. -/
def isUncounted (j : Nat) : Activity → Bool
  | .delivering _ _ delivery _ => delivery.isUncounted j
  | _ => false

/-- How many steps a thread takes for so many sources at most, if there are `n` members. -/
def cost (n sources : Nat) : Nat := (2 * n + 3) * sources

/-- How many steps are left at most. -/
def rank (n : Nat) : Activity → Nat
  | .dispatching _ _ left => cost n left.length + 2
  | .delivering _ _ delivery left => delivery.rank n + cost n left.length + 3
  | .settling _ _ => 1
  | _ => 0

/-- The dispatch is on its way to all sources of the record: these are the kinds of the others. -/
def Reaches (a : Answers) (m : Metric) (d : Dispatch) (others : List SourceKind) : Prop :=
  d.emitted ++ others = (a.sources m).map Source.kind ∧ d.renamed = a.isRenamed m

/-- All is well so far with what the thread is at. -/
def Sound (a : Answers) (n : Nat) : Activity → Prop
  | .idle => True
  | .dispatching m d left => Reaches a m d (left.map Source.kind)
  | .delivering m d delivery left =>
    Reaches a m d (delivery.source.kind :: left.map Source.kind) ∧ delivery.IsSmooth ∧
      delivery.Within n
  | .settling m o => ∃ d, o = .done d ∧ Reaches a m d []
  | .crashed _ => False

end Activity

theorem Answers.Summarises.settle {a : Answers} {past : List Metric} {d : Dispatch}
    {m : Metric} {summary : Stats.Dispatched} (h : a.Summarises past summary) (hd : Activity.Reaches a m d []) :
    a.Summarises (past ++ [m]) (summary.recordSuccess m.latency d.emitted d.renamed) where
  processed := by
    simp [Stats.Dispatched.recordSuccess, h.processed]
  failed := h.failed
  renamed := by
    simp only [Stats.Dispatched.recordSuccess, h.renamed, hd.2, List.countP_append,
      List.countP_singleton]
    split <;> rfl
  sources kind := by
    obtain ⟨hkinds, -⟩ := hd
    rw [List.append_nil] at hkinds
    simp only [Stats.Dispatched.recordSuccess]
    rw [Stats.KindCounts.count_foldl, h.sources, hkinds, List.countP_map]
    simp [Answers.stream, Function.comp_def]

namespace Thread

/-- The sources that a member is still to get from a thread. -/
def ahead (a : Answers) (j : Nat) (t : Thread) : List Source :=
  t.activity.ahead j ++ a.stream t.waiting

/-- A thread with these records to dispatch has settled some of them, as its summary says, and is
well on its way with the others. -/
def Sound (a : Answers) (n : Nat) (records : List Metric) (t : Thread) : Prop :=
  t.activity.Sound a n ∧
    ∃ past, records = past ++ (t.activity.record?.toList ++ t.waiting) ∧ a.Summarises past t.summary

theorem start_sound (a : Answers) (n : Nat) (records : List Metric) :
    (start records).Sound a n records :=
  ⟨trivial, [], rfl, rfl, rfl, rfl, fun _ => rfl⟩

/-- What members get in a step, they are no longer to get; and it is counted, or about to be. -/
def Gains (a : Answers) (t t' : Thread) (members members' : List (Member Output)) : Prop :=
  ∀ (j : Nat) (m' : Member Output), members'[j]? = some m' → ∃ m more, members[j]? = some m ∧
    (∀ name list, m.Holds name list → m'.Holds name (list ++ more)) ∧
    t.ahead a j = more ++ t'.ahead a j ∧
    m'.received + (t'.activity.isUncounted j).toNat =
      m.received + (t.activity.isUncounted j).toNat + more.length

theorem Gains.none {a : Answers} {t t' : Thread} (members : List (Member Output))
    (hahead : ∀ j < members.length, t'.ahead a j = t.ahead a j)
    (hcount : ∀ j < members.length, t'.activity.isUncounted j = t.activity.isUncounted j) :
    Gains a t t' members members := by
  intro j m hm
  have hj := (List.getElem?_eq_some_iff.mp hm).1
  refine ⟨m, [], hm, fun name list hlist => ?_, (hahead j hj).symm, ?_⟩
  · rwa [List.append_nil]
  · rw [hcount j hj, List.length_nil, Nat.add_zero]

theorem ofRecord_answers (a : Answers) (m : Metric) (h : Host) :
    ∃ h', Activity.ofRecord a.collaborators m h =
      (.dispatching m ⟨a.bucket m.startTime, [], a.isRenamed m⟩ (a.sources m), h') := by
  have hn := Dispatcher.normalize_done (c := a.collaborators) (m := m) rfl h
  have hsources : Dispatcher.sources a.collaborators
      (m.withName (a.rename m.destService m.endpoint)) =
        .done (a.bucket m.startTime, a.sources m) :=
    Dispatcher.sources_eq_canonical rfl (fun _ _ => rfl) (fun _ _ => rfl)
  refine ⟨(Dispatcher.normalize a.collaborators m h).2, ?_⟩
  rw [Activity.ofRecord, hn]
  simp only [hsources]
  rfl

theorem deliver_sound {a : Answers} {n : Nat} {m : Metric} {d : Dispatch} {delivery : Delivery}
    {left : List Source} {s : Shared Output}
    (hreaches : Activity.Reaches a m d (delivery.source.kind :: left.map Source.kind))
    (hsmooth : delivery.IsSmooth) (hwithin : delivery.Within n) (hn : s.members.length = n)
    (hm : ∀ m ∈ s.members, ∃ name list, m.Holds name list) :
    let r := Activity.deliver m d delivery left s
    r.1.Sound a n ∧ r.1.record? = some m ∧ r.2.members.length = n ∧
      ∀ (waiting : List Metric) (summary : Stats.Dispatched),
        Gains a ⟨waiting, .delivering m d delivery left, summary⟩ ⟨waiting, r.1, summary⟩ s.members
          r.2.members := by
  -- as long as the delivery is under way, its step is the thread's step
  have hunderway : let r := delivery.step s
      (Activity.delivering m d r.1 left).Sound a n ∧ r.2.members.length = n ∧
        ∀ (waiting : List Metric) (summary : Stats.Dispatched),
          Gains a ⟨waiting, .delivering m d delivery left, summary⟩
            ⟨waiting, .delivering m d r.1 left, summary⟩ s.members r.2.members := by
    have hstep := delivery.step_spec s
    subst hn
    refine ⟨⟨?_, hstep.smooth hsmooth hm, hstep.within hwithin⟩, hstep.length, ?_⟩
    · rwa [hstep.accepted.1]
    · intro waiting summary j m' hm'
      obtain ⟨m, more, hat, hholds, hremainder, hcount⟩ := hstep.gains hsmooth hm hm'
      refine ⟨m, more, hat, hholds, ?_, hcount⟩
      simp only [ahead, Activity.ahead, hremainder, List.append_assoc]
  obtain ⟨source, passed, stage⟩ := delivery
  cases stage with
  | offering => exact ⟨hunderway.1, rfl, hunderway.2⟩
  | accepted => exact ⟨hunderway.1, rfl, hunderway.2⟩
  | returned answer =>
    cases answer with
    | error e => exact hsmooth.elim
    | ok u =>
      have hall : passed = n := hwithin
      obtain ⟨hkinds, hrenamed⟩ := hreaches
      refine ⟨⟨?_, hrenamed⟩, rfl, hn, fun waiting summary => .none _ (fun j hj => ?_) ?_⟩
      · simpa using hkinds
      · rw [hn, ← hall] at hj
        simp [Activity.deliver, Activity.forward, ahead, Activity.ahead, Delivery.remainder,
          Delivery.accepted, hj]
      · exact fun _ _ => rfl
  | crashed message => exact hsmooth.elim
  | refused e => exact hsmooth.elim
  | counted e => exact hsmooth.elim

/-- The step of a thread on its way keeps it on its way, and members get what they are to get. -/
theorem step_sound {a : Answers} {n : Nat} {records : List Metric} {t : Thread}
    {s : Common Output} (ht : t.Sound a n records) (hn : s.members.length = n)
    (hm : ∀ m ∈ s.members, ∃ name list, m.Holds name list) :
    let r := t.step a.collaborators s
    r.1.Sound a n records ∧ r.2.members.length = n ∧ Gains a t r.1 s.members r.2.members := by
  obtain ⟨waiting, activity, summary⟩ := t
  obtain ⟨hactivity, past, hrecords, hsummary⟩ := ht
  cases activity with
  | idle =>
    cases waiting with
    | nil => exact ⟨⟨trivial, past, hrecords, hsummary⟩, hn, .none _ (fun _ _ => rfl) fun _ _ => rfl⟩
    | cons m waiting =>
      obtain ⟨h', hbegin⟩ := ofRecord_answers a m s.host
      simp only [step, hbegin]
      exact ⟨⟨⟨rfl, rfl⟩, past, hrecords, hsummary⟩, hn, .none _ (fun _ _ => rfl) fun _ _ => rfl⟩
  | dispatching m d left =>
    cases left with
    | nil =>
      exact ⟨⟨⟨d, rfl, hactivity⟩, past, hrecords, hsummary⟩, hn,
        .none _ (fun _ _ => rfl) fun _ _ => rfl⟩
    | cons source left =>
      refine ⟨⟨⟨hactivity, trivial, Nat.zero_le n⟩, past, hrecords, hsummary⟩, hn,
        .none _ (fun _ _ => rfl) fun _ _ => rfl⟩
  | delivering m d delivery left =>
    obtain ⟨hreaches, hsmooth, hwithin⟩ := hactivity
    obtain ⟨hsound, hrecord, hlength, hgains⟩ := deliver_sound hreaches hsmooth hwithin hn hm
    simp only [step]
    refine ⟨⟨hsound, past, ?_, hsummary⟩, hlength, hgains waiting summary⟩
    rw [hrecord]
    exact hrecords
  | settling m o =>
    obtain ⟨d, rfl, hreaches⟩ := hactivity
    refine ⟨⟨trivial, past ++ [m], ?_, hsummary.settle hreaches⟩, hn,
      .none _ (fun _ _ => rfl) fun _ _ => rfl⟩
    rw [List.append_assoc]
    exact hrecords
  | crashed message => exact hactivity.elim

/-- How many steps of a thread are left at most, if there are `n` members. -/
def rank (a : Answers) (n : Nat) (t : Thread) : Nat :=
  t.activity.rank n + (t.waiting.map fun m => Activity.cost n (a.sources m).length + 3).sum

theorem step_rank_lt {a : Answers} {n : Nat} {records : List Metric} {t : Thread}
    {s : Common Output} (ht : t.Sound a n records) (hn : s.members.length = n)
    (hm : ∀ m ∈ s.members, ∃ name list, m.Holds name list) (hdone : ¬ t.isDone) :
    (t.step a.collaborators s).1.rank a n < t.rank a n := by
  obtain ⟨waiting, activity, summary⟩ := t
  obtain ⟨hactivity, -⟩ := ht
  cases activity with
  | idle =>
    cases waiting with
    | nil => exact absurd ⟨rfl, rfl⟩ hdone
    | cons m waiting =>
      obtain ⟨h', hbegin⟩ := ofRecord_answers a m s.host
      simp only [step, hbegin, rank, Activity.rank, List.map_cons, List.sum_cons]
      omega
  | dispatching m d left =>
    cases left with
    | nil =>
      simp only [step, rank, Activity.rank]
      omega
    | cons source left =>
      simp only [step, rank, Activity.rank, Delivery.start, Delivery.rank, Activity.cost,
        List.length_cons, Nat.mul_add]
      omega
  | delivering m d delivery left =>
    obtain ⟨-, hsmooth, hwithin⟩ := hactivity
    subst hn
    have hstep := delivery.step_spec s.toShared
    have hless := hstep.rank_lt hsmooth hwithin hm
    obtain ⟨source, passed, stage⟩ := delivery
    cases stage with
    | returned answer =>
      cases answer with
      | error e => exact hsmooth.elim
      | ok u =>
        simp only [step, Activity.deliver, Activity.forward, rank, Activity.rank, Delivery.rank]
        omega
    | offering =>
      have := hless (by rintro _ ⟨⟩)
      simp only [step, Activity.deliver, rank, Activity.rank] at this ⊢
      omega
    | accepted =>
      have := hless (by rintro _ ⟨⟩)
      simp only [step, Activity.deliver, rank, Activity.rank] at this ⊢
      omega
    | crashed message => exact hsmooth.elim
    | refused e => exact hsmooth.elim
    | counted e => exact hsmooth.elim
  | settling m o =>
    obtain ⟨d, rfl, -⟩ := hactivity
    simp only [step, settle, rank, Activity.rank]
    omega
  | crashed message => exact hactivity.elim

end Thread

namespace Team

/-- What a member holds is an interleaving of what the threads have sent to it so far; as much of it
is counted as no thread is still to count. -/
def Gathers (a : Answers) (work : List (List Metric)) (threads : List Thread) (name : String)
    (j : Nat) (m : Member Output) : Prop :=
  ∃ merged sent, m.Holds name merged ∧ IsInterleaving sent merged ∧
    m.received + threads.countP (·.activity.isUncounted j) = merged.length ∧
    sent.length = work.length ∧
    ∀ (i : Nat) (t : Thread) (records : List Metric) (l : List Source), threads[i]? = some t →
      work[i]? = some records → sent[i]? = some l → l ++ t.ahead a j = a.stream records

/-- The invariant of threads that dispatch their records to memory receivers with these names. -/
structure Faithful (a : Answers) (names : List String) (work : List (List Metric))
    (s : Team Output) : Prop where
  size : s.common.members.length = names.length
  crew : s.threads.length = work.length
  sound : ∀ (i : Nat) (t : Thread) (records : List Metric), s.threads[i]? = some t →
    work[i]? = some records → t.Sound a names.length records
  gathers : ∀ (j : Nat) (m : Member Output) (name : String), s.common.members[j]? = some m →
    names[j]? = some name → Gathers a work s.threads name j m

/-- Memory receivers with these names that hold nothing. -/
def memories (names : List String) : List (Receiver Output) :=
  names.map fun name => .sink (.memory name [])

theorem start_faithful (a : Answers) (names : List String) (timer : Timer) (h : Host)
    (work : List (List Metric)) : (start (memories names) timer h work).Faithful a names work where
  size := by simp [start, Members.toList_ofList, memories]
  crew := List.length_map ..
  sound i t records ht hrecords := by
    simp only [start, List.getElem?_map, hrecords] at ht
    cases ht
    exact Thread.start_sound a _ records
  gathers j m name hm hname := by
    simp only [start, Members.toList_ofList, memories, List.getElem?_map, hname] at hm
    cases hm
    refine ⟨[], work.map fun _ => [], rfl, .none (by simp), ?_, List.length_map .., ?_⟩
    · simp [start, List.countP_map, Function.comp_def, Thread.start, Activity.isUncounted]
    · intro i t records l ht hrecords hl
      simp only [start, List.getElem?_map, hrecords] at ht hl
      cases ht
      cases hl
      rfl

theorem Gathers.step {a : Answers} {work : List (List Metric)} {threads : List Thread}
    {name : String} {j i : Nat} {m m' : Member Output} {t t' : Thread} {more : List Source}
    (hm : Gathers a work threads name j m) (hi : threads[i]? = some t) (hiw : i < work.length)
    (hholds : ∀ name list, m.Holds name list → m'.Holds name (list ++ more))
    (hahead : t.ahead a j = more ++ t'.ahead a j)
    (hcount : m'.received + (t'.activity.isUncounted j).toNat =
      m.received + (t.activity.isUncounted j).toNat + more.length) :
    Gathers a work (threads.set i t') name j m' := by
  obtain ⟨merged, sent, hmerged, hmix, hcounted, hsent, hstreams⟩ := hm
  have hat : sent[i]? = some sent[i] := List.getElem?_eq_getElem (hsent ▸ hiw)
  refine ⟨merged ++ more, sent.set i (sent[i] ++ more), hholds _ _ hmerged, hmix.extend hat more,
    ?_, by rwa [List.length_set], ?_⟩
  · have hset := countP_set_add (·.activity.isUncounted j) hi t'
    rw [List.length_append]
    omega
  · intro k u records l hu hrecords hl
    by_cases hk : i = k
    · subst hk
      rw [List.getElem?_set_self (List.getElem?_eq_some_iff.mp hi).1] at hu
      rw [List.getElem?_set_self (hsent ▸ hiw)] at hl
      cases hu
      cases hl
      rw [List.append_assoc, ← hahead]
      exact hstreams i t records _ hi hrecords hat
    · rw [List.getElem?_set_ne hk] at hu hl
      exact hstreams k u records l hu hrecords hl

variable {a : Answers} {names : List String} {work : List (List Metric)} {s : Team Output}

theorem Faithful.holds (hs : s.Faithful a names work) :
    ∀ m ∈ s.common.members, ∃ name list, m.Holds name list := by
  intro m hm
  obtain ⟨j, hj, rfl⟩ := List.getElem_of_mem hm
  have hname := List.getElem?_eq_getElem (hs.size ▸ hj)
  obtain ⟨merged, -, hmerged, -⟩ := hs.gathers j _ _ (List.getElem?_eq_getElem hj) hname
  exact ⟨_, merged, hmerged⟩

theorem step_faithful (hs : s.Faithful a names work) (i : Nat) :
    (s.step a.collaborators i).Faithful a names work := by
  cases ht : s.threads[i]? with
  | none => simpa only [step, ht] using hs
  | some t =>
    have hi := (List.getElem?_eq_some_iff.mp ht).1
    have hiw : i < work.length := hs.crew ▸ hi
    have hrecords := List.getElem?_eq_getElem hiw
    obtain ⟨hsound, hlength, hgains⟩ :=
      Thread.step_sound (hs.sound i t _ ht hrecords) hs.size hs.holds
    simp only [step, ht]
    refine ⟨hlength, by rw [List.length_set, hs.crew], ?_, ?_⟩
    · intro k u records hu hk
      by_cases heq : i = k
      · subst heq
        rw [List.getElem?_set_self hi] at hu
        cases hu
        cases hrecords.symm.trans hk
        exact hsound
      · rw [List.getElem?_set_ne heq] at hu
        exact hs.sound k u records hu hk
    · intro j m' name hm' hname
      obtain ⟨m, more, hm, hholds, hahead, hcount⟩ := hgains j m' hm'
      exact (hs.gathers j m name hm hname).step ht hiw hholds hahead hcount

theorem run_invariant (schedule : List Nat) : ∀ {s : Team Output}, s.Faithful a names work →
    (s.run a.collaborators schedule).Faithful a names work := by
  induction schedule with
  | nil => exact fun hs => hs
  | cons i schedule ih => exact fun hs => ih (step_faithful hs i)

theorem sum_set_lt {α : Type} (f : α → Nat) {l : List α} {i : Nat} {x : α} (hx : l[i]? = some x)
    {y : α} (hlt : f y < f x) : ((l.set i y).map f).sum < (l.map f).sum := by
  induction l generalizing i with
  | nil => cases hx
  | cons first l ih =>
    cases i with
    | zero =>
      cases hx
      simp only [List.set_cons_zero, List.map_cons, List.sum_cons]
      omega
    | succ i =>
      have := ih (i := i) hx
      simp only [List.set_cons_succ, List.map_cons, List.sum_cons]
      omega

/-- How many steps of all threads are left at most, if there are `n` members. -/
def rank (a : Answers) (n : Nat) (s : Team Output) : Nat :=
  (s.threads.map (Thread.rank a n)).sum

/-- As long as not all threads are done, there is one whose next step brings the end nearer. -/
theorem Faithful.progress (hs : s.Faithful a names work) (hdone : ¬ s.isDone) :
    ∃ i, (s.step a.collaborators i).rank a names.length < s.rank a names.length := by
  obtain ⟨t, ht, htdone⟩ : ∃ t ∈ s.threads, ¬ t.isDone := by
    simpa only [isDone, not_forall, exists_prop] using hdone
  obtain ⟨i, hi, rfl⟩ := List.getElem_of_mem ht
  have hat := List.getElem?_eq_getElem hi
  have hrecords := List.getElem?_eq_getElem (hs.crew ▸ hi)
  refine ⟨i, ?_⟩
  simp only [step, hat, rank]
  exact sum_set_lt _ hat
    (Thread.step_rank_lt (hs.sound i _ _ hat hrecords) hs.size hs.holds htdone)

/-- Every state that threads reach leads to the end, by induction on the steps that are left. -/
theorem Faithful.ends (n : Nat) : ∀ {s : Team Output}, s.Faithful a names work →
    s.rank a names.length ≤ n → ∃ schedule, (s.run a.collaborators schedule).isDone := by
  induction n with
  | zero =>
    intro s hs hrank
    by_contra hnone
    obtain ⟨i, hi⟩ := hs.progress fun hdone => hnone ⟨[], hdone⟩
    omega
  | succ n ih =>
    intro s hs hrank
    by_cases hdone : s.isDone
    · exact ⟨[], hdone⟩
    · obtain ⟨i, hi⟩ := hs.progress hdone
      obtain ⟨schedule, hend⟩ := ih (step_faithful hs i) (by omega)
      exact ⟨i :: schedule, hend⟩

/-- Figures of the threads' records add up over the threads if each summary is right. -/
theorem Faithful.sum_eq (hs : s.Faithful a names work) (hdone : s.isDone)
    (figure : Stats.Dispatched → Nat) {expected : List Metric → Nat}
    (h : ∀ records d, a.Summarises records d → figure d = expected records) :
    (s.threads.map fun t => figure t.summary).sum = (work.map expected).sum := by
  congr 1
  refine List.ext_getElem (by simp [hs.crew]) fun i hi hi' => ?_
  simp only [List.length_map] at hi hi'
  obtain ⟨hwaiting, hidle⟩ := hdone _ (List.getElem_mem hi)
  obtain ⟨-, past, hpast, hsummary⟩ :=
    hs.sound i _ _ (List.getElem?_eq_getElem hi) (List.getElem?_eq_getElem hi')
  simp only [hwaiting, hidle, Activity.record?, Option.toList_none, List.append_nil] at hpast
  rw [List.getElem_map, List.getElem_map, hpast]
  exact h past _ hsummary

theorem Faithful.gathered (hs : s.Faithful a names work) (hdone : s.isDone) {j : Nat}
    {name : String} (hname : names[j]? = some name) :
    ∃ m merged, s.common.members[j]? = some m ∧ m.Holds name merged ∧
      IsInterleaving (work.map a.stream) merged ∧ m.received = merged.length := by
  have hj : j < s.common.members.length :=
    hs.size ▸ (List.getElem?_eq_some_iff.mp hname).1
  obtain ⟨merged, sent, hmerged, hmix, hcounted, hsent, hstreams⟩ :=
    hs.gathers j _ name (List.getElem?_eq_getElem hj) hname
  have hnone : s.threads.countP (·.activity.isUncounted j) = 0 := by
    refine List.countP_eq_zero.mpr fun t ht => ?_
    rw [(hdone t ht).2]
    exact Bool.false_ne_true
  have hall : sent = work.map a.stream := by
    refine List.ext_getElem (by rw [List.length_map, hsent]) fun i hi hi' => ?_
    rw [List.length_map] at hi'
    have hit : i < s.threads.length := hs.crew ▸ hi'
    have hstream := hstreams i _ _ _ (List.getElem?_eq_getElem hit) (List.getElem?_eq_getElem hi')
      (List.getElem?_eq_getElem hi)
    obtain ⟨hwaiting, hidle⟩ := hdone _ (List.getElem_mem hit)
    simpa [Thread.ahead, Activity.ahead, Answers.stream, hwaiting, hidle] using hstream
  refine ⟨_, merged, List.getElem?_eq_getElem hj, hmerged, hall ▸ hmix, ?_⟩
  omega

/-- Threads that share a dispatcher over memory receivers can always come to the end, whatever they
have done so far. At the end each receiver holds an interleaving of the sources of the threads'
records and has counted all of them, and the summaries of the threads add up to what was dispatched
and to what each receiver holds. -/
theorem run_faithful (a : Answers) (names : List String) (timer : Timer) (h : Host)
    (work : List (List Metric)) (schedule : List Nat) :
    let s := (start (memories names) timer h work).run a.collaborators schedule
    (∃ more, (s.run a.collaborators more).isDone) ∧
      (s.isDone →
        (∀ (j : Nat) (name : String), names[j]? = some name →
          ∃ m merged, s.common.members[j]? = some m ∧ m.receiver = .sink (.memory name merged) ∧
            IsInterleaving (work.map a.stream) merged ∧ m.received = merged.length ∧
            ∀ kind, (s.threads.map (·.summary.sources.count kind)).sum =
              merged.countP (·.kind = kind)) ∧
        (s.threads.map (·.summary.processed)).sum = work.flatten.length ∧
        (s.threads.map (·.summary.renamed)).sum = work.flatten.countP a.isRenamed) := by
  intro s
  have hs : s.Faithful a names work :=
    run_invariant schedule (start_faithful a names timer h work)
  refine ⟨hs.ends _ (Nat.le_refl _), fun hdone => ⟨fun j name hname => ?_, ?_, ?_⟩⟩
  · obtain ⟨m, merged, hm, hmerged, hmix, hreceived⟩ := hs.gathered hdone hname
    refine ⟨m, merged, hm, hmerged, hmix, hreceived, fun kind => ?_⟩
    rw [hmix.perm.countP_eq, List.countP_flatten, List.map_map]
    exact hs.sum_eq hdone (·.sources.count kind) fun _ _ hd => hd.sources kind
  · rw [List.length_flatten]
    exact hs.sum_eq hdone (·.processed) fun _ _ hd => hd.processed
  · rw [List.countP_flatten]
    exact hs.sum_eq hdone (·.renamed) fun _ _ hd => hd.renamed

/-- Endpoints of the catalog are renamed; services are their own identities. -/
def catalogAnswers : Answers where
  rename service _ := if service = "catalog" then some "/items" else none
  bucket _ := 202311142213
  identify service _ := service

/-- A call of a service, as its client has seen it: two edges. -/
def callOf (service : String) : Metric :=
  { Dispatcher.catalogCall with
    sourceInstance := "", destService := service, destInstance := "", side := .client }

def pairWork : List (List Metric) := [[callOf "catalog"], [callOf "cart"]]

/-- Two threads with a record each take turns at every step. -/
def pair : Team Output :=
  (start (memories ["first", "second"]) (.counting 0 0) (.withStore (.initial [])) pairWork).run
    catalogAnswers.collaborators (List.replicate 17 [0, 1]).flatten

/-- Both receivers hold the edges of both records, one of which is renamed. -/
theorem run_faithful_pair :
    pair.isDone ∧ pair.common.members.map Member.received = [4, 4] ∧
      (∃ m merged, pair.common.members[1]? = some m ∧
        m.receiver = .sink (.memory "second" merged) ∧
        IsInterleaving (pairWork.map catalogAnswers.stream) merged ∧
        m.received = merged.length) ∧
      (pair.threads.map (·.summary.processed)).sum = 2 ∧
      (pair.threads.map (·.summary.renamed)).sum = 1 := by
  have hdone : pair.isDone := by decide +kernel
  have hcounts : pair.common.members.map Member.received = [4, 4] := by decide +kernel
  have hall := run_faithful catalogAnswers ["first", "second"] (.counting 0 0)
    (.withStore (.initial [])) pairWork (List.replicate 17 [0, 1]).flatten
  obtain ⟨hmembers, hprocessed, hrenamed⟩ := hall.2 hdone
  obtain ⟨m, merged, hm, hmerged, hmix, hreceived, -⟩ := hmembers 1 "second" rfl
  exact ⟨hdone, hcounts, ⟨m, merged, hm, hmerged, hmix, hreceived⟩, hprocessed, hrenamed⟩

end Team

end MeshTelemetry
