import Mathlib.Algebra.BigOperators.Group.Finset.Piecewise
import MeshTelemetry.Proofs.Fanout.Offering
import MeshTelemetry.Proofs.Receiver.Files
import MeshTelemetry.Receiver.Delivery

/-!
# MeshTelemetry.Proofs.Receiver.Deliveries

Concurrent deliveries to a set of receivers, in any interleaving of their steps.

* `Delivery.receive_steps`: a delivery that no other one interrupts is `Members.receive`.
* `Delivery.Step`: what one step can do.
* `Deliveries.Consistent`: the counts of the members and the stages of the deliveries agree, at any
  time; `Deliveries.step_consistent`: the step of this invariant.
* `Deliveries.Consistent.settled`: what came to a member, once all deliveries have returned.
* `Deliveries.run_audit`: once all deliveries have returned, the counts can be audited against each
  other.
-/

namespace MeshTelemetry

variable {ℓ : Type} [Sink ℓ]

omit [Sink ℓ] in
theorem Members.toList_ofList (receivers : List (Receiver ℓ)) :
    (Members.ofList receivers).toList = receivers.map (⟨·, 0, 0⟩) := by
  induction receivers with
  | nil => rfl
  | cons r receivers ih => rw [Members.ofList, Members.toList, ih, List.map_cons]

namespace Delivery

/-- `Step d s answer d' s'`: the next step of `d` leads to `d'`, and `answer` is what a member
answered in it. -/
inductive Step : Delivery → Shared ℓ → Option (Outcome Fault Unit) → Delivery → Shared ℓ → Prop
  | finish {source : Source} {passed : Nat} {s : Shared ℓ} (hnone : s.members[passed]? = none) :
      Step ⟨source, passed, .offering⟩ s none ⟨source, passed, .returned (.ok ())⟩ s
  | offer {source : Source} {passed : Nat} {s : Shared ℓ} {m : Member ℓ} {o : Outcome Fault Unit}
      {receiver : Receiver ℓ} {host : Host} (hm : s.members[passed]? = some m)
      (hr : m.receiver.receive source s.host = (o, receiver, host)) :
      Step ⟨source, passed, .offering⟩ s (some o) ⟨source, passed, .ofAnswer o⟩
        ⟨s.members.set passed { m with receiver }, host⟩
  | accept {source : Source} {passed : Nat} {s : Shared ℓ} :
      Step ⟨source, passed, .accepted⟩ s none ⟨source, passed + 1, .offering⟩
        ⟨s.members.modify passed Member.countReceived, s.host⟩
  | refuse {source : Source} {passed : Nat} {s : Shared ℓ} (e : Fault) :
      Step ⟨source, passed, .refused e⟩ s none ⟨source, passed, .counted e⟩
        ⟨s.members.modify passed Member.countFailure, s.host⟩
  | report {source : Source} {passed : Nat} {s : Shared ℓ} (e : Fault) (host : Host) :
      Step ⟨source, passed, .counted e⟩ s none ⟨source, passed, .returned (.error e)⟩
        ⟨s.members, host⟩
  | returned {source : Source} {passed : Nat} {s : Shared ℓ} (answer : Except Fault Unit) :
      Step ⟨source, passed, .returned answer⟩ s none ⟨source, passed, .returned answer⟩ s
  | crashed {source : Source} {passed : Nat} {s : Shared ℓ} (message : String) :
      Step ⟨source, passed, .crashed message⟩ s none ⟨source, passed, .crashed message⟩ s

theorem step_spec (d : Delivery) (s : Shared ℓ) :
    Step d s (d.answer? s) (d.step s).1 (d.step s).2 := by
  obtain ⟨source, passed, stage⟩ := d
  cases stage with
  | offering =>
    cases hm : s.members[passed]? with
    | none =>
      simp only [answer?, step, offer, hm]
      exact .finish hm
    | some m =>
      simp only [answer?, step, offer, hm]
      exact .offer hm rfl
  | accepted => exact .accept
  | refused e => exact .refuse e
  | counted e =>
    have hreport : (report ⟨source, passed, .counted e⟩ e s).members = s.members := by
      unfold report
      split <;> rfl
    simp only [answer?, step]
    generalize hs : report ⟨source, passed, .counted e⟩ e s = s' at hreport ⊢
    obtain ⟨members, host⟩ := s'
    cases hreport
    exact .report e host
  | returned answer => exact .returned answer
  | crashed message => exact .crashed message

/-- Steps of one delivery that no other one interrupts. -/
inductive Steps : Delivery → Shared ℓ → Delivery → Shared ℓ → Prop
  | refl (d : Delivery) (s : Shared ℓ) : Steps d s d s
  | cons {d d' : Delivery} {s s' : Shared ℓ} :
      Steps (d.step s).1 (d.step s).2 d' s' → Steps d s d' s'

/-- How a delivery ends with an outcome. -/
def Stage.ending : Outcome Fault Unit → Stage
  | .done () => .returned (.ok ())
  | .failed e => .returned (.error e)
  | .crashed m => .crashed m

theorem modify_middle {α : Type} (f : α → α) (before : List α) (a : α) (behind : List α) :
    (before ++ a :: behind).modify before.length f = before ++ f a :: behind := by
  induction before with
  | nil => rfl
  | cons b before ih => simpa using ih

/-- A delivery that no other one interrupts does what a call on the set does, by induction on the
members that are left; those `before` have accepted the source. -/
theorem receive_steps (source : Source) (members : Members ℓ) :
    ∀ (before : List (Member ℓ)) (h : Host), ∃ passed,
      Steps ⟨source, before.length, .offering⟩ ⟨before ++ members.toList, h⟩
        ⟨source, passed, .ending (members.receive source h).1⟩
        ⟨before ++ (members.receive source h).2.1.toList, (members.receive source h).2.2⟩ := by
  induction members using Members.induct with
  | none =>
    intro before h
    refine ⟨before.length, .cons ?_⟩
    have hnone : (before ++ (Members.none : Members ℓ).toList)[before.length]? = none := by
      simp [Members.toList]
    simp only [step, offer, hnone]
    exact .refl _ _
  | more receiver received failures rest ih =>
    intro before h
    have hat : (before ++ (Members.more receiver received failures rest).toList)[before.length]? =
        some ⟨receiver, received, failures⟩ := by
      simp [Members.toList]
    rcases hr : receiver.receive source h with ⟨o, receiver', h'⟩
    have hset : (before ++ (Members.more receiver received failures rest).toList).set before.length
        ⟨receiver', received, failures⟩ =
          before ++ ⟨receiver', received, failures⟩ :: rest.toList := by
      simp [Members.toList]
    rw [Members.receive, hr]
    cases o with
    | done u =>
      obtain ⟨passed, hrest⟩ := ih (before ++ [⟨receiver', received + 1, failures⟩]) h'
      refine ⟨passed, .cons ?_⟩
      simp only [step, offer, hat, hr, hset]
      refine .cons ?_
      simp only [Stage.ofAnswer, step, modify_middle]
      simpa [Members.toList, Member.countReceived] using hrest
    | failed e =>
      refine ⟨before.length, .cons ?_⟩
      simp only [step, offer, hat, hr, hset]
      refine .cons (.cons ?_)
      simp only [Stage.ofAnswer, step, report, modify_middle, List.getElem?_append_right,
        Nat.le_refl, Nat.sub_self, List.getElem?_cons_zero]
      exact .refl _ _
    | crashed m =>
      refine ⟨before.length, .cons ?_⟩
      simp only [step, offer, hat, hr, hset]
      exact .refl _ _

/-- The set has accepted the source. -/
def isAccepted (d : Delivery) : Bool :=
  match d.stage with
  | .returned (.ok ()) => true
  | _ => false

/-- A member has refused the source and has counted that. -/
def isRefused (d : Delivery) : Bool :=
  match d.stage with
  | .counted _ => true
  | .returned (.error _) => true
  | _ => false

/-- How many members have accepted the source, whether they have counted it or not. -/
def accepted (d : Delivery) : Nat :=
  match d.stage with
  | .accepted => d.passed + 1
  | _ => d.passed

/-- Where a delivery to `n` members may be: it is behind all of them only if it has returned, or is
about to. -/
def Within (n : Nat) (d : Delivery) : Prop :=
  match d.stage with
  | .offering => d.passed ≤ n
  | .returned (.ok ()) => d.passed = n
  | _ => d.passed < n

variable {d d' : Delivery} {s s' : Shared ℓ} {answer : Option (Outcome Fault Unit)}

theorem Step.length (h : Step d s answer d' s') : s'.members.length = s.members.length := by
  cases h <;> simp

theorem Step.within (h : Step d s answer d' s') (hd : d.Within s.members.length) :
    d'.Within s.members.length := by
  cases h with
  | finish hnone =>
    have hle := List.getElem?_eq_none_iff.mp hnone
    simp only [Within] at hd ⊢
    omega
  | @offer _ _ _ _ o _ _ hm hr =>
    obtain ⟨hlt, -⟩ := List.getElem?_eq_some_iff.mp hm
    cases o <;> exact hlt
  | accept => exact hd
  | refuse e => exact hd
  | report e host => exact hd
  | returned answer => exact hd
  | crashed message => exact hd

theorem Step.counts (h : Step d s answer d' s') {j : Nat} {m' : Member ℓ}
    (hm' : s'.members[j]? = some m') :
    ∃ m, s.members[j]? = some m ∧
      m'.received + (decide (j < d.passed)).toNat =
        m.received + (decide (j < d'.passed)).toNat ∧
      m'.failures + (d.passed = j && d.isRefused : Bool).toNat =
        m.failures + (d'.passed = j && d'.isRefused : Bool).toNat := by
  cases h with
  | finish hnone => exact ⟨m', hm', rfl, rfl⟩
  | @offer source passed _ m o receiver host hm hr =>
    have hcalm : isRefused ⟨source, passed, .ofAnswer o⟩ = false := by cases o <;> rfl
    rw [hcalm]
    by_cases hj : passed = j
    · subst hj
      obtain ⟨hlt, -⟩ := List.getElem?_eq_some_iff.mp hm
      rw [List.getElem?_set_self hlt] at hm'
      cases hm'
      exact ⟨m, hm, rfl, rfl⟩
    · rw [List.getElem?_set_ne hj] at hm'
      exact ⟨m', hm', rfl, rfl⟩
  | @accept source passed =>
    rw [List.getElem?_modify] at hm'
    obtain ⟨m, hm, rfl⟩ := Option.map_eq_some_iff.mp hm'
    refine ⟨m, hm, ?_, ?_⟩
    · by_cases hj : passed = j
      · simp [hj, Member.countReceived]
      · have hsame : decide (j < passed + 1) = decide (j < passed) :=
          decide_eq_decide.mpr (by omega)
        rw [if_neg hj, hsame]
    · by_cases hj : passed = j <;> simp [hj, Member.countReceived, isRefused]
  | @refuse source passed _ e =>
    rw [List.getElem?_modify] at hm'
    obtain ⟨m, hm, rfl⟩ := Option.map_eq_some_iff.mp hm'
    by_cases hj : passed = j <;> exact ⟨m, hm, by simp [hj, Member.countFailure, isRefused]⟩
  | report e host => exact ⟨m', hm', rfl, rfl⟩
  | returned answer => exact ⟨m', hm', rfl, rfl⟩
  | crashed message => exact ⟨m', hm', rfl, rfl⟩

/-- A step takes a source to one more member exactly if it is accepted there, and what is offered
is offered to the first member that has not accepted it. -/
theorem Step.accepted (h : Step d s answer d' s') :
    d'.source = d.source ∧ (∀ o, answer = some o → d.accepted = d.passed) ∧
      ∀ j < d'.accepted, j < d.accepted ∨ j = d.passed ∧ answer = some (.done ()) := by
  cases h with
  | @offer source passed _ m o receiver host hm hr =>
    refine ⟨rfl, fun _ _ => rfl, fun j hj => ?_⟩
    cases o with
    | done u =>
      rcases Nat.lt_succ_iff_lt_or_eq.mp hj with hlt | heq
      · exact .inl hlt
      · exact .inr ⟨heq, rfl⟩
    | failed e => exact .inl hj
    | crashed m => exact .inl hj
  | finish hnone => exact ⟨rfl, nofun, fun j hj => .inl hj⟩
  | accept => exact ⟨rfl, nofun, fun j hj => .inl hj⟩
  | refuse e => exact ⟨rfl, nofun, fun j hj => .inl hj⟩
  | report e host => exact ⟨rfl, nofun, fun j hj => .inl hj⟩
  | returned answer => exact ⟨rfl, nofun, fun j hj => .inl hj⟩
  | crashed message => exact ⟨rfl, nofun, fun j hj => .inl hj⟩

end Delivery

section Counting

variable {α : Type}

theorem countP_set_add (p : α → Bool) {l : List α} {i : Nat} {a : α} (h : l[i]? = some a) (b : α) :
    (l.set i b).countP p + (p a).toNat = l.countP p + (p b).toNat := by
  induction l generalizing i with
  | nil => cases h
  | cons x l ih =>
    cases i with
    | zero =>
      cases h
      simp only [List.set_cons_zero, List.countP_cons]
      cases p a <;> cases p b <;> simp
    | succ i =>
      simp only [List.set_cons_succ, List.countP_cons]
      have := ih (i := i) h
      omega

theorem countP_eq_add {p q r : α → Bool} {l : List α}
    (h : ∀ a ∈ l, (p a).toNat = (q a).toNat + (r a).toNat) :
    l.countP p = l.countP q + l.countP r := by
  induction l with
  | nil => rfl
  | cons a l ih =>
    rw [List.forall_mem_cons] at h
    have hl := ih h.2
    have ha := h.1
    simp only [List.countP_cons]
    cases hp : p a <;> cases hq : q a <;> cases hr : r a <;> simp [hp, hq, hr] at ha ⊢ <;> omega

theorem sum_countP_fibre (f : α → Nat) (q : α → Bool) (n : Nat) {l : List α}
    (h : ∀ a ∈ l, q a = true → f a < n) :
    ∑ j ∈ Finset.range n, l.countP (fun a => f a = j && q a) = l.countP q := by
  induction l with
  | nil => simp
  | cons a l ih =>
    rw [List.forall_mem_cons] at h
    simp only [List.countP_cons, Finset.sum_add_distrib, ih h.2]
    cases hq : q a with
    | false => simp
    | true => simp [Finset.sum_ite_eq, h.1 hq]

end Counting

namespace Deliveries

/-- Each delivery hands its own source over, and to a member only after the one before it has
accepted the source. -/
def InOrder (sources : List Source) (handovers : List Handover) : Prop :=
  ∀ (k : Nat) (o : Handover), handovers[k]? = some o → sources[o.delivery]? = some o.source ∧
    ∀ j, o.member = j + 1 →
      ∃ k' < k, handovers[k']? = some ⟨o.delivery, o.source, j, .done ()⟩

theorem InOrder.append {sources : List Source} {handovers new : List Handover}
    (h : InOrder sources handovers)
    (hnew : ∀ o ∈ new, sources[o.delivery]? = some o.source ∧
      ∀ j, o.member = j + 1 → ⟨o.delivery, o.source, j, .done ()⟩ ∈ handovers) :
    InOrder sources (handovers ++ new) := by
  have hearlier : ∀ {k : Nat} {o : Handover}, handovers[k]? = some o →
      (handovers ++ new)[k]? = some o := by
    intro k o ho
    rw [List.getElem?_append_left (List.getElem?_eq_some_iff.mp ho).1]
    exact ho
  intro k o ho
  rw [List.getElem?_append] at ho
  split at ho
  · obtain ⟨hcarried, horder⟩ := h k o ho
    refine ⟨hcarried, fun j hj => ?_⟩
    obtain ⟨k', hk', ho'⟩ := horder j hj
    exact ⟨k', hk', hearlier ho'⟩
  · next hlate =>
    obtain ⟨hcarried, hbefore⟩ := hnew o (List.mem_of_getElem? ho)
    refine ⟨hcarried, fun j hj => ?_⟩
    obtain ⟨k', hk', ho'⟩ := List.getElem_of_mem (hbefore j hj)
    exact ⟨k', by omega, hearlier (ho' ▸ List.getElem?_eq_getElem hk')⟩

/-- The invariant of deliveries of `sources` to `n` members. At any time the counts of a member are
the numbers of deliveries that are past it, or that it has stopped. -/
structure Consistent (sources : List Source) (n : Nat) (s : Deliveries ℓ) : Prop where
  size : s.shared.members.length = n
  within : ∀ d ∈ s.list, d.Within n
  counts : ∀ j m, s.shared.members[j]? = some m →
    m.received = s.list.countP (fun d => j < d.passed) ∧
      m.failures = s.list.countP (fun d => d.passed = j && d.isRefused)
  carried : s.list.map Delivery.source = sources
  accepted : ∀ i d, s.list[i]? = some d → ∀ j < d.accepted,
    ⟨i, d.source, j, .done ()⟩ ∈ s.handovers
  ordered : InOrder sources s.handovers

omit [Sink ℓ] in
theorem start_consistent (receivers : List (Receiver ℓ)) (sources : List Source) (h : Host) :
    (start receivers sources h).Consistent sources receivers.length := by
  have hmembers : (start receivers sources h).shared.members = receivers.map (⟨·, 0, 0⟩) :=
    Members.toList_ofList receivers
  refine ⟨by rw [hmembers, List.length_map], ?_, ?_, ?_, ?_,
    fun _ _ ho => by simp [start] at ho⟩
  · intro d hd
    obtain ⟨source, -, rfl⟩ := List.mem_map.mp hd
    exact Nat.zero_le _
  · intro j m hm
    rw [hmembers, List.getElem?_map] at hm
    obtain ⟨r, -, rfl⟩ := Option.map_eq_some_iff.mp hm
    simp [start, List.countP_map, Function.comp_def, Delivery.start, Delivery.isRefused]
  · simp [start, Function.comp_def, Delivery.start]
  · intro i d hd j hj
    simp only [start, List.getElem?_map] at hd
    obtain ⟨source, -, rfl⟩ := Option.map_eq_some_iff.mp hd
    cases hj

theorem step_consistent {sources : List Source} {n : Nat} {s : Deliveries ℓ}
    (hs : s.Consistent sources n) (i : Nat) : (s.step i).Consistent sources n := by
  cases hd : s.list[i]? with
  | none => simpa only [step, hd] using hs
  | some d =>
    have hstep := d.step_spec s.shared
    rcases hr : d.step s.shared with ⟨d', shared⟩
    rw [hr] at hstep
    simp only [step, hd, hr]
    generalize d.answer? s.shared = answer at hstep
    simp only at hstep
    obtain ⟨hsource, hnext, hgain⟩ := hstep.accepted
    have hi : i < s.list.length := (List.getElem?_eq_some_iff.mp hd).1
    have hwithin := hs.within d (List.mem_of_getElem? hd)
    rw [← hs.size] at hwithin
    have hmap : (s.list.set i d').map Delivery.source = sources := by
      obtain ⟨hlt, hat⟩ := List.getElem?_eq_some_iff.mp hd
      rw [List.map_set, hsource, ← hs.carried, ← hat, ← List.getElem_map Delivery.source,
        List.set_getElem_self]
      rwa [List.length_map]
    refine ⟨hstep.length.trans hs.size, ?_, ?_, hmap, ?_, ?_⟩
    · intro e he
      rcases List.mem_or_eq_of_mem_set he with he | rfl
      · exact hs.within e he
      · rw [← hs.size]
        exact hstep.within hwithin
    · intro j m' hm'
      obtain ⟨m, hm, hreceived, hfailures⟩ := hstep.counts hm'
      obtain ⟨hbefore, hbefore'⟩ := hs.counts j m hm
      have hset := countP_set_add (fun d => decide (j < d.passed)) hd d'
      have hset' := countP_set_add (fun d => d.passed = j && d.isRefused) hd d'
      constructor
      · show m'.received = (s.list.set i d').countP _
        omega
      · show m'.failures = (s.list.set i d').countP _
        omega
    · intro k e he j hj
      by_cases hk : i = k
      · subst hk
        rw [List.getElem?_set_self hi] at he
        cases he
        rcases hgain j hj with hbefore | ⟨rfl, rfl⟩
        · rw [hsource]
          exact List.mem_append_left _ (hs.accepted i d hd j hbefore)
        · rw [hsource]
          exact List.mem_append_right _ List.mem_cons_self
      · rw [List.getElem?_set_ne hk] at he
        exact List.mem_append_left _ (hs.accepted k e he j hj)
    · refine hs.ordered.append fun o ho => ?_
      obtain ⟨a, ha, rfl⟩ := List.mem_map.mp ho
      have hpassed := hnext a (Option.mem_toList.mp ha)
      refine ⟨?_, fun j hj => hs.accepted i d hd j ?_⟩
      · rw [← hs.carried, List.getElem?_map, hd]
        rfl
      · simp only at hj
        omega

theorem run_consistent {sources : List Source} {n : Nat} (schedule : List Nat) :
    ∀ {s : Deliveries ℓ}, s.Consistent sources n → (s.run schedule).Consistent sources n := by
  induction schedule with
  | nil => exact fun hs => hs
  | cons i schedule ih => exact fun hs => ih (step_consistent hs i)

/-- The sources that a member accepted, as it has counted them. -/
def received (s : Deliveries ℓ) (j : Nat) : Nat :=
  match s.shared.members[j]? with
  | none => 0
  | some m => m.received

/-- The sources that a member refused, as it has counted them. -/
def failures (s : Deliveries ℓ) (j : Nat) : Nat :=
  match s.shared.members[j]? with
  | none => 0
  | some m => m.failures

omit [Sink ℓ] in
theorem Consistent.member {sources : List Source} {n : Nat} {s : Deliveries ℓ}
    (hs : s.Consistent sources n) {j : Nat} (hj : j < n) :
    s.received j = s.list.countP (fun d => j < d.passed) ∧
      s.failures j = s.list.countP (fun d => d.passed = j && d.isRefused) := by
  rw [← hs.size] at hj
  have hm := List.getElem?_eq_getElem hj
  simp only [received, failures, hm]
  exact hs.counts j _ hm

/-- When all deliveries have returned, each has been accepted by all members, or was refused by the
one behind those that accepted it. -/
theorem returned_cases {d : Delivery} {n : Nat} (hreturned : d.hasReturned) (hd : d.Within n) :
    (d.isAccepted = true ∧ d.isRefused = false ∧ d.passed = n) ∨
      (d.isAccepted = false ∧ d.isRefused = true ∧ d.passed < n) := by
  obtain ⟨source, passed, stage⟩ := d
  obtain ⟨answer, rfl⟩ : ∃ answer, stage = .returned answer := hreturned
  cases answer with
  | ok u => exact .inl ⟨rfl, rfl, hd⟩
  | error e => exact .inr ⟨rfl, rfl, hd⟩

omit [Sink ℓ] in
theorem Consistent.settled {sources : List Source} {n : Nat} {s : Deliveries ℓ}
    (hs : s.Consistent sources n) (hdone : s.areDone) {j : Nat} (hj : j < n) :
    s.list.countP (fun d => j ≤ d.passed) = s.received j + s.failures j := by
  rw [(hs.member hj).1, (hs.member hj).2]
  refine countP_eq_add fun d hd => ?_
  rcases returned_cases (hdone d hd) (hs.within d hd) with
    ⟨-, hrefused, hpassed⟩ | ⟨-, hrefused, hpassed⟩
  · simp [hrefused, hpassed, hj, Nat.le_of_lt hj]
  · rcases Nat.lt_trichotomy j d.passed with hlt | heq | hgt
    · simp [hlt, Nat.le_of_lt hlt, Nat.ne_of_gt hlt]
    · simp [hrefused, heq]
    · simp [Nat.not_le_of_lt hgt, Nat.lt_asymm hgt, Nat.ne_of_lt hgt]

/-- In every interleaving of deliveries to a set, a source reaches a member only after the one
before has accepted it; and once all have returned, the counts of neighbours differ by what the
later one refused, from the number of all deliveries down to the number of those accepted. -/
theorem run_audit {receivers : List (Receiver ℓ)} (hnonempty : receivers ≠ [])
    (sources : List Source) (h : Host) (schedule : List Nat) :
    let s := (start receivers sources h).run schedule
    InOrder sources s.handovers ∧
      (s.areDone →
        s.received 0 + s.failures 0 = sources.length ∧
        (∀ j, j + 1 < receivers.length →
          s.received j = s.received (j + 1) + s.failures (j + 1)) ∧
        s.received (receivers.length - 1) = s.list.countP Delivery.isAccepted ∧
        ∑ j ∈ Finset.range receivers.length, s.failures j = s.list.countP Delivery.isRefused) := by
  intro s
  have hs : s.Consistent sources receivers.length :=
    run_consistent schedule (start_consistent receivers sources h)
  have hpos : 0 < receivers.length := List.length_pos_iff.mpr hnonempty
  refine ⟨hs.ordered, fun hdone => ?_⟩
  have hcases : ∀ d ∈ s.list, _ := fun d hd => returned_cases (hdone d hd) (hs.within d hd)
  refine ⟨?_, fun j hj => ?_, ?_, ?_⟩
  · -- all come to the first member
    rw [← hs.settled hdone hpos, ← hs.carried, List.length_map]
    simp only [Nat.zero_le, decide_true, List.countP_true]
  · -- those that come to the next member are those that this one has accepted
    rw [← hs.settled hdone hj, (hs.member (Nat.lt_of_succ_lt hj)).1]
    rfl
  · rw [(hs.member (Nat.sub_lt hpos Nat.one_pos)).1]
    refine List.countP_congr fun d hd => ?_
    rcases hcases d hd with ⟨haccepted, -, hpassed⟩ | ⟨haccepted, -, hpassed⟩
    · simp only [haccepted, decide_eq_true_eq, iff_true]
      omega
    · simp only [haccepted, decide_eq_true_eq, Bool.false_eq_true, iff_false]
      omega
  · rw [← sum_countP_fibre Delivery.passed Delivery.isRefused receivers.length]
    · exact Finset.sum_congr rfl fun j hj => (hs.member (Finset.mem_range.mp hj)).2
    · intro d hd hrefused
      rcases hcases d hd with ⟨-, hcalm, -⟩ | ⟨-, -, hpassed⟩
      · rw [hrefused] at hcalm
        cases hcalm
      · exact hpassed

/-- Two members of which the first accepts two sources and the second one. -/
def quotas : List (Receiver Dispatcher.Quota) := [.sink ⟨2⟩, .sink ⟨1⟩]

def refreshes : List Source := ["a", "b", "c"].map fun name => .instanceUpdate ⟨"id", name, 0⟩

/-- Three deliveries take turns, up to the eighth step of each. -/
def turns : List Nat := (List.replicate 8 [0, 1, 2]).flatten

/-- The third source is refused by the first member, and the second one by the second member. -/
theorem run_audit_turns :
    let s := (start quotas refreshes (.withStore (.initial []))).run turns
    quotas ≠ [] ∧ s.areDone ∧
      (s.received 0 = 2 ∧ s.failures 0 = 1 ∧ s.received 1 = 1 ∧ s.failures 1 = 1) ∧
      InOrder refreshes s.handovers ∧
      s.received 0 + s.failures 0 = 3 ∧ s.received 0 = s.received 1 + s.failures 1 ∧
      s.list.countP Delivery.isAccepted = 1 ∧ s.list.countP Delivery.isRefused = 2 := by
  intro s
  have hnonempty : quotas ≠ [] := nofun
  have hstages : s.list.map Delivery.stage =
      [.returned (.ok ()), .returned (.error (.other "full")),
        .returned (.error (.other "full"))] := rfl
  have hdone : s.areDone := by
    intro d hd
    have hmem : d.stage ∈ s.list.map Delivery.stage := List.mem_map_of_mem hd
    simp only [hstages, List.mem_cons, List.not_mem_nil, or_false] at hmem
    rcases hmem with h | h | h <;> exact ⟨_, h⟩
  obtain ⟨horder, haudit⟩ := run_audit hnonempty refreshes (.withStore (.initial [])) turns
  obtain ⟨hall, hnext, -, -⟩ := haudit hdone
  exact ⟨hnonempty, hdone, ⟨rfl, rfl, rfl, rfl⟩, horder, hall, hnext 0 (by decide), rfl, rfl⟩

end Deliveries

end MeshTelemetry
