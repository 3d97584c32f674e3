import MeshTelemetry.Proofs.Replay.Alike
import MeshTelemetry.Receiver.Request

/-!
# MeshTelemetry.Proofs.Receiver.Nesting

Sets within sets. A tree of receivers does with its sinks what a single set of all of them does,
from left to right, although the two policies of a set differ: a source stops at the first sink that
refuses it, and a flush goes on to the last sink whatever happens before.

* `Receiver.leaves`: the sinks of a tree; `Receiver.flat`: one set of them.
* `Leaves.serve`: what a call does to sinks in a row; `Receiver.serve_leaves`: a tree does this to
  its leaves.
* `Noted`: a sink that writes down what it is asked; `Request.Served`: which sinks are asked, and
  what comes of it.
* `Receiver.serveAll_flat`: a tree and its flat set, asked the same in a row.
-/

namespace MeshTelemetry

/-- The hosts differ only in what sets have logged. -/
abbrev Host.SameButSets : Host → Host → Prop := Host.Alike (·.component ≠ .receiverSet) none

namespace Host.SameButSets

theorem refl (h : Host) : Host.SameButSets h h :=
  ⟨⟨rfl, rfl, fun _ _ => rfl, nofun⟩, rfl, rfl⟩

/-- Two hosts differ only in what sets have logged when both differ so from a third. -/
theorem of_common {h h' g : Host} (hg : Host.SameButSets h g) (hg' : Host.SameButSets h' g) :
    Host.SameButSets h h' where
  store := {
    home := hg'.store.home.symm.trans hg.store.home
    shortages := hg'.store.shortages.symm.trans hg.store.shortages
    off := fun loc hloc => (hg'.store.off loc hloc).symm.trans (hg.store.off loc hloc)
    here := nofun }
  meters := hg'.meters.symm.trans hg.meters
  events := hg'.events.symm.trans hg.events

end Host.SameButSets

/-- The sinks do not see what sets have logged. -/
abbrev Sink.Unaware (ℓ : Type) [Sink ℓ] : Prop := Sink.Respects Host.SameButSets fun _ : ℓ => True

/-- No receiver of the program can tell whether it stands in a set. -/
theorem Output.unaware : Sink.Unaware Output := by
  have hany : Output.WritesTo (Difference.Spares none) = fun _ => True := by
    funext o
    refine eq_true fun loc _ c c' h => ?_
    cases h
  have hrespects : Sink.Respects Host.SameButSets (Output.WritesTo (Difference.Spares none)) :=
    Host.Alike.respects
  rwa [hany] at hrespects

variable {ℓ : Type}

mutual

/-- The sinks of a tree from left to right. -/
def Receiver.leaves : Receiver ℓ → List ℓ
  | .sink s => [s]
  | .set _ members => members.leaves

def Members.leaves : Members ℓ → List ℓ
  | .none => []
  | .more r _ _ rest => r.leaves ++ rest.leaves

end

/-- One set of all sinks of a tree, in their order. -/
def Receiver.flat (name : String) (r : Receiver ℓ) : Receiver ℓ :=
  .set name (.ofList (r.leaves.map .sink))

theorem Members.leaves_ofList (sinks : List ℓ) :
    (Members.ofList (sinks.map Receiver.sink)).leaves = sinks := by
  induction sinks with
  | nil => rfl
  | cons s sinks ih => exact congrArg (s :: ·) ih

theorem Receiver.leaves_flat (name : String) (r : Receiver ℓ) : (r.flat name).leaves = r.leaves :=
  Members.leaves_ofList r.leaves

/-- What two flushes in a row come to: the first failure, unless there is a crash. -/
def Outcome.andThen {ε : Type} : Outcome ε Unit → Outcome ε Unit → Outcome ε Unit
  | .done (), o => o
  | .failed _, .crashed m => .crashed m
  | .failed e, _ => .failed e
  | .crashed m, _ => .crashed m

theorem Outcome.andThen_assoc {ε : Type} (a b c : Outcome ε Unit) :
    (a.andThen b).andThen c = a.andThen (b.andThen c) := by
  cases a <;> cases b <;> cases c <;> rfl

theorem Outcome.failed_andThen {ε : Type} (e : ε) {o : Outcome ε Unit}
    (ho : ∀ m, o ≠ .crashed m) : (Outcome.failed e).andThen o = .failed e := by
  cases o with
  | done u => rfl
  | failed e' => rfl
  | crashed m => exact absurd rfl (ho m)

variable [Sink ℓ]

namespace Leaves

/-- Offers a source to one sink after the other, up to the first that does not accept it. -/
def receive (source : Source) : List ℓ → Host → Step (List ℓ)
  | [], h => (.done (), [], h)
  | s :: rest, h =>
    match Sink.receive s source h with
    | (.done (), s, h) =>
      match receive source rest h with
      | (o, rest, h) => (o, s :: rest, h)
    | (o, s, h) => (o, s :: rest, h)

/-- Flushes one sink after the other; only a crash keeps those behind it from being flushed. -/
def flush : List ℓ → Host → Step (List ℓ)
  | [], h => (.done (), [], h)
  | s :: rest, h =>
    match Sink.flush s h with
    | (.crashed m, s, h) => (.crashed m, s :: rest, h)
    | (o, s, h) =>
      match flush rest h with
      | (o', rest, h) => (o.andThen o', s :: rest, h)

def serve : Request → List ℓ → Host → Step (List ℓ)
  | .receive source => receive source
  | .flush => flush

theorem receive_append (source : Source) (before behind : List ℓ) (h : Host) :
    receive source (before ++ behind) h =
      match receive source before h with
      | (.done (), before, h) =>
        match receive source behind h with
        | (o, behind, h) => (o, before ++ behind, h)
      | (o, before, h) => (o, before ++ behind, h) := by
  induction before generalizing h with
  | nil => rfl
  | cons s before ih =>
    rw [List.cons_append, receive, receive]
    rcases Sink.receive s source h with ⟨o, s1, h1⟩
    cases o with
    | failed e => rfl
    | crashed m => rfl
    | done u =>
      simp only [ih h1]
      rcases receive source before h1 with ⟨o, before1, h2⟩
      cases o <;> rfl

theorem flush_append (before behind : List ℓ) (h : Host) :
    flush (before ++ behind) h =
      match flush before h with
      | (.crashed m, before, h) => (.crashed m, before ++ behind, h)
      | (o, before, h) =>
        match flush behind h with
        | (o', behind, h) => (o.andThen o', before ++ behind, h) := by
  induction before generalizing h with
  | nil => rfl
  | cons s before ih =>
    rw [List.cons_append, flush, flush]
    rcases Sink.flush s h with ⟨o, s1, h1⟩
    cases o with
    | crashed m => rfl
    | done u =>
      simp only [ih h1]
      rcases flush before h1 with ⟨o, before1, h2⟩
      cases o <;> rfl
    | failed e =>
      simp only [ih h1]
      rcases flush before h1 with ⟨o, before1, h2⟩
      cases o with
      | crashed m => rfl
      | done u => rfl
      | failed e' =>
        simp only [← Outcome.andThen_assoc]
        rfl

end Leaves

/-- Calls on a tree, of which only its leaves are seen. -/
def Receiver.shown {α : Type} (r : α × Receiver ℓ × Host) : α × List ℓ × Host :=
  (r.1, r.2.1.leaves, r.2.2)

def Members.shown (r : Step (Members ℓ)) : Step (List ℓ) := (r.1, r.2.1.leaves, r.2.2)

/-- The answers and the leaves are the same, and the hosts differ only in what sets have logged. -/
abbrev SameCalls {α : Type} : α × List ℓ × Host → α × List ℓ × Host → Prop :=
  Agree Host.SameButSets fun _ => True

mutual

/-- By recursion on the tree: the leaves of a member are offered the source in a row, and so are
those of the members behind it unless one of the first has not accepted it. What a set logs of a
refusal is not seen by any leaf. -/
theorem Receiver.receive_leaves (hblind : Sink.Unaware ℓ) (source : Source) :
    ∀ (r : Receiver ℓ) {h h' : Host}, Host.SameButSets h h' →
      SameCalls (Receiver.shown (r.receive source h)) (Leaves.receive source r.leaves h')
  | .sink s, h, h', hh => by
    obtain ⟨o, s1, h1, h1', hr, hr', -, hh1⟩ := hblind.receive source (s := s) trivial hh
    refine ⟨o, [s1], h1, h1', ?_, ?_, trivial, hh1⟩
    · rw [Receiver.receive, hr]
      rfl
    · rw [Receiver.leaves, Leaves.receive, hr']
      cases o <;> rfl
  | .set name members, h, h', hh => by
    obtain ⟨o, leaves, h1, h1', hr, hr', -, hh1⟩ := Members.receive_leaves hblind source members hh
    refine ⟨o, leaves, h1, h1', ?_, hr', trivial, hh1⟩
    rw [Receiver.receive, ← hr]
    rfl

theorem Members.receive_leaves (hblind : Sink.Unaware ℓ) (source : Source) :
    ∀ (members : Members ℓ) {h h' : Host}, Host.SameButSets h h' →
      SameCalls (Members.shown (members.receive source h)) (Leaves.receive source members.leaves h')
  | .none, h, h', hh => ⟨.done (), [], h, h', rfl, rfl, trivial, hh⟩
  | .more r received failures rest, h, h', hh => by
    obtain ⟨o, leaves, h1, h1', hr, hr', -, hh1⟩ := Receiver.receive_leaves hblind source r hh
    rw [Members.receive, Members.leaves, Leaves.receive_append, hr']
    rcases hcall : r.receive source h with ⟨o, r1, h1⟩
    rw [hcall] at hr
    cases hr
    cases o with
    | crashed m => exact ⟨_, r1.leaves ++ rest.leaves, h1, h1', rfl, rfl, trivial, hh1⟩
    | failed e =>
      exact ⟨_, r1.leaves ++ rest.leaves, _, h1', rfl, rfl, trivial, hh1.log_left rfl⟩
    | done u =>
      obtain ⟨o, leaves, h2, h2', hrest, hrest', -, hh2⟩ :=
        Members.receive_leaves hblind source rest hh1
      rcases hcall : rest.receive source h1 with ⟨o, rest1, h2⟩
      rw [hcall] at hrest
      cases hrest
      simp only [hrest', hcall]
      exact ⟨o, r1.leaves ++ rest1.leaves, h2, h2', rfl, rfl, trivial, hh2⟩

end

mutual

/-- By recursion on the tree, as for a source. A failure is logged, and the leaves behind it are
flushed all the same. -/
theorem Receiver.flush_leaves (hblind : Sink.Unaware ℓ) :
    ∀ (r : Receiver ℓ) {h h' : Host}, Host.SameButSets h h' →
      SameCalls (Receiver.shown (r.flush h)) (Leaves.flush r.leaves h')
  | .sink s, h, h', hh => by
    obtain ⟨o, s1, h1, h1', hr, hr', -, hh1⟩ := hblind.flush (s := s) trivial hh
    refine ⟨o, [s1], h1, h1', ?_, ?_, trivial, hh1⟩
    · rw [Receiver.flush, hr]
      rfl
    · rw [Receiver.leaves, Leaves.flush, hr']
      cases o <;> rfl
  | .set name members, h, h', hh => by
    obtain ⟨o, leaves, h1, h1', hr, hr', -, hh1⟩ := Members.flush_leaves hblind members hh
    refine ⟨o, leaves, h1, h1', ?_, hr', trivial, hh1⟩
    rw [Receiver.flush, ← hr]
    rfl

theorem Members.flush_leaves (hblind : Sink.Unaware ℓ) :
    ∀ (members : Members ℓ) {h h' : Host}, Host.SameButSets h h' →
      SameCalls (Members.shown (members.flush h)) (Leaves.flush members.leaves h')
  | .none, h, h', hh => ⟨.done (), [], h, h', rfl, rfl, trivial, hh⟩
  | .more r received failures rest, h, h', hh => by
    obtain ⟨o, leaves, h1, h1', hr, hr', -, hh1⟩ := Receiver.flush_leaves hblind r hh
    rw [Members.flush, Members.leaves, Leaves.flush_append, hr']
    rcases hcall : r.flush h with ⟨o, r1, h1⟩
    rw [hcall] at hr
    cases hr
    cases o with
    | crashed m => exact ⟨_, r1.leaves ++ rest.leaves, h1, h1', rfl, rfl, trivial, hh1⟩
    | done u =>
      obtain ⟨o, leaves, h2, h2', hrest, hrest', -, hh2⟩ := Members.flush_leaves hblind rest hh1
      rcases hcall : rest.flush h1 with ⟨o, rest1, h2⟩
      rw [hcall] at hrest
      cases hrest
      simp only [hrest', hcall]
      exact ⟨o, r1.leaves ++ rest1.leaves, h2, h2', rfl, rfl, trivial, hh2⟩
    | failed e =>
      have hlogged : Host.SameButSets (logFlushFailure r1 e h1) h1' := hh1.log_left rfl
      obtain ⟨o, leaves, h2, h2', hrest, hrest', -, hh2⟩ :=
        Members.flush_leaves hblind rest hlogged
      rcases hcall : rest.flush (logFlushFailure r1 e h1) with ⟨o, rest1, h2⟩
      rw [hcall] at hrest
      cases hrest
      simp only [hrest', hcall]
      cases o <;> exact ⟨_, r1.leaves ++ rest1.leaves, h2, h2', rfl, rfl, trivial, hh2⟩

end

/-- A sink with its requests so far and what it answered, the first request first. -/
structure Noted (ℓ : Type) where
  sink : ℓ
  notes : List (Request × Outcome Fault Unit)

namespace Noted

def note (n : Noted ℓ) (request : Request) : Step ℓ → Step (Noted ℓ)
  | (o, sink, h) => (o, ⟨sink, n.notes ++ [(request, o)]⟩, h)

instance : Sink (Noted ℓ) where
  name n := Sink.name n.sink
  receive n source h := n.note (.receive source) (Sink.receive n.sink source h)
  flush n h := n.note .flush (Sink.flush n.sink h)
  close n h := Sink.close n.sink h

theorem unaware (hblind : Sink.Unaware ℓ) : Sink.Unaware (Noted ℓ) where
  receive := by
    intro n h h' source _ hh
    obtain ⟨o, s1, h1, h1', hr, hr', -, hh1⟩ := hblind.receive source (s := n.sink) trivial hh
    exact ⟨o, _, h1, h1', congrArg (n.note _) hr, congrArg (n.note _) hr', trivial, hh1⟩
  flush := by
    intro n h h' _ hh
    obtain ⟨o, s1, h1, h1', hr, hr', -, hh1⟩ := hblind.flush (s := n.sink) trivial hh
    exact ⟨o, _, h1, h1', congrArg (n.note _) hr, congrArg (n.note _) hr', trivial, hh1⟩
  close := fun _ hh => hblind.close trivial hh

end Noted

omit [Sink ℓ] in
/-- `Asked request leaves answers leaves'`: the first leaves, as many as there are answers, were
each asked once and gave these answers, and the others were not asked. -/
inductive Asked (request : Request) :
    List (Noted ℓ) → List (Outcome Fault Unit) → List (Noted ℓ) → Prop
  | others (leaves : List (Noted ℓ)) : Asked request leaves [] leaves
  | next {leaf leaf' : Noted ℓ} {answer : Outcome Fault Unit} {leaves leaves' : List (Noted ℓ)}
      {answers : List (Outcome Fault Unit)}
      (hnote : leaf'.notes = leaf.notes ++ [(request, answer)])
      (hrest : Asked request leaves answers leaves') :
      Asked request (leaf :: leaves) (answer :: answers) (leaf' :: leaves')

/-- The sinks that are asked answer a source: all of them accept it, or the last one asked is the
first that does not. -/
def Offered (count : Nat) (answers : List (Outcome Fault Unit)) (o : Outcome Fault Unit) : Prop :=
  (answers = List.replicate count (.done ()) ∧ o = .done ()) ∨
    ∃ k < count, answers = List.replicate k (.done ()) ++ [o] ∧ o ≠ .done ()

/-- The sinks that are asked answer a flush: all are asked, and the first failure is reported; or
one of them crashes. -/
def Flushed (count : Nat) (answers : List (Outcome Fault Unit)) (o : Outcome Fault Unit) : Prop :=
  (answers.length = count ∧ (∀ m, .crashed m ∉ answers) ∧
      o = (answers.find? (· ≠ .done ())).getD (.done ())) ∨
    ∃ before m, answers = before ++ [.crashed m] ∧ (∀ m', .crashed m' ∉ before) ∧ o = .crashed m

/-- Which leaves a call asks, and what comes of it. -/
def Request.Served (request : Request) (leaves : List (Noted ℓ)) (o : Outcome Fault Unit)
    (leaves' : List (Noted ℓ)) : Prop :=
  ∃ answers, Asked request leaves answers leaves' ∧
    match request with
    | .receive _ => Offered leaves.length answers o
    | .flush => Flushed leaves.length answers o

theorem reported_ne_crashed {answers : List (Outcome Fault Unit)}
    (hnone : ∀ m, .crashed m ∉ answers) (m : String) :
    (answers.find? (· ≠ .done ())).getD (.done ()) ≠ .crashed m := by
  cases hfind : answers.find? (· ≠ .done ()) with
  | none => simp
  | some o =>
    rintro rfl
    exact hnone m (List.mem_of_find?_eq_some hfind)

namespace Leaves

theorem receive_served (source : Source) (leaves : List (Noted ℓ)) (h : Host) :
    (Request.receive source).Served leaves (receive source leaves h).1
      (receive source leaves h).2.1 := by
  induction leaves generalizing h with
  | nil => exact ⟨[], .others [], .inl ⟨rfl, rfl⟩⟩
  | cons leaf leaves ih =>
    rw [receive]
    rcases hcall : Sink.receive leaf source h with ⟨o, leaf1, h1⟩
    have hnote : leaf1.notes = leaf.notes ++ [(.receive source, o)] := by
      cases hcall
      rfl
    cases o with
    | failed e =>
      exact ⟨[.failed e], .next hnote (.others leaves), .inr ⟨0, by simp, rfl, by simp⟩⟩
    | crashed m =>
      exact ⟨[.crashed m], .next hnote (.others leaves), .inr ⟨0, by simp, rfl, by simp⟩⟩
    | done u =>
      obtain ⟨answers, hasked, hoffered⟩ := ih h1
      refine ⟨.done u :: answers, .next hnote hasked, ?_⟩
      rcases hoffered with ⟨rfl, ho⟩ | ⟨k, hk, rfl, ho⟩
      · exact .inl ⟨rfl, ho⟩
      · exact .inr ⟨k + 1, by simpa using hk, rfl, ho⟩

theorem flush_served (leaves : List (Noted ℓ)) (h : Host) :
    Request.flush.Served leaves (flush leaves h).1 (flush leaves h).2.1 := by
  induction leaves generalizing h with
  | nil => exact ⟨[], .others [], .inl ⟨rfl, by simp, rfl⟩⟩
  | cons leaf leaves ih =>
    rw [flush]
    rcases hcall : Sink.flush leaf h with ⟨o, leaf1, h1⟩
    have hnote : leaf1.notes = leaf.notes ++ [(.flush, o)] := by
      cases hcall
      rfl
    obtain ⟨answers, hasked, hflushed⟩ := ih h1
    have hnext : Asked .flush (leaf :: leaves) (o :: answers) (leaf1 :: (flush leaves h1).2.1) :=
      .next hnote hasked
    cases o with
    | crashed m =>
      exact ⟨[.crashed m], .next hnote (.others leaves), .inr ⟨[], m, rfl, by simp, rfl⟩⟩
    | done u =>
      refine ⟨_, hnext, ?_⟩
      rcases hflushed with ⟨hlength, hnone, ho⟩ | ⟨before, m, rfl, hnone, ho⟩
      · refine .inl ⟨by simpa using hlength, by simpa using hnone, ?_⟩
        simpa [Outcome.andThen] using ho
      · exact .inr ⟨.done u :: before, m, rfl, by simpa using hnone, ho⟩
    | failed e =>
      refine ⟨_, hnext, ?_⟩
      rcases hflushed with ⟨hlength, hnone, ho⟩ | ⟨before, m, rfl, hnone, ho⟩
      · refine .inl ⟨by simpa using hlength, by simpa using hnone, ?_⟩
        have hcrash : ∀ m, (flush leaves h1).1 ≠ .crashed m := ho ▸ reported_ne_crashed hnone
        exact Outcome.failed_andThen e hcrash
      · refine .inr ⟨.failed e :: before, m, rfl, by simpa using hnone, ?_⟩
        simp [ho, Outcome.andThen]

end Leaves

/-- Which leaves each of the calls asks, and what comes of it. -/
inductive Serves : List Request → List (Noted ℓ) → List (Outcome Fault Unit) → List (Noted ℓ) → Prop
  | nil (leaves : List (Noted ℓ)) : Serves [] leaves [] leaves
  | cons {request : Request} {requests : List Request} {leaves leaves1 leaves2 : List (Noted ℓ)}
      {o : Outcome Fault Unit} {answers : List (Outcome Fault Unit)}
      (hcall : request.Served leaves o leaves1) (hrest : Serves requests leaves1 answers leaves2) :
      Serves (request :: requests) leaves (o :: answers) leaves2

theorem Leaves.serveAll_serves (requests : List Request) (leaves : List (Noted ℓ)) (h : Host) :
    Serves requests leaves (serveAll serve requests leaves h).1
      (serveAll serve requests leaves h).2.1 := by
  induction requests generalizing leaves h with
  | nil => exact .nil leaves
  | cons request requests ih =>
    have hcall : request.Served leaves (serve request leaves h).1 (serve request leaves h).2.1 := by
      cases request with
      | receive source => exact receive_served source leaves h
      | flush => exact flush_served leaves h
    exact .cons hcall (ih _ _)

namespace Receiver

theorem serve_leaves (hblind : Sink.Unaware ℓ) (request : Request) (r : Receiver ℓ) {h h' : Host}
    (hh : Host.SameButSets h h') :
    SameCalls (shown (r.serve request h)) (Leaves.serve request r.leaves h') := by
  cases request with
  | receive source => exact r.receive_leaves hblind source hh
  | flush => exact r.flush_leaves hblind hh

theorem serveAll_leaves (hblind : Sink.Unaware ℓ) (requests : List Request) (r : Receiver ℓ)
    {h h' : Host} (hh : Host.SameButSets h h') :
    SameCalls (shown (serveAll serve requests r h))
      (serveAll Leaves.serve requests r.leaves h') := by
  induction requests generalizing r h h' with
  | nil => exact ⟨[], r.leaves, h, h', rfl, rfl, trivial, hh⟩
  | cons request requests ih =>
    obtain ⟨o, leaves, h1, h1', hr, hr', -, hh1⟩ := r.serve_leaves hblind request hh
    rcases hcall : r.serve request h with ⟨o, r1, h1⟩
    rw [hcall] at hr
    cases hr
    obtain ⟨answers, leaves, h2, h2', hrest, hrest', -, hh2⟩ := ih r1 hh1
    refine ⟨o :: answers, leaves, h2, h2', ?_, ?_, trivial, hh2⟩
    · rw [serveAll, hcall]
      exact congrArg (fun run => (o :: run.1, run.2)) hrest
    · rw [serveAll, hr']
      simp only [hrest']

/-- Whatever is asked of a tree of receivers one call after the other, one set of its leaves gives
the same answers, and each leaf is left as it is in the tree, with the same notes of what it was
asked. A source stops at the first leaf that does not accept it; a flush reaches every leaf and
reports the first failure. -/
theorem serveAll_flat (hblind : Sink.Unaware ℓ) (name : String) (r : Receiver (Noted ℓ))
    (requests : List Request) (h : Host) :
    ∃ answers r' flat' h1 h1', serveAll serve requests r h = (answers, r', h1) ∧
      serveAll serve requests (r.flat name) h = (answers, flat', h1') ∧
      flat'.leaves = r'.leaves ∧ Host.SameButSets h1 h1' ∧
      Serves requests r.leaves answers r'.leaves := by
  have hh : Host.SameButSets h h := .refl h
  obtain ⟨answers, leaves, h1, g, htree, hrow, -, hh1⟩ :=
    r.serveAll_leaves (Noted.unaware hblind) requests hh
  obtain ⟨answers', leaves', h1', g', hflat, hrow', -, hh1'⟩ :=
    (r.flat name).serveAll_leaves (Noted.unaware hblind) requests hh
  rw [leaves_flat, hrow] at hrow'
  cases hrow'
  have hserves := Leaves.serveAll_serves requests r.leaves h
  rw [hrow] at hserves
  rcases hrun : serveAll serve requests r h with ⟨answers1, r', h2⟩
  rcases hrun' : serveAll serve requests (r.flat name) h with ⟨answers2, flat', h2'⟩
  rw [hrun] at htree
  rw [hrun'] at hflat
  obtain ⟨rfl, rfl, rfl⟩ : answers1 = answers ∧ r'.leaves = leaves ∧ h2 = h1 := by
    simpa [shown] using htree
  obtain ⟨rfl, hleaves, rfl⟩ : answers2 = answers1 ∧ flat'.leaves = r'.leaves ∧ h2' = h1' := by
    simpa [shown] using hflat
  exact ⟨answers2, r', flat', h2, h2', rfl, rfl, hleaves, hh1.of_common hh1', hserves⟩

/-- A sink that has room for so many sources, and cannot be flushed once it is full. -/
structure Shelf where
  name : String
  room : Nat

namespace Shelf

def full (s : Shelf) : Outcome Fault Unit := .failed (.other (s.name ++ " is full"))

instance : Sink Shelf where
  name := name
  receive
    | ⟨name, 0⟩, _, h => (full ⟨name, 0⟩, ⟨name, 0⟩, h)
    | ⟨name, n + 1⟩, _, h => (.done (), ⟨name, n⟩, h)
  flush s h := (if s.room = 0 then s.full else .done (), s, h)
  close _ h := h

theorem unaware : Sink.Unaware Shelf where
  receive := by
    rintro ⟨name, _ | n⟩ h h' source _ hh
    · exact ⟨_, _, h, h', rfl, rfl, trivial, hh⟩
    · exact ⟨_, _, h, h', rfl, rfl, trivial, hh⟩
  flush := fun {s h h'} _ hh => ⟨_, s, h, h', rfl, rfl, trivial, hh⟩
  close := fun _ hh => hh

/-- Shelves at two depths, and a set without members between them. -/
def rack : Receiver (Noted Shelf) :=
  .set "outer" (.ofList [.sink ⟨⟨"a", 2⟩, []⟩,
    .set "inner" (.ofList [.set "empty" .none, .sink ⟨⟨"b", 1⟩, []⟩]), .sink ⟨⟨"c", 2⟩, []⟩])

def alive : Source := .instanceUpdate ⟨"catalog", "catalog-1", 202311142213⟩

def calls : List Request := [.receive alive, .receive alive, .flush]

end Shelf

/-- The second source stops in the inner set; the flush fails at two shelves and reaches the third
one behind them. -/
theorem serveAll_flat_rack : Sink.Unaware Shelf ∧
    ∃ answers r' flat' h1 h1',
      serveAll serve Shelf.calls Shelf.rack (.withStore (.initial [])) = (answers, r', h1) ∧
      serveAll serve Shelf.calls (Shelf.rack.flat "flat") (.withStore (.initial [])) =
        (answers, flat', h1') ∧
      flat'.leaves = r'.leaves ∧ Host.SameButSets h1 h1' ∧
      Serves Shelf.calls Shelf.rack.leaves answers r'.leaves ∧
      answers = [.done (), .failed (.other "b is full"), .failed (.other "a is full")] ∧
      r'.leaves.map (·.notes.length) = [3, 3, 2] := by
  refine ⟨Shelf.unaware, ?_⟩
  obtain ⟨answers, r', flat', h1, h1', hrun, hflat, hleaves, hh1, hserves⟩ :=
    serveAll_flat Shelf.unaware "flat" Shelf.rack Shelf.calls (.withStore (.initial []))
  have hanswers : (serveAll serve Shelf.calls Shelf.rack (.withStore (.initial []))).1 =
      [.done (), .failed (.other "b is full"), .failed (.other "a is full")] := by decide
  have hnotes : (serveAll serve Shelf.calls Shelf.rack
      (.withStore (.initial []))).2.1.leaves.map (·.notes.length) = [3, 3, 2] := by decide
  rw [hrun] at hanswers hnotes
  exact ⟨answers, r', flat', h1, h1', hrun, hflat, hleaves, hh1, hserves, hanswers, hnotes⟩

end Receiver

end MeshTelemetry
