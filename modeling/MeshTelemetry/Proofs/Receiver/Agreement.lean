import MeshTelemetry.Receiver

/-!
# MeshTelemetry.Proofs.Receiver.Agreement

What a relation between hosts needs to be kept by everything that is done to receivers on both of
them. Entries of the log and counts keep it, and so do the sinks; then trees of sinks answer the
same on both hosts.

* `Agree`: two calls have the same answer, and leave the hosts related.
* `Host.Similarity`, `Sink.Respects`: what is asked of the relation and of the sinks.
* `Receiver.receive_agree`, `Receiver.flush_agree`, `Receiver.close_agree`: what follows for trees.
-/

namespace MeshTelemetry

/-- Two calls have the same answer and lead to the same state, which has a property, and to hosts
that are related. -/
def Agree {α ρ : Type} (R : Host → Host → Prop) (p : ρ → Prop) (r r' : α × ρ × Host) : Prop :=
  ∃ answer state h h', r = (answer, state, h) ∧ r' = (answer, state, h') ∧ p state ∧ R h h'

/-- Related hosts stay related when the same is logged or counted on both. -/
structure Host.Similarity (R : Host → Host → Prop) : Prop where
  log : ∀ {h h' : Host} (level : Level) (component : Component) (message : String)
    (fields : List (String × String)), R h h' →
      R (h.log level component message fields) (h'.log level component message fields)
  tally : ∀ {h h' : Host} (meter : Meter), R h h' → R (h.tally meter) (h'.tally meter)

variable {ℓ : Type}

/-- Induction on the list of members. -/
@[elab_as_elim]
theorem Members.induct {motive : Members ℓ → Prop} (none : motive .none)
    (more : ∀ receiver received failures rest, motive rest →
      motive (.more receiver received failures rest)) : ∀ members, motive members
  | .none => none
  | .more receiver received failures rest =>
    more receiver received failures rest (Members.induct none more rest)

mutual

/-- All sinks of a tree have a property. -/
def Receiver.All (p : ℓ → Prop) : Receiver ℓ → Prop
  | .sink s => p s
  | .set _ members => members.All p

def Members.All (p : ℓ → Prop) : Members ℓ → Prop
  | .none => True
  | .more r _ _ rest => r.All p ∧ rest.All p

end

mutual

theorem Receiver.all_any {p : ℓ → Prop} (h : ∀ s, p s) : ∀ r : Receiver ℓ, r.All p
  | .sink s => h s
  | .set _ members => Members.all_any h members

theorem Members.all_any {p : ℓ → Prop} (h : ∀ s, p s) :
    ∀ members : Members ℓ, members.All p
  | .none => trivial
  | .more r _ _ rest => ⟨Receiver.all_any h r, Members.all_any h rest⟩

end

theorem Members.all_ofList {p : ℓ → Prop} {sinks : List ℓ} (h : ∀ s ∈ sinks, p s) :
    (Members.ofList (sinks.map Receiver.sink)).All p := by
  induction sinks with
  | nil => trivial
  | cons s sinks ih =>
    rw [List.forall_mem_cons] at h
    exact ⟨h.1, ih h.2⟩

variable [Sink ℓ] {R : Host → Host → Prop} {p : ℓ → Prop}

/-- Sinks with a property answer the same on related hosts, and keep the property. -/
structure Sink.Respects (R : Host → Host → Prop) (p : ℓ → Prop) : Prop where
  receive : ∀ {s : ℓ} {h h' : Host} (source : Source), p s → R h h' →
    Agree R p (Sink.receive s source h) (Sink.receive s source h')
  flush : ∀ {s : ℓ} {h h' : Host}, p s → R h h' → Agree R p (Sink.flush s h) (Sink.flush s h')
  close : ∀ {s : ℓ} {h h' : Host}, p s → R h h' → R (Sink.close s h) (Sink.close s h')

mutual

/-- By recursion on the tree: a refusal is logged on both hosts, and whatever is not refused is
offered to the next member on both. -/
theorem Receiver.receive_agree (hR : Host.Similarity R) (hp : Sink.Respects R p) (source : Source) :
    ∀ (r : Receiver ℓ) {h h' : Host}, r.All p → R h h' →
      Agree R (Receiver.All p) (r.receive source h) (r.receive source h')
  | .sink s, h, h', hall, hh => by
    obtain ⟨o, s', h1, h1', hr, hr', hs', hh1⟩ := hp.receive source hall hh
    exact ⟨o, .sink s', h1, h1', by rw [Receiver.receive, hr], by rw [Receiver.receive, hr'], hs',
      hh1⟩
  | .set name members, h, h', hall, hh => by
    obtain ⟨o, members', h1, h1', hr, hr', hm, hh1⟩ :=
      Members.receive_agree hR hp source members hall hh
    exact ⟨o, .set name members', h1, h1', by rw [Receiver.receive, hr],
      by rw [Receiver.receive, hr'], hm, hh1⟩

theorem Members.receive_agree (hR : Host.Similarity R) (hp : Sink.Respects R p) (source : Source) :
    ∀ (members : Members ℓ) {h h' : Host}, members.All p → R h h' →
      Agree R (Members.All p) (members.receive source h) (members.receive source h')
  | .none, h, h', _, hh => ⟨.done (), .none, h, h', rfl, rfl, trivial, hh⟩
  | .more r received failures rest, h, h', hall, hh => by
    obtain ⟨o, r', h1, h1', hr, hr', hr1, hh1⟩ :=
      Receiver.receive_agree hR hp source r hall.1 hh
    cases o with
    | failed e =>
      have hlogged : R (logRefusal r' source e h1) (logRefusal r' source e h1') :=
        hR.log _ _ _ _ hh1
      exact ⟨.failed e, .more r' received (failures + 1) rest, _, _, by rw [Members.receive, hr],
        by rw [Members.receive, hr'], ⟨hr1, hall.2⟩, hlogged⟩
    | crashed m =>
      exact ⟨.crashed m, .more r' received failures rest, h1, h1', by rw [Members.receive, hr],
        by rw [Members.receive, hr'], ⟨hr1, hall.2⟩, hh1⟩
    | done u =>
      obtain ⟨o, rest', h2, h2', hrest, hrest', hall', hh2⟩ :=
        Members.receive_agree hR hp source rest hall.2 hh1
      exact ⟨o, .more r' (received + 1) failures rest', h2, h2',
        by simp only [Members.receive, hr, hrest], by simp only [Members.receive, hr', hrest'],
        ⟨hr1, hall'⟩, hh2⟩

end

mutual

theorem Receiver.flush_agree (hR : Host.Similarity R) (hp : Sink.Respects R p) :
    ∀ (r : Receiver ℓ) {h h' : Host}, r.All p → R h h' →
      Agree R (Receiver.All p) (r.flush h) (r.flush h')
  | .sink s, h, h', hall, hh => by
    obtain ⟨o, s', h1, h1', hr, hr', hs', hh1⟩ := hp.flush hall hh
    exact ⟨o, .sink s', h1, h1', by rw [Receiver.flush, hr], by rw [Receiver.flush, hr'], hs', hh1⟩
  | .set name members, h, h', hall, hh => by
    obtain ⟨o, members', h1, h1', hr, hr', hm, hh1⟩ :=
      Members.flush_agree hR hp members hall hh
    exact ⟨o, .set name members', h1, h1', by rw [Receiver.flush, hr],
      by rw [Receiver.flush, hr'], hm, hh1⟩

theorem Members.flush_agree (hR : Host.Similarity R) (hp : Sink.Respects R p) :
    ∀ (members : Members ℓ) {h h' : Host}, members.All p → R h h' →
      Agree R (Members.All p) (members.flush h) (members.flush h')
  | .none, h, h', _, hh => ⟨.done (), .none, h, h', rfl, rfl, trivial, hh⟩
  | .more r received failures rest, h, h', hall, hh => by
    obtain ⟨o, r', h1, h1', hr, hr', hr1, hh1⟩ := Receiver.flush_agree hR hp r hall.1 hh
    cases o with
    | crashed m =>
      exact ⟨.crashed m, .more r' received failures rest, h1, h1', by rw [Members.flush, hr],
        by rw [Members.flush, hr'], ⟨hr1, hall.2⟩, hh1⟩
    | done u =>
      obtain ⟨o, rest', h2, h2', hrest, hrest', hall', hh2⟩ :=
        Members.flush_agree hR hp rest hall.2 hh1
      exact ⟨o, .more r' received failures rest', h2, h2', by simp only [Members.flush, hr, hrest],
        by simp only [Members.flush, hr', hrest'], ⟨hr1, hall'⟩, hh2⟩
    | failed e =>
      have hlogged : R (logFlushFailure r' e h1) (logFlushFailure r' e h1') := hR.log _ _ _ _ hh1
      obtain ⟨o, rest', h2, h2', hrest, hrest', hall', hh2⟩ :=
        Members.flush_agree hR hp rest hall.2 hlogged
      refine ⟨match o with | .crashed m => .crashed m | _ => .failed e,
        .more r' received failures rest', h2, h2', ?_, ?_, ⟨hr1, hall'⟩, hh2⟩
      · simp only [Members.flush, hr, hrest]
        cases o <;> rfl
      · simp only [Members.flush, hr', hrest']
        cases o <;> rfl

end

mutual

theorem Receiver.close_agree (hp : Sink.Respects R p) : ∀ (r : Receiver ℓ) {h h' : Host},
    r.All p → R h h' → R (r.close h) (r.close h')
  | .sink _, _, _, hall, hh => hp.close hall hh
  | .set _ members, _, _, hall, hh => Members.close_agree hp members hall hh

theorem Members.close_agree (hp : Sink.Respects R p) : ∀ (members : Members ℓ) {h h' : Host},
    members.All p → R h h' → R (members.close h) (members.close h')
  | .none, _, _, _, hh => hh
  | .more r _ _ rest, _, _, hall, hh =>
    Members.close_agree hp rest hall.2 (Receiver.close_agree hp r hall.1 hh)

end

end MeshTelemetry
