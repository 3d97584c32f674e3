import Mathlib.Algebra.GroupWithZero.Nat
import MeshTelemetry.Receiver

/-!
# MeshTelemetry.Proofs.Receiver.Counts

What a set counts of its members. As long as no member has refused a source, all members have
accepted the same number of them; each source that is refused is refused by one member.

* `Receiver.tallies`: how many sources each member accepted and refused.
* `Receiver.Even`: all accepted so many, unless one of them has refused a source.
* `Receiver.Refused`: a set whose members have refused so many sources together.
* `Receiver.receive_even`, `Receiver.receive_refused`: a source more; `Receiver.flush_tallies`:
  flushing counts nothing.
-/

namespace MeshTelemetry

variable {ℓ : Type} [Sink ℓ]

def Members.tallies (members : Members ℓ) : List (Nat × Nat) := members.counts.map Prod.snd

def Receiver.tallies (r : Receiver ℓ) : List (Nat × Nat) := r.memberCounts.map Prod.snd

namespace Members

/-- How many sources the members have refused together. -/
def refusals (members : Members ℓ) : Nat := (members.tallies.map Prod.snd).sum

theorem refusals_more (r : Receiver ℓ) (received failures : Nat) (rest : Members ℓ) :
    (more r received failures rest).refusals = failures + rest.refusals := rfl

/-- A source is counted once for each member; a refusal is counted where it happens. -/
theorem receive_tallies (source : Source) : ∀ (members : Members ℓ) (h : Host),
    match members.receive source h with
    | (.done (), members', _) => members'.tallies = members.tallies.map fun t => (t.1 + 1, t.2)
    | (.failed _, members', _) => members'.refusals = members.refusals + 1
    | (.crashed _, _, _) => True
  | .none, _ => rfl
  | .more r received failures rest, h => by
    rw [receive]
    rcases r.receive source h with ⟨o, r1, h1⟩
    cases o with
    | failed e => exact Nat.add_right_comm failures 1 rest.refusals
    | crashed m => trivial
    | done u =>
      have hrest := receive_tallies source rest h1
      simp only
      generalize rest.receive source h1 = answer at hrest ⊢
      obtain ⟨o, rest1, h2⟩ := answer
      cases o with
      | crashed m => trivial
      | done u => exact congrArg (_ :: ·) hrest
      | failed e =>
        simp only at hrest ⊢
        rw [refusals_more, hrest, refusals_more, Nat.add_assoc]

theorem flush_tallies : ∀ (members : Members ℓ) (h : Host),
    (members.flush h).2.1.tallies = members.tallies
  | .none, _ => rfl
  | .more r received failures rest, h => by
    rw [flush]
    rcases r.flush h with ⟨o, r1, h1⟩
    cases o with
    | crashed m => rfl
    | done u => exact congrArg (_ :: ·) (flush_tallies rest h1)
    | failed e =>
      have hrest := flush_tallies rest (logFlushFailure r1 e h1)
      simp only
      generalize rest.flush (logFlushFailure r1 e h1) = answer at hrest ⊢
      obtain ⟨o, rest1, h2⟩ := answer
      cases o <;> exact congrArg (_ :: ·) hrest

end Members

namespace Receiver

/-- Each member has accepted `n` sources, unless a member has refused one. -/
def Even (n : Nat) (r : Receiver ℓ) : Prop :=
  (∀ t ∈ r.tallies, t.2 = 0) → ∀ t ∈ r.tallies, t.1 = n

theorem even_sink (n : Nat) (s : ℓ) : (sink s : Receiver ℓ).Even n := by
  intro _ t ht
  cases ht

theorem receive_even {n : Nat} {r : Receiver ℓ} (hr : r.Even n) (source : Source) (h : Host) :
    match r.receive source h with
    | (.done (), r', _) => r'.Even (n + 1)
    | (.failed _, r', _) => ∀ n', r'.Even n'
    | (.crashed _, _, _) => True := by
  cases r with
  | sink s =>
    rw [receive]
    rcases Sink.receive s source h with ⟨o, s1, h1⟩
    cases o with
    | done u => exact even_sink (n + 1) s1
    | failed e => exact fun n' => even_sink n' s1
    | crashed m => trivial
  | set name members =>
    have hcounted := members.receive_tallies source h
    rw [receive]
    generalize members.receive source h = answer at hcounted ⊢
    obtain ⟨o, members1, h1⟩ := answer
    cases o with
    | crashed m => trivial
    | failed e =>
      intro _ hnone
      have hzero : members1.refusals = 0 :=
        List.sum_eq_zero_iff_forall_eq_nat.mpr (List.forall_mem_map.mpr hnone)
      simp only [hzero] at hcounted
      exact absurd hcounted (Nat.succ_ne_zero _).symm
    | done u =>
      intro hnone
      have htallies : (set name members1).tallies =
          (set name members).tallies.map fun t => (t.1 + 1, t.2) := hcounted
      rw [htallies, List.forall_mem_map] at hnone ⊢
      intro t ht
      rw [hr hnone t ht]

theorem flush_tallies (r : Receiver ℓ) (h : Host) : (r.flush h).2.1.tallies = r.tallies := by
  cases r with
  | sink s => rfl
  | set name members => exact members.flush_tallies h

/-- A set whose members have refused so many sources together. -/
def Refused (n : Nat) (r : Receiver ℓ) : Prop :=
  ∃ name members, r = set name members ∧ members.refusals = n

theorem receive_refused {n : Nat} {r : Receiver ℓ} (hr : r.Refused n) (source : Source) (h : Host) :
    match r.receive source h with
    | (.done (), r', _) => r'.Refused n
    | (.failed _, r', _) => r'.Refused (n + 1)
    | (.crashed _, _, _) => True := by
  obtain ⟨name, members, rfl, rfl⟩ := hr
  have hcounted := members.receive_tallies source h
  rw [receive]
  generalize members.receive source h = answer at hcounted ⊢
  obtain ⟨o, members1, h1⟩ := answer
  cases o with
  | crashed m => trivial
  | failed e => exact ⟨name, members1, rfl, hcounted⟩
  | done u =>
    refine ⟨name, members1, rfl, ?_⟩
    simp only at hcounted
    simp only [Members.refusals, hcounted, List.map_map]
    rfl

theorem flush_refused {n : Nat} {r : Receiver ℓ} (hr : r.Refused n) (h : Host) :
    (r.flush h).2.1.Refused n := by
  obtain ⟨name, members, rfl, rfl⟩ := hr
  exact ⟨name, _, rfl, congrArg (fun t => (t.map Prod.snd).sum) (members.flush_tallies h)⟩

end Receiver
end MeshTelemetry
