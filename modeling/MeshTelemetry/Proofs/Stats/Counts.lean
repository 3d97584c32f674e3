import MeshTelemetry.Stats.Summary

/-!
# MeshTelemetry.Proofs.Stats.Counts

What is counted when kinds of sources are counted one after the other.

* `Stats.KindCounts.count_foldl`: how often each kind was there.
* `Stats.KindCounts.total_foldl`: how many there were.
* `Stats.Dispatched.totalSources_success`, `Stats.Dispatched.renamed_success`,
  `Stats.Running.count_push`: what a dispatched record adds.
-/

namespace MeshTelemetry
namespace Stats.KindCounts

theorem count_cons (k k' : SourceKind) (n : Nat) (counts : KindCounts) :
    count ((k', n) :: counts) k = if k' = k then n else counts.count k := by
  rw [count, List.lookup_cons]
  by_cases h : k = k'
  · simp [h]
  · rw [beq_false_of_ne h, if_neg (Ne.symm h)]
    rfl

theorem count_bump (kind k : SourceKind) (counts : KindCounts) :
    (bump kind counts).count k = counts.count k + (decide (kind = k)).toNat := by
  induction counts with
  | nil =>
    rw [bump, count_cons]
    by_cases h : kind = k <;> simp [h, count]
  | cons entry counts ih =>
    obtain ⟨k', n⟩ := entry
    rw [bump]
    split
    · next h =>
      subst h
      by_cases hk : k' = k <;> simp [count_cons, hk]
    · next h =>
      by_cases hk : k' = k
      · subst hk
        simp [count_cons, Ne.symm h]
      · simp [count_cons, hk, ih]

theorem count_foldl (k : SourceKind) (emitted : List SourceKind) : ∀ counts : KindCounts,
    (emitted.foldl (fun counts kind => bump kind counts) counts).count k =
      counts.count k + emitted.countP (· = k) := by
  induction emitted with
  | nil => exact fun _ => rfl
  | cons kind emitted ih =>
    intro counts
    rw [List.foldl_cons, ih, count_bump, List.countP_cons]
    by_cases h : kind = k
    · simp only [h, decide_true, Bool.toNat_true, if_true]
      omega
    · simp [h]

theorem total_cons (k : SourceKind) (n : Nat) (counts : KindCounts) :
    total ((k, n) :: counts) = n + total counts := rfl

theorem total_bump (kind : SourceKind) (counts : KindCounts) :
    total (bump kind counts) = total counts + 1 := by
  induction counts with
  | nil => rfl
  | cons entry counts ih =>
    obtain ⟨k, n⟩ := entry
    rw [bump]
    split
    · rw [total_cons, total_cons]
      omega
    · rw [total_cons, total_cons, ih]
      omega

theorem total_foldl (emitted : List SourceKind) : ∀ counts : KindCounts,
    total (emitted.foldl (fun counts kind => bump kind counts) counts) =
      total counts + emitted.length := by
  induction emitted with
  | nil => exact fun _ => rfl
  | cons kind emitted ih =>
    intro counts
    rw [List.foldl_cons, ih, total_bump, List.length_cons]
    omega

end Stats.KindCounts

theorem Stats.Running.count_push {α : Type} [Scalar α] (s : Running α) (value : α) :
    (s.push value).count = s.count + 1 := by
  unfold push
  split
  · next hzero => rw [hzero]
  · rfl

theorem Stats.Dispatched.renamed_success (d : Dispatched) (latency : Int32)
    (emitted : List SourceKind) (renamed : Bool) :
    (d.recordSuccess latency emitted renamed).renamed = d.renamed + renamed.toNat := by
  cases renamed <;> rfl

theorem Stats.Dispatched.totalSources_success (d : Dispatched) (latency : Int32)
    (emitted : List SourceKind) (renamed : Bool) :
    (d.recordSuccess latency emitted renamed).totalSources = d.totalSources + emitted.length :=
  KindCounts.total_foldl emitted d.sources

end MeshTelemetry
