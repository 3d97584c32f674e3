import Mathlib.Algebra.Order.BigOperators.Group.List
import Mathlib.Algebra.Order.Field.Rat
import Mathlib.Order.Bounds.Basic
import Mathlib.Tactic.FieldSimp
import Mathlib.Tactic.LinearCombination
import Mathlib.Tactic.NormNum
import Mathlib.Tactic.Positivity
import Mathlib.Tactic.Ring
import MeshTelemetry.Stats.Running

/-!
# MeshTelemetry.Proofs.Stats.Moments

Running statistics in exact arithmetic. One value at a time, they come to what the formulas over
all values say.

* `Stats.mean`, `Stats.squaresAbout`: the formulas; `Stats.squaresAbout_mean`: the squares about
  another point than the mean.
* `Stats.mean_snoc`, `Stats.squaresAbout_snoc`: what one more value does to them.
* `Stats.Running.Describes`: the invariant; `Stats.Running.Describes.push`: its step.
* `Stats.Running.foldl_push_moments`: the statistics of a list of values.
-/

namespace MeshTelemetry
namespace Stats

/-- Exact arithmetic. -/
instance : Scalar ℚ where
  zero := 0
  ofCount n := n
  least := min
  greatest := max

/-- The arithmetic mean. -/
def mean (values : List ℚ) : ℚ := values.sum / values.length

/-- The sum of the squared deviations from `a`. -/
def squaresAbout (a : ℚ) (values : List ℚ) : ℚ := (values.map fun x => (x - a) ^ 2).sum

variable {values : List ℚ}

theorem length_ne_zero (h : values ≠ []) : (values.length : ℚ) ≠ 0 := by
  rw [Nat.cast_ne_zero]
  exact mt List.length_eq_zero_iff.mp h

theorem sum_eq_mean (h : values ≠ []) : values.sum = values.length * mean values :=
  (mul_div_cancel₀ _ (length_ne_zero h)).symm

theorem squaresAbout_nonneg (a : ℚ) (values : List ℚ) : 0 ≤ squaresAbout a values := by
  refine List.sum_nonneg fun y hy => ?_
  obtain ⟨x, -, rfl⟩ := List.mem_map.mp hy
  exact sq_nonneg (x - a)

theorem squaresAbout_append (a : ℚ) (values more : List ℚ) :
    squaresAbout a (values ++ more) = squaresAbout a values + squaresAbout a more := by
  rw [squaresAbout, List.map_append, List.sum_append]
  rfl

theorem squaresAbout_sub (a b : ℚ) (values : List ℚ) :
    squaresAbout a values - squaresAbout b values =
      values.length * (a ^ 2 - b ^ 2) - 2 * (a - b) * values.sum := by
  induction values with
  | nil => simp [squaresAbout]
  | cons x values ih =>
    simp only [squaresAbout, List.map_cons, List.sum_cons, List.length_cons, Nat.cast_add,
      Nat.cast_one] at ih ⊢
    linear_combination ih

/-- The squares are least about the mean, and grow with the distance from it. -/
theorem squaresAbout_mean (h : values ≠ []) (a : ℚ) :
    squaresAbout a values =
      squaresAbout (mean values) values + values.length * (a - mean values) ^ 2 := by
  have hsub := squaresAbout_sub a (mean values) values
  rw [sum_eq_mean h] at hsub
  linear_combination hsub

theorem mean_snoc (h : values ≠ []) (x : ℚ) :
    mean (values ++ [x]) = mean values + (x - mean values) / (values.length + 1) := by
  have hlength : (values.length : ℚ) + 1 ≠ 0 := by positivity
  rw [mean, List.sum_append, List.sum_singleton, sum_eq_mean h, List.length_append,
    List.length_singleton, Nat.cast_add, Nat.cast_one]
  field_simp
  ring

/-- The squares grow by the product of the deviations from the old and from the new mean. -/
theorem squaresAbout_snoc (h : values ≠ []) (x : ℚ) :
    squaresAbout (mean (values ++ [x])) (values ++ [x]) =
      squaresAbout (mean values) values + (x - mean values) * (x - mean (values ++ [x])) := by
  have hlength : (values.length : ℚ) + 1 ≠ 0 := by positivity
  have hlast : ∀ a, squaresAbout a [x] = (x - a) ^ 2 := fun a => by simp [squaresAbout]
  rw [squaresAbout_append, squaresAbout_mean h, hlast, mean_snoc h]
  field_simp
  ring

namespace Running

/-- The statistics are those of the values. -/
structure Describes (s : Running ℚ) (values : List ℚ) : Prop where
  count : s.count = values.length
  mean : s.mean = Stats.mean values
  squares : s.squares = squaresAbout (Stats.mean values) values
  least : IsLeast {x | x ∈ values} s.least
  greatest : IsGreatest {x | x ∈ values} s.greatest

variable {s : Running ℚ}

theorem push_empty (x : ℚ) : ((empty : Running ℚ).push x).Describes [x] := by
  have hmean : Stats.mean [x] = x := by simp [Stats.mean]
  have hpush : (empty : Running ℚ).push x = ⟨1, x, 0, x, x⟩ := rfl
  rw [hpush]
  have hmembers : {y | y ∈ [x]} = {x} := by
    ext y
    simp
  refine ⟨rfl, hmean.symm, ?_, ?_, ?_⟩
  · simp [squaresAbout, hmean]
  · rw [hmembers]
    exact isLeast_singleton
  · rw [hmembers]
    exact isGreatest_singleton

/-- One more value is taken in. -/
theorem push_next (h : s.count ≠ 0) (x : ℚ) :
    s.push x =
      { count := s.count + 1
        mean := s.mean + (x - s.mean) / (s.count + 1)
        squares := s.squares +
          (x - s.mean) * (x - (s.mean + (x - s.mean) / (s.count + 1)))
        least := min s.least x
        greatest := max s.greatest x } := by
  have hcount : ((s.count + 1 : ℕ) : ℚ) = s.count + 1 := Nat.cast_succ s.count
  rw [push, if_neg h, ← hcount]
  rfl

theorem Describes.push (h : s.Describes values) (hne : values ≠ []) (x : ℚ) :
    (s.push x).Describes (values ++ [x]) := by
  have hcount : s.count ≠ 0 := by
    rw [h.count]
    exact mt List.length_eq_zero_iff.mp hne
  have hmembers : {y | y ∈ values ++ [x]} = {y | y ∈ values} ∪ {x} := by
    ext y
    simp [or_comm]
  have hmean : s.mean + (x - s.mean) / (s.count + 1) = Stats.mean (values ++ [x]) := by
    rw [mean_snoc hne, h.mean, h.count]
  rw [push_next hcount, hmean]
  constructor
  · simp [h.count]
  · rfl
  · simp only [squaresAbout_snoc hne, h.squares, h.mean]
  · rw [hmembers]
    exact h.least.union isLeast_singleton
  · rw [hmembers]
    exact h.greatest.union isGreatest_singleton

theorem Describes.foldl_push (h : s.Describes values) (hne : values ≠ []) (more : List ℚ) :
    (more.foldl Running.push s).Describes (values ++ more) := by
  induction more generalizing s values with
  | nil => simpa using h
  | cons x more ih =>
    have hnext := ih (h.push hne x) (by simp)
    rwa [List.append_assoc, List.singleton_append] at hnext

/-- All values are taken in, the first of which replaces the zeros. -/
theorem describes_foldl (h : values ≠ []) :
    (values.foldl push (empty : Running ℚ)).Describes values := by
  obtain ⟨x, more, rfl⟩ := List.exists_cons_of_ne_nil h
  exact (push_empty x).foldl_push (List.cons_ne_nil x []) more

/-- There is one way to describe values, which does not depend on their order. -/
theorem Describes.eq_of_perm {values' : List ℚ} {s' : Running ℚ} (h : s.Describes values)
    (h' : s'.Describes values') (hperm : values'.Perm values) : s' = s := by
  have hmean : Stats.mean values' = Stats.mean values := by
    rw [Stats.mean, Stats.mean, hperm.sum_eq, hperm.length_eq]
  have hmembers : {x | x ∈ values'} = {x | x ∈ values} := Set.ext fun x => hperm.mem_iff
  have hleast := h'.least
  have hgreatest := h'.greatest
  rw [hmembers] at hleast hgreatest
  have hsquares : squaresAbout (Stats.mean values') values' =
      squaresAbout (Stats.mean values) values := by
    rw [hmean, squaresAbout, squaresAbout, (hperm.map _).sum_eq]
  obtain ⟨count, mean, squares, least, greatest⟩ := s
  obtain ⟨count', mean', squares', least', greatest'⟩ := s'
  congr 1
  · exact h'.count.trans (hperm.length_eq.trans h.count.symm)
  · exact h'.mean.trans (hmean.trans h.mean.symm)
  · exact h'.squares.trans (hsquares.trans h.squares.symm)
  · exact hleast.unique h.least
  · exact hgreatest.unique h.greatest

theorem Describes.variance (h : s.Describes values) (hlength : 2 ≤ values.length) :
    s.variance = squaresAbout (Stats.mean values) values / (values.length - 1) := by
  have hone : ((s.count - 1 : ℕ) : ℚ) = values.length - 1 := by
    rw [h.count, Nat.cast_sub (by omega), Nat.cast_one]
  rw [Running.variance, if_neg (by rw [h.count]; omega), h.squares, ← hone]
  rfl

theorem Describes.variance_nonneg (h : s.Describes values) : 0 ≤ s.variance := by
  unfold Running.variance
  split
  · exact le_refl (0 : ℚ)
  · rw [h.squares]
    exact div_nonneg (squaresAbout_nonneg _ _) (Nat.cast_nonneg _)

theorem Describes.mean_mem (h : s.Describes values) (hne : values ≠ []) :
    s.least ≤ s.mean ∧ s.mean ≤ s.greatest := by
  have hpos : (0 : ℚ) < values.length := by
    rw [Nat.cast_pos]
    exact List.length_pos_iff.mpr hne
  have hlow := values.card_nsmul_le_sum s.least fun x hx => h.least.2 hx
  have hhigh := values.sum_le_card_nsmul s.greatest fun x hx => h.greatest.2 hx
  rw [nsmul_eq_mul, mul_comm] at hlow hhigh
  rw [h.mean, Stats.mean, le_div_iff₀ hpos, div_le_iff₀ hpos]
  exact ⟨hlow, hhigh⟩

/-- The statistics of a list of values that are taken in one after the other are those that the
formulas give, in whatever order the values come. -/
theorem foldl_push_moments (h : values ≠ []) :
    let s := values.foldl push (empty : Running ℚ)
    s.count = values.length ∧ s.mean = Stats.mean values ∧
      s.squares = squaresAbout (Stats.mean values) values ∧
      (2 ≤ values.length →
        s.variance = squaresAbout (Stats.mean values) values / (values.length - 1)) ∧
      (values.length = 1 → s.variance = 0) ∧ 0 ≤ s.variance ∧
      IsLeast {x | x ∈ values} s.least ∧ IsGreatest {x | x ∈ values} s.greatest ∧
      s.least ≤ s.mean ∧ s.mean ≤ s.greatest ∧
      ∀ values' : List ℚ, values'.Perm values → values'.foldl push empty = s := by
  intro s
  have hs : s.Describes values := describes_foldl h
  have hone : values.length = 1 → s.variance = 0 := by
    intro hlength
    rw [Running.variance, if_pos (by rw [hs.count, hlength]; decide)]
    rfl
  refine ⟨hs.count, hs.mean, hs.squares, hs.variance, hone, hs.variance_nonneg, hs.least,
    hs.greatest, (hs.mean_mem h).1, (hs.mean_mem h).2, fun values' hperm => ?_⟩
  have hne : values' ≠ [] := by
    rintro rfl
    exact h hperm.nil_eq.symm
  exact hs.eq_of_perm (describes_foldl hne) hperm

/-- Ten to fifty, and the zeros at the beginning are none of the values. -/
theorem foldl_push_moments_tens :
    let values : List ℚ := [10, 20, 30, 40, 50]
    let s := values.foldl push (empty : Running ℚ)
    values ≠ [] ∧ s.count = 5 ∧ s.mean = 30 ∧ s.variance = 250 ∧
      IsLeast {x | x ∈ values} s.least ∧ values.reverse.foldl push empty = s := by
  intro values s
  have hne : values ≠ [] := List.cons_ne_nil _ _
  obtain ⟨hcount, hmean, -, hvariance, -, -, hleast, -, -, -, hperm⟩ := foldl_push_moments hne
  have hthirty : Stats.mean values = 30 := by norm_num [values, Stats.mean]
  refine ⟨hne, hcount, hmean.trans hthirty, ?_, hleast, hperm _ values.reverse_perm⟩
  rw [hvariance (by decide), hthirty]
  norm_num [values, squaresAbout]

end Running
end Stats
end MeshTelemetry
