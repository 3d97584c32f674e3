/-!
# MeshTelemetry.Pairs

Keys and their values in the order in which the keys were first assigned a value.

* `Pairs.assign` — gives a key a value; `lookup_assign`, `assign_self`.
-/

namespace MeshTelemetry
namespace Pairs

variable {κ ν : Type} [DecidableEq κ]

/-- The pairs with `value` under `key`: in the place of the key if it is there, else at the end. -/
def assign (key : κ) (value : ν) : List (κ × ν) → List (κ × ν)
  | [] => [(key, value)]
  | (k, v) :: rest => if k = key then (k, value) :: rest else (k, v) :: assign key value rest

theorem lookup_assign [BEq κ] [LawfulBEq κ] (key other : κ) (value : ν) (pairs : List (κ × ν)) :
    (assign key value pairs).lookup other =
      if other = key then some value else pairs.lookup other := by
  induction pairs with
  | nil =>
    by_cases h : other = key
    · simp [assign, h]
    · have hne : (other == key) = false := by simpa using h
      rw [assign, List.lookup_cons, hne, if_neg h]
  | cons pair rest ih =>
    obtain ⟨k, v⟩ := pair
    by_cases hk : k = key
    · subst hk
      by_cases h : other = k
      · simp [assign, h]
      · have hne : (other == k) = false := by simpa using h
        rw [assign, if_pos rfl, List.lookup_cons, List.lookup_cons, hne, if_neg h]
    · by_cases h : other = k
      · subst h
        simp [assign, hk]
      · have hne : (other == k) = false := by simpa using h
        rw [assign, if_neg hk, List.lookup_cons, List.lookup_cons, hne, ih]

theorem assign_self [BEq κ] [LawfulBEq κ] {key : κ} {value : ν} {pairs : List (κ × ν)}
    (h : pairs.lookup key = some value) : assign key value pairs = pairs := by
  induction pairs with
  | nil => cases h
  | cons pair rest ih =>
    obtain ⟨k, v⟩ := pair
    rw [List.lookup_cons] at h
    by_cases hk : k = key
    · subst hk
      rw [beq_self_eq_true] at h
      cases h
      rw [assign, if_pos rfl]
    · have hne : (key == k) = false := by simpa using Ne.symm hk
      rw [hne] at h
      rw [assign, if_neg hk, ih h]

end Pairs
end MeshTelemetry
