/-!
# MeshTelemetry.Proofs.Text.Lines

The lines of a list of characters or bytes: the parts behind each line break.

* `Text.linesBy`: the lines; `Text.linesBy_line`: the first one.
* `Text.Ended`: what is added to such a list begins a new line; `Text.linesBy_append`.
-/

namespace MeshTelemetry
namespace Text

variable {α : Type} [DecidableEq α] (sep : α)

/-- The parts that a list is cut into behind each `sep`; the last one may end without it. -/
def linesBy : List α → List (List α)
  | [] => []
  | a :: rest =>
    if a = sep then [a] :: linesBy rest
    else
      match linesBy rest with
      | [] => [[a]]
      | line :: lines => (a :: line) :: lines

/-- The list is empty or ends with `sep`. -/
def Ended (list : List α) : Prop := list = [] ∨ list.getLast? = some sep

variable {sep}

theorem linesBy_eq_nil {list : List α} (h : linesBy sep list = []) : list = [] := by
  cases list with
  | nil => rfl
  | cons a rest =>
    rw [linesBy] at h
    split at h
    · cases h
    · split at h <;> cases h

theorem linesBy_flatten (sep : α) (list : List α) : (linesBy sep list).flatten = list := by
  induction list with
  | nil => rfl
  | cons a rest ih =>
    rw [linesBy]
    split
    · rw [List.flatten_cons, ih, List.singleton_append]
    · split
      · next hnil =>
        rw [linesBy_eq_nil hnil]
        rfl
      · next line lines hlines =>
        rw [hlines] at ih
        rw [List.flatten_cons, List.cons_append, ← List.flatten_cons, ih]

theorem linesBy_line {line : List α} (h : sep ∉ line) (rest : List α) :
    linesBy sep (line ++ sep :: rest) = (line ++ [sep]) :: linesBy sep rest := by
  induction line with
  | nil => simp only [List.nil_append, linesBy, if_true]
  | cons a line ih =>
    rw [List.mem_cons, not_or] at h
    simp only [List.cons_append, linesBy, if_neg (Ne.symm h.1), ih h.2]

omit [DecidableEq α] in
theorem ended_tail {a : α} {list : List α} (h : Ended sep (a :: list)) :
    Ended sep list ∧ (a ≠ sep → list ≠ []) := by
  rcases h with h | h
  · cases h
  · cases list with
    | nil => exact ⟨.inl rfl, fun ha => absurd (Option.some.inj h) ha⟩
    | cons b list =>
      rw [List.getLast?_cons_cons] at h
      exact ⟨.inr h, fun _ => List.cons_ne_nil b list⟩

theorem linesBy_append {list : List α} (h : Ended sep list) (more : List α) :
    linesBy sep (list ++ more) = linesBy sep list ++ linesBy sep more := by
  induction list with
  | nil => rfl
  | cons a list ih =>
    obtain ⟨hlist, hne⟩ := ended_tail h
    by_cases ha : a = sep
    · simp only [List.cons_append, linesBy, if_pos ha, ih hlist]
    · simp only [List.cons_append, linesBy, if_neg ha, ih hlist]
      cases hlines : linesBy sep list with
      | nil => exact absurd (linesBy_eq_nil hlines) (hne ha)
      | cons line lines => rfl

theorem linesBy_flatMap {β : Type} {line : β → List α} (h : ∀ b, sep ∉ line b) (list : List β) :
    linesBy sep (list.flatMap fun b => line b ++ [sep]) = list.map fun b => line b ++ [sep] := by
  induction list with
  | nil => rfl
  | cons b list ih =>
    rw [List.flatMap_cons, List.append_assoc, List.singleton_append, linesBy_line (h b), ih,
      List.map_cons]

end Text
end MeshTelemetry
