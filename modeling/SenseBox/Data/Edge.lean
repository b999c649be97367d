import Mathlib.Data.List.Infix
import Mathlib.Tactic.Common

namespace SenseBox.Data

/-! Falling edges of a stream of truth values. -/

/-- The number of positions that hold `true` and are directly followed by
`false`. -/
def falls (levels : List Bool) : Nat :=
  (levels.zip levels.tail).countP fun pair => pair.1 && !pair.2

@[simp] theorem falls_singleton (level : Bool) : falls [level] = 0 := rfl

theorem falls_cons_cons (first second : Bool) (rest : List Bool) :
    falls (first :: second :: rest) =
      falls (second :: rest) + if first && !second then 1 else 0 := by
  simp only [falls, List.tail_cons, List.zip_cons_cons, List.countP_cons]

@[simp] theorem falls_false_cons (levels : List Bool) :
    falls (false :: levels) = falls levels := by
  cases levels with
  | nil => rfl
  | cons head tail => simp [falls_cons_cons]

theorem falls_concat (levels : List Bool) (last : Bool) :
    falls (levels ++ [last]) =
      falls levels +
        if levels.getLast?.getD false && !last then 1 else 0 := by
  induction levels with
  | nil => rfl
  | cons head tail ih =>
      cases tail with
      | nil => simp [falls_cons_cons]
      | cons next rest =>
          simp only [List.cons_append, falls_cons_cons] at ih ⊢
          rw [ih, List.getLast?_cons_cons]
          exact Nat.add_right_comm _ _ _

theorem falls_le_append (first second : List Bool) :
    falls first ≤ falls (first ++ second) := by
  induction first with
  | nil => exact Nat.zero_le _
  | cons head tail ih =>
      cases tail with
      | nil => exact Nat.zero_le _
      | cons next rest =>
          simp only [List.cons_append, falls_cons_cons] at ih ⊢
          omega

end SenseBox.Data
