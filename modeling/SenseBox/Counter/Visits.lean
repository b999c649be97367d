import SenseBox.Data.Edge

namespace SenseBox.Counter

open SenseBox.Data

/-! What the people counters are for: a visit is a maximal run of near
readings, completed by the first reading after it that is not near. -/

structure Visits where
  near : Bool
  completed : Nat
  deriving DecidableEq

namespace Visits

def start : Visits := ⟨false, 0⟩

def read (visits : Visits) (near : Bool) : Visits where
  near := near
  completed :=
    if visits.near && !near then visits.completed + 1 else visits.completed

def reads (levels : List Bool) : Visits := levels.foldl read start

@[simp] theorem reads_concat (levels : List Bool) (near : Bool) :
    reads (levels ++ [near]) = (reads levels).read near := by
  simp [reads]

theorem reads_eq (levels : List Bool) :
    reads levels = ⟨levels.getLast?.getD false, falls levels⟩ := by
  induction levels using List.reverseRecOn with
  | nil => rfl
  | append_singleton levels near ih =>
      rw [reads_concat, ih, falls_concat, List.getLast?_concat]
      cases near <;> cases levels.getLast?.getD false <;> rfl

end Visits

end SenseBox.Counter
