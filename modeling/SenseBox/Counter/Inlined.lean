import SenseBox.Counter.PplCounter
import Mathlib.Data.List.Basic

namespace SenseBox.Counter

open SenseBox.Data

/-! The counter of the uploading sketches, which is written into their loops as
two consecutive conditions. -/

def inlined (threshold distance state nbPeople : Int16) : Int16 × Int16 :=
  let state :=
    if state = 0 then if distance < threshold then 1 else state
    else state
  if state = 1 then
    if distance ≥ threshold then (0, nbPeople + 1) else (state, nbPeople)
  else (state, nbPeople)

/-- The distances of one call of `loop`; what it posts after them leaves the
counter alone. -/
def inlinedCall (threshold : Int16) (counter : Int16 × Int16)
    (distances : List Int16) : Int16 × Int16 :=
  distances.foldl (fun counter distance =>
    inlined threshold distance counter.1 counter.2) counter

theorem inlined_boolToInt (threshold distance nbPeople : Int16) (state : Bool) :
    inlined threshold distance (boolToInt state) nbPeople =
      (boolToInt (near threshold distance),
        if state && !near threshold distance then nbPeople + 1
        else nbPeople) := by
  by_cases hnear : distance < threshold
  · have hfar : ¬ threshold ≤ distance := Int16.not_le.mpr hnear
    cases state <;> simp [inlined, boolToInt, near, hnear, hfar]
  · have hfar : threshold ≤ distance := Int16.not_lt.mp hnear
    cases state <;> simp [inlined, boolToInt, near, hnear, hfar]

theorem foldl_inlinedCall (threshold : Int16) (calls : List (List Int16))
    (counter : Int16 × Int16) :
    calls.foldl (inlinedCall threshold) counter =
      inlinedCall threshold counter calls.flatten := by
  rw [inlinedCall, List.foldl_flatten]
  rfl

/-- The conditions take the state and the count of `ppl_counter` to those that
it takes them to. -/
theorem inlinedCall_eq {threshold : Int16} {distances : List Int16}
    {state finish : Bool} {nbPeople count : Int16}
    (hrun : run (countStep threshold) distances (state, nbPeople) =
      some (finish, count)) :
    inlinedCall threshold (boolToInt state, nbPeople) distances =
      (boolToInt finish, count) := by
  induction distances generalizing state nbPeople with
  | nil =>
      cases hrun
      rfl
  | cons distance rest ih =>
      rw [run_cons, countStep_eq] at hrun
      rw [inlinedCall, List.foldl_cons, inlined_boolToInt]
      exact ih hrun

end SenseBox.Counter
