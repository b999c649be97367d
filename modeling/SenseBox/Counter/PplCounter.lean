import SenseBox.Counter.Visits
import SenseBox.Data.Run
import Mathlib.Tactic.SplitIfs

namespace SenseBox.Counter

open SenseBox.Data

/-! The counter the sketches share.  An `int` of the boards has 16 bits, and
`boolean` is the `bool` of C++ with its conversions from and to `int`. -/

def boolToInt (value : Bool) : Int16 := if value then 1 else 0

def intToBool (value : Int16) : Bool := value != 0

@[simp] theorem intToBool_boolToInt (value : Bool) :
    intToBool (boolToInt value) = value := by
  cases value <;> decide

def updatePpl (nbPeople : Int16) : Int16 := nbPeople + 1

/-- The returned state together with the global `nb_people`; `none` is the end
of the body that no `return` reaches. -/
def pplCounter (tempState tempDist distToPpl nbPeople : Int16) :
    Option (Int16 × Int16) :=
  if tempState = 0 then
    if tempDist < distToPpl then some (1, nbPeople) else some (0, nbPeople)
  else if tempState = 1 then
    if tempDist ≥ distToPpl then some (0, updatePpl nbPeople)
    else some (1, nbPeople)
  else none

def countStep (distToPpl : Int16) (distance : Int16) (counter : Bool × Int16) :
    Option (Bool × Int16) :=
  (pplCounter (boolToInt counter.1) distance distToPpl counter.2).map
    fun result => (intToBool result.1, result.2)

/-! The counter carries out the visit machine on the levels of the distances. -/

def near (threshold distance : Int16) : Bool := decide (distance < threshold)

theorem pplCounter_boolToInt (state : Bool) (distance threshold nb : Int16) :
    pplCounter (boolToInt state) distance threshold nb =
      some (boolToInt (near threshold distance),
        if state && !near threshold distance then nb + 1 else nb) := by
  cases state with
  | false =>
      by_cases hnear : distance < threshold <;>
        simp [pplCounter, boolToInt, near, hnear]
  | true =>
      by_cases hnear : distance < threshold
      · have hfar : ¬ threshold ≤ distance := Int16.not_le.mpr hnear
        simp [pplCounter, boolToInt, near, hnear, hfar]
      · have hfar : threshold ≤ distance := Int16.not_lt.mp hnear
        simp [pplCounter, boolToInt, updatePpl, near, hnear, hfar]

theorem countStep_eq (threshold distance nb : Int16) (state : Bool) :
    countStep threshold distance (state, nb) =
      some (near threshold distance,
        if state && !near threshold distance then nb + 1 else nb) := by
  simp [countStep, pplCounter_boolToInt]

/-- The state is the last level, and `nb_people` has grown by the completed
visits, as far as 16 bits hold them. -/
structure Counts (base : Int16) (counter : Bool × Int16)
    (visits : Visits) : Prop where
  state : counter.1 = visits.near
  nbPeople : counter.2 = base + Int16.ofNat visits.completed

theorem countStep_counts {threshold base distance : Int16}
    {counter : Bool × Int16} {visits : Visits}
    (hcounts : Counts base counter visits) :
    ∃ next, countStep threshold distance counter = some next ∧
      Counts base next (visits.read (near threshold distance)) := by
  obtain ⟨state, nb⟩ := counter
  obtain ⟨rfl, rfl⟩ : state = visits.near ∧
      nb = base + Int16.ofNat visits.completed :=
    ⟨hcounts.state, hcounts.nbPeople⟩
  refine ⟨_, countStep_eq .., rfl, ?_⟩
  simp only [Visits.read]
  split
  · rw [Int16.ofNat_add, ← Int16.add_assoc]
    rfl
  · rfl

theorem run_countStep (threshold base : Int16) (distances : List Int16) :
    ∃ counter, run (countStep threshold) distances (false, base) = some counter ∧
      Counts base counter (Visits.reads (distances.map (near threshold))) := by
  refine run_refines Visits.read (Counts base) (near threshold)
    (fun distance counter visits => countStep_counts) distances ?_
  exact ⟨rfl, (Int16.add_zero base).symm⟩

theorem Counts.toInt {counter : Bool × Int16} {visits : Visits}
    (hcounts : Counts 0 counter visits) (hfits : visits.completed ≤ 32767) :
    counter.2.toInt = visits.completed := by
  rw [hcounts.nbPeople, Int16.zero_add]
  exact Int16.toInt_ofNat_of_lt (by omega)

end SenseBox.Counter
