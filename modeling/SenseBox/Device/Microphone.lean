import Mathlib.Data.Int.Init
import Mathlib.Tactic.Common

namespace SenseBox.Device

/-! The sound level.  `abs` and `constrain` are macros of the core, and `abs`
evaluates its argument a second time for its result. -/

def period : Int32 := 3
def correctionValue : Int16 := 510

/-- `abs (analogRead(MIC_PORT) - correction_value)` over the two readings it
takes. -/
def deviation (tested taken : Int16) : Int16 :=
  if tested - correctionValue > 0 then taken - correctionValue
  else -(taken - correctionValue)

def absLong (value : Int32) : Int32 := if value > 0 then value else -value

def constrain (amt low high : Int32) : Int32 :=
  if amt < low then low else if amt > high then high else amt

/-- The readings are those of `analogRead` in the order it is evaluated. -/
def getMicVal (analogRead : Nat → Int16) : Int32 :=
  let micVal := (List.range 3).foldl (fun micVal i =>
    micVal + (deviation (analogRead (2 * i)) (analogRead (2 * i + 1))).toInt32) 0
  constrain (absLong (micVal / period)) 1 500

/-- The body of `getMicVal` from the `micVal` it begins with. -/
def micLevel (micVal : Int32) (analogRead : Nat → Int16) : Int32 :=
  let micVal := (List.range 3).foldl (fun micVal i =>
    micVal + (deviation (analogRead (2 * i)) (analogRead (2 * i + 1))).toInt32)
    micVal
  constrain (absLong (micVal / period)) 1 500

theorem getMicVal_eq (analogRead : Nat → Int16) :
    getMicVal analogRead = micLevel 0 analogRead := rfl

/-! The level as a number, for readings of the 10-bit converter. -/

def Adc (analogRead : Nat → Int16) : Prop :=
  ∀ i, 0 ≤ (analogRead i).toInt ∧ (analogRead i).toInt ≤ 1023

/-- What the iteration `i` of the loop adds. -/
def added (analogRead : Nat → Int16) (i : Nat) : Int16 :=
  deviation (analogRead (2 * i)) (analogRead (2 * i + 1))

def total (analogRead : Nat → Int16) : Int :=
  (added analogRead 0).toInt + (added analogRead 1).toInt +
    (added analogRead 2).toInt

def clampedMean (sum : Int) : Int := max 1 (min 500 ↑(sum.natAbs / 3))

theorem toInt_sub_correction {reading : Int16} (hlow : 0 ≤ reading.toInt)
    (hhigh : reading.toInt ≤ 1023) :
    (reading - correctionValue).toInt = reading.toInt - 510 := by
  rw [Int16.toInt_sub]
  show (reading.toInt - 510).bmod (2 ^ 16) = _
  exact Int.bmod_eq_of_le (by omega) (by omega)

theorem toInt_added {analogRead : Nat → Int16} (hadc : Adc analogRead)
    (i : Nat) :
    (added analogRead i).toInt =
      if 510 < (analogRead (2 * i)).toInt then
        (analogRead (2 * i + 1)).toInt - 510
      else 510 - (analogRead (2 * i + 1)).toInt := by
  obtain ⟨htested, htestedHigh⟩ := hadc (2 * i)
  obtain ⟨htaken, htakenHigh⟩ := hadc (2 * i + 1)
  have hside : analogRead (2 * i) - correctionValue > 0 ↔
      510 < (analogRead (2 * i)).toInt := by
    show (0 : Int16) < _ ↔ _
    rw [Int16.lt_iff_toInt_lt, toInt_sub_correction htested htestedHigh]
    show 0 < (analogRead (2 * i)).toInt - 510 ↔ _
    omega
  have htaken := toInt_sub_correction htaken htakenHigh
  rw [added, deviation]
  by_cases hover : 510 < (analogRead (2 * i)).toInt
  · rw [if_pos (hside.mpr hover), if_pos hover, htaken]
  · rw [if_neg (mt hside.mp hover), if_neg hover, Int16.toInt_neg, htaken]
    rw [Int.bmod_eq_of_le (by omega) (by omega)]
    omega

theorem added_bounds {analogRead : Nat → Int16} (hadc : Adc analogRead)
    (i : Nat) :
    -513 ≤ (added analogRead i).toInt ∧ (added analogRead i).toInt ≤ 513 := by
  have htaken := hadc (2 * i + 1)
  rw [toInt_added hadc]
  split <;> omega

theorem total_bounds {analogRead : Nat → Int16} (hadc : Adc analogRead) :
    -1539 ≤ total analogRead ∧ total analogRead ≤ 1539 := by
  have hfirst := added_bounds hadc 0
  have hsecond := added_bounds hadc 1
  have hthird := added_bounds hadc 2
  rw [total]
  omega

theorem toInt_add_added {analogRead : Nat → Int16} (hadc : Adc analogRead)
    (i : Nat) {micVal : Int32} (hsmall : micVal.toInt.natAbs ≤ 9000) :
    (micVal + (added analogRead i).toInt32).toInt =
      micVal.toInt + (added analogRead i).toInt := by
  have hadded := added_bounds hadc i
  rw [Int32.toInt_add, Int16.toInt_toInt32]
  exact Int.bmod_eq_of_le (by omega) (by omega)

theorem toInt_clamped {value : Int32} (hvalue : value.toInt.natAbs ≤ 10000) :
    (constrain (absLong value) 1 500).toInt =
      max 1 (min 500 ↑value.toInt.natAbs) := by
  have habs : (absLong value).toInt = ↑value.toInt.natAbs := by
    rw [absLong]
    split
    · next hpos =>
      have := Int32.lt_iff_toInt_lt.mp hpos
      change 0 < value.toInt at this
      omega
    · next hneg =>
      rw [gt_iff_lt, Int32.lt_iff_toInt_lt] at hneg
      change ¬ 0 < value.toInt at hneg
      rw [Int32.toInt_neg, Int.bmod_eq_of_le (by omega) (by omega)]
      omega
  rw [constrain]
  simp only [gt_iff_lt, Int32.lt_iff_toInt_lt, apply_ite Int32.toInt, habs]
  show (if (value.toInt.natAbs : Int) < 1 then 1
    else if (500 : Int) < value.toInt.natAbs then 500
    else (value.toInt.natAbs : Int)) = _
  split
  · omega
  · split <;> omega

theorem micLevel_sum {analogRead : Nat → Int16} (hadc : Adc analogRead)
    {micVal : Int32} (hlow : 0 ≤ micVal.toInt) (hhigh : micVal.toInt ≤ 500) :
    ∃ sum : Int32, sum.toInt = micVal.toInt + total analogRead ∧
      micLevel micVal analogRead = constrain (absLong (sum / period)) 1 500 := by
  have hbounds := added_bounds hadc
  have hfirst := toInt_add_added hadc 0 (show micVal.toInt.natAbs ≤ 9000 by omega)
  have hsecond := toInt_add_added hadc 1
    (show _ ≤ 9000 by rw [hfirst]; have := hbounds 0; omega)
  have hthird := toInt_add_added hadc 2
    (show _ ≤ 9000 by
      rw [hsecond, hfirst]; have := hbounds 0; have := hbounds 1; omega)
  refine ⟨_, ?_, rfl⟩
  refine hthird.trans ?_
  rw [hsecond, hfirst, total]
  omega

theorem toInt_micLevel {analogRead : Nat → Int16} (hadc : Adc analogRead)
    {micVal : Int32} (hlow : 0 ≤ micVal.toInt) (hhigh : micVal.toInt ≤ 500) :
    (micLevel micVal analogRead).toInt =
      clampedMean (micVal.toInt + total analogRead) := by
  obtain ⟨sum, hsum, hlevel⟩ := micLevel_sum hadc hlow hhigh
  have htotal := total_bounds hadc
  have hthird : (sum.toInt.tdiv 3).natAbs = sum.toInt.natAbs / 3 :=
    Int.natAbs_tdiv _ 3
  have hmean : (sum / period).toInt = sum.toInt.tdiv 3 := by
    rw [Int32.toInt_div]
    show (sum.toInt.tdiv 3).bmod (2 ^ 32) = _
    exact Int.bmod_eq_of_le (by omega) (by omega)
  rw [hlevel, toInt_clamped (by rw [hmean]; omega), hmean, hthird, hsum]
  rfl

theorem clampedMean_bounds (sum : Int) :
    1 ≤ clampedMean sum ∧ clampedMean sum ≤ 500 := by
  rw [clampedMean]
  omega

/-- Two sums have the same third once their thirds are clamped. -/
def SameThird (first second : Int) : Prop :=
  first.natAbs / 3 = second.natAbs / 3 ∨
    (first.natAbs < 6 ∧ second.natAbs < 6) ∨
    (1500 ≤ first.natAbs ∧ 1500 ≤ second.natAbs)

theorem clampedMean_eq_iff (first second : Int) :
    clampedMean first = clampedMean second ↔ SameThird first second := by
  rw [clampedMean, clampedMean, SameThird]
  omega

end SenseBox.Device
