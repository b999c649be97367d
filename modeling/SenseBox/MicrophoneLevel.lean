import SenseBox.Data.Run
import SenseBox.Device.Microphone
import Mathlib.Algebra.Order.Group.Unbundled.Int

namespace SenseBox

open SenseBox.Data
open SenseBox.Device

/-! What a level of the microphone says about the readings it was made of. -/

/-- Each iteration adds the deviation of a single reading, and the result is the
mean of the three. -/
def IsMeanDeviation (analogRead : Nat → Int16) : Prop :=
  ∃ first second third : Nat,
    (added analogRead 0).toInt = |(analogRead first).toInt - 510| ∧
    (added analogRead 1).toInt = |(analogRead second).toInt - 510| ∧
    (added analogRead 2).toInt = |(analogRead third).toInt - 510| ∧
    (getMicVal analogRead).toInt = max 1 (min 500
      ((|(analogRead first).toInt - 510| + |(analogRead second).toInt - 510| +
        |(analogRead third).toInt - 510|) / 3))

/-- The reading that is tested and the one that is taken are not on different
sides of the midpoint. -/
def SameSide (tested taken : Int16) : Prop :=
  (510 < tested.toInt ∧ 510 ≤ taken.toInt) ∨
    (tested.toInt ≤ 510 ∧ taken.toInt ≤ 510)

theorem added_of_sameSide {analogRead : Nat → Int16} (hadc : Adc analogRead)
    {i : Nat} (hside : SameSide (analogRead (2 * i)) (analogRead (2 * i + 1))) :
    (added analogRead i).toInt = |(analogRead (2 * i + 1)).toInt - 510| := by
  rw [toInt_added hadc, Int.abs_eq_natAbs]
  rcases hside with ⟨htested, htaken⟩ | ⟨htested, htaken⟩
  · rw [if_pos htested]
    omega
  · rw [if_neg (by omega)]
    omega

theorem sameSide_of_nonneg {analogRead : Nat → Int16} (hadc : Adc analogRead)
    {i : Nat} (hadded : 0 ≤ (added analogRead i).toInt) :
    SameSide (analogRead (2 * i)) (analogRead (2 * i + 1)) := by
  rw [toInt_added hadc] at hadded
  rw [SameSide]
  split at hadded <;> omega

/-- A level is the mean deviation exactly when in each iteration the two
evaluations of the reading agree on its side. -/
theorem mic_mean_iff {analogRead : Nat → Int16} (hadc : Adc analogRead) :
    IsMeanDeviation analogRead ↔
      ∀ i < 3, SameSide (analogRead (2 * i)) (analogRead (2 * i + 1)) := by
  constructor
  · rintro ⟨first, second, third, hfirst, hsecond, hthird, -⟩ i hi
    apply sameSide_of_nonneg hadc
    match i, hi with
    | 0, _ => exact hfirst ▸ abs_nonneg _
    | 1, _ => exact hsecond ▸ abs_nonneg _
    | 2, _ => exact hthird ▸ abs_nonneg _
  · intro hside
    have hfirst := added_of_sameSide hadc (hside 0 (by omega))
    have hsecond := added_of_sameSide hadc (hside 1 (by omega))
    have hthird := added_of_sameSide hadc (hside 2 (by omega))
    refine ⟨_, _, _, hfirst, hsecond, hthird, ?_⟩
    have hlevel := toInt_micLevel hadc (show 0 ≤ (0 : Int32).toInt by decide)
      (show (0 : Int32).toInt ≤ 500 by decide)
    rw [getMicVal_eq, hlevel, ← hfirst, ← hsecond, ← hthird, clampedMean]
    have htotal : 0 ≤ total analogRead := by
      rw [total, hfirst, hsecond, hthird]
      exact add_nonneg (add_nonneg (abs_nonneg _) (abs_nonneg _)) (abs_nonneg _)
    show max 1 (min 500 (((0 + total analogRead).natAbs / 3 : Nat) : Int)) =
      max 1 (min 500 (total analogRead / 3))
    omega

def constantReading (reading : Int16) : Nat → Int16 := fun _ => reading

theorem adc_constant {reading : Int16} (hlow : 0 ≤ reading.toInt)
    (hhigh : reading.toInt ≤ 1023) : Adc (constantReading reading) :=
  fun _ => ⟨hlow, hhigh⟩

theorem mic_mean_quiet :
    Adc (constantReading 512) ∧ IsMeanDeviation (constantReading 512) := by
  have hadc : Adc (constantReading 512) := adc_constant (by decide) (by decide)
  refine ⟨hadc, (mic_mean_iff hadc).mpr ?_⟩
  intro i _
  exact .inl ⟨show (510 : Int) < 512 by decide, show (510 : Int) ≤ 512 by decide⟩

/-- The first reading is above the midpoint when tested and below it when taken. -/
def crossing : Nat → Int16
  | 0 => 511
  | 1 => 500
  | _ => 520

theorem adc_crossing : Adc crossing := by
  intro i
  unfold crossing
  split <;> decide

theorem crossing_not_mean :
    ¬ ∀ analogRead : Nat → Int16, Adc analogRead →
      IsMeanDeviation analogRead := by
  intro hall
  obtain ⟨first, -, -, hfirst, -⟩ := hall crossing adc_crossing
  have hnegative : (added crossing 0).toInt = -10 := by decide
  rw [hnegative] at hfirst
  have := abs_nonneg ((crossing first).toInt - 510)
  omega

/-! The sketches whose `micVal` is a global: what one call leaves, the next one
begins with. -/

namespace SenseboxCodeDoor

def getMicVal (analogRead : Nat → Int16) (micVal : Int32) : Int32 :=
  micLevel micVal analogRead

end SenseboxCodeDoor

namespace SDuS

def getMicVal (analogRead : Nat → Int16) (micVal : Int32) : Int32 :=
  micLevel micVal analogRead

end SDuS

namespace Sensors

def getMicVal (analogRead : Nat → Int16) (micVal : Int32) : Int32 :=
  micLevel micVal analogRead

end Sensors

namespace MicroTim

def getMicVal (analogRead : Nat → Int16) (micVal : Int32) : Int32 :=
  micLevel micVal analogRead

end MicroTim

abbrev GlobalLevel := (Nat → Int16) → Int32 → Int32

def globalVersions : List GlobalLevel :=
  [SenseboxCodeDoor.getMicVal, SDuS.getMicVal, Sensors.getMicVal,
    MicroTim.getMicVal]

/-- One call; the state is `micVal`. -/
def GlobalLevel.call (getMicVal : GlobalLevel) (analogRead : Nat → Int16)
    (micVal : Int32) : Option Int32 :=
  some (getMicVal analogRead micVal)

def GlobalLevel.levels (getMicVal : GlobalLevel) :
    List (Nat → Int16) → Int32 → List Int32 :=
  emitted getMicVal.call fun analogRead micVal => [getMicVal analogRead micVal]

/-- What `micVal` holds before a call does not take the sum of its deviations
to another third. -/
def Forgets (analogRead : Nat → Int16) (micVal : Int32) : Prop :=
  SameThird (micVal.toInt + total analogRead) (total analogRead)

theorem globalVersions_eq {getMicVal : GlobalLevel}
    (hversion : getMicVal ∈ globalVersions) :
    getMicVal = fun analogRead micVal => micLevel micVal analogRead := by
  simp only [globalVersions, List.mem_cons, List.not_mem_nil, or_false] at hversion
  rcases hversion with rfl | rfl | rfl | rfl <;> rfl

/-- `micVal` between two calls. -/
def Settled (micVal : Int32) : Prop := 0 ≤ micVal.toInt ∧ micVal.toInt ≤ 500

theorem settled_zero : Settled 0 := ⟨by decide, by decide⟩

theorem settled_micLevel {analogRead : Nat → Int16} (hadc : Adc analogRead)
    {micVal : Int32} (hsettled : Settled micVal) :
    Settled (micLevel micVal analogRead) := by
  have hbounds := clampedMean_bounds (micVal.toInt + total analogRead)
  rw [Settled, toInt_micLevel hadc hsettled.1 hsettled.2]
  omega

theorem micLevel_eq_iff {analogRead : Nat → Int16} (hadc : Adc analogRead)
    {first second : Int32} (hfirst : Settled first) (hsecond : Settled second) :
    micLevel first analogRead = micLevel second analogRead ↔
      SameThird (first.toInt + total analogRead)
        (second.toInt + total analogRead) := by
  rw [← Int32.toInt_inj, toInt_micLevel hadc hfirst.1 hfirst.2,
    toInt_micLevel hadc hsecond.1 hsecond.2]
  exact clampedMean_eq_iff _ _

theorem getMicVal_eq_iff {analogRead : Nat → Int16} (hadc : Adc analogRead)
    {micVal : Int32} (hsettled : Settled micVal) :
    micLevel micVal analogRead = Device.getMicVal analogRead ↔
      Forgets analogRead micVal := by
  rw [getMicVal_eq, micLevel_eq_iff hadc hsettled settled_zero, Forgets]
  show SameThird _ (0 + total analogRead) ↔ _
  rw [Int.zero_add]

section Histories

variable {getMicVal : GlobalLevel} {calls : List (Nat → Int16)} {micVal : Int32}

theorem settled_after (hversion : getMicVal ∈ globalVersions)
    (hadc : ∀ call ∈ calls, Adc call) {last : Int32}
    (hsettled : Settled micVal) (hrun : run getMicVal.call calls micVal = some last) :
    Settled last := by
  obtain rfl := globalVersions_eq hversion
  refine run_invariant Settled ?_ hsettled hrun
  intro call hcall start finish hstart hfinish
  cases hfinish
  exact settled_micLevel (hadc call hcall) hstart

theorem levels_eq_iff (hversion : getMicVal ∈ globalVersions)
    (hadc : ∀ call ∈ calls, Adc call) (hsettled : Settled micVal) :
    getMicVal.levels calls micVal = calls.map Device.getMicVal ↔
      Along getMicVal.call Forgets calls micVal := by
  obtain rfl := globalVersions_eq hversion
  induction calls generalizing micVal with
  | nil => simp [GlobalLevel.levels, Along]
  | cons call rest ih =>
      have hcall := hadc call (by simp)
      have hrest := ih (fun other hother => hadc other (by simp [hother]))
        (settled_micLevel hcall hsettled)
      rw [GlobalLevel.levels, emitted_cons _ rfl, List.map_cons,
        List.singleton_append, List.cons.injEq, getMicVal_eq_iff hcall hsettled]
      constructor
      · rintro ⟨hforgets, hlevels⟩
        refine ⟨hforgets, ?_⟩
        rintro next ⟨⟩
        exact hrest.mp hlevels
      · rintro ⟨hforgets, halong⟩
        exact ⟨hforgets, hrest.mpr (halong _ rfl)⟩

end Histories

/-- Two histories leave the same level of the same readings exactly when what
they left in `micVal` gives the same third, and the levels are those of the
sketch with a local `micVal` exactly when every call forgets what it finds. -/
theorem mic_memory (getMicVal : GlobalLevel)
    (hversion : getMicVal ∈ globalVersions) :
    (∀ (first second : List (Nat → Int16)) (call : Nat → Int16)
      (left right : Int32),
      (∀ other ∈ first ++ second ++ [call], Adc other) →
      run getMicVal.call first 0 = some left →
      run getMicVal.call second 0 = some right →
      (getMicVal call left = getMicVal call right ↔
        SameThird (left.toInt + total call) (right.toInt + total call))) ∧
    (∀ calls : List (Nat → Int16), (∀ call ∈ calls, Adc call) →
      (getMicVal.levels calls 0 = calls.map Device.getMicVal ↔
        Along getMicVal.call Forgets calls 0)) := by
  refine ⟨?_, fun calls hadc => levels_eq_iff hversion hadc settled_zero⟩
  intro first second call left right hadc hfirst hsecond
  have hleft := settled_after hversion
    (fun other hother => hadc other (by simp [hother])) settled_zero hfirst
  have hright := settled_after hversion
    (fun other hother => hadc other (by simp [hother])) settled_zero hsecond
  rw [globalVersions_eq hversion]
  exact micLevel_eq_iff (hadc call (by simp)) hleft hright

/-- A quiet call leaves too little to be heard, and loud ones drown what they
find. -/
theorem mic_memory_loud :
    SDuS.getMicVal (constantReading 510) 0 =
        SDuS.getMicVal (constantReading 510) 1 ∧
      GlobalLevel.levels SDuS.getMicVal
          [constantReading 510, constantReading 1023, constantReading 1023] 0 =
        [1, 500, 500] := by
  have hquiet : Adc (constantReading 510) := adc_constant (by decide) (by decide)
  have hloud : Adc (constantReading 1023) :=
    adc_constant (by decide) (by decide)
  obtain ⟨hhistories, hlevels⟩ := mic_memory SDuS.getMicVal (by simp [globalVersions])
  constructor
  · refine (hhistories [] [constantReading 510] _ 0 1 ?_ rfl ?_).mpr ?_
    · simp [hquiet]
    · decide
    · exact .inl (by decide)
  · refine (hlevels [constantReading 510, constantReading 1023,
      constantReading 1023] (by simp [hquiet, hloud])).mpr ⟨.inl (by decide), ?_⟩
    rintro _ ⟨⟩
    refine ⟨.inr (.inr (by decide)), ?_⟩
    rintro _ ⟨⟩
    exact ⟨.inr (.inr (by decide)), fun _ _ => trivial⟩

/-- After a loud call a quiet one still reports a third of its level. -/
theorem loud_remembered :
    ¬ ∀ getMicVal ∈ globalVersions, ∀ calls : List (Nat → Int16),
      (∀ call ∈ calls, Adc call) →
      getMicVal.levels calls 0 = calls.map Device.getMicVal := by
  intro hall
  have hloud : Adc (constantReading 1023) :=
    adc_constant (by decide) (by decide)
  have hquiet : Adc (constantReading 510) := adc_constant (by decide) (by decide)
  have hlevels := hall SDuS.getMicVal (by simp [globalVersions])
    [constantReading 1023, constantReading 510] (by simp [hloud, hquiet])
  exact absurd hlevels (by decide)

end SenseBox
