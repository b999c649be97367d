import SenseBox.Counter.PplCounter
import Mathlib.Data.List.Chain

namespace SenseBox.Counter

open SenseBox.Data

/-! Rangings of which some come back empty.  A missing echo is reported as the
distance `0`, which the counter takes for something right at the sensor. -/

structure Ranging (Outcome : Type*) where
  heard : Outcome → Bool
  distance : Outcome → Int16
  distance_missing : ∀ outcome, heard outcome = false → distance outcome = 0

namespace Ranging

variable {Outcome : Type*} (ranging : Ranging Outcome) (threshold : Int16)

def realNear (outcome : Outcome) : Bool :=
  ranging.heard outcome && near threshold (ranging.distance outcome)

def visits (outcomes : List Outcome) : Nat :=
  falls (outcomes.map (ranging.realNear threshold))

def counted (outcomes : List Outcome) : Nat :=
  falls (outcomes.map fun outcome => near threshold (ranging.distance outcome))

/-- Two outcomes in a row of which the counter takes the missing one for a
visitor: someone near and then nothing heard, or nothing and then a far echo. -/
def Confusing (previous current : Outcome) : Prop :=
  ranging.realNear threshold previous = true ∧ ranging.heard current = false ∨
    ranging.heard previous = false ∧ ranging.heard current = true ∧
      ranging.realNear threshold current = false

theorem near_missing (hthreshold : 0 < threshold) {outcome : Outcome}
    (hmissing : ranging.heard outcome = false) :
    near threshold (ranging.distance outcome) = true := by
  simp [near, ranging.distance_missing outcome hmissing, hthreshold]

theorem realNear_of_heard {outcome : Outcome}
    (hheard : ranging.heard outcome = true) :
    ranging.realNear threshold outcome =
      near threshold (ranging.distance outcome) := by
  simp [realNear, hheard]

theorem realNear_of_missing {outcome : Outcome}
    (hmissing : ranging.heard outcome = false) :
    ranging.realNear threshold outcome = false := by
  simp [realNear, hmissing]

theorem falls_agree_iff (hthreshold : 0 < threshold)
    (previous current : Outcome) :
    (near threshold (ranging.distance previous) &&
        !near threshold (ranging.distance current)) =
      (ranging.realNear threshold previous &&
        !ranging.realNear threshold current) ↔
      ¬ ranging.Confusing threshold previous current := by
  unfold Confusing
  cases hprevious : ranging.heard previous <;>
    cases hcurrent : ranging.heard current
  · simp [ranging.near_missing threshold hthreshold hprevious,
      ranging.near_missing threshold hthreshold hcurrent,
      ranging.realNear_of_missing threshold hprevious]
  · simp [ranging.near_missing threshold hthreshold hprevious,
      ranging.realNear_of_missing threshold hprevious,
      ranging.realNear_of_heard threshold hcurrent]
  · simp [ranging.near_missing threshold hthreshold hcurrent,
      ranging.realNear_of_missing threshold hcurrent,
      ranging.realNear_of_heard threshold hprevious]
  · simp [ranging.realNear_of_heard threshold hprevious,
      ranging.realNear_of_heard threshold hcurrent]

theorem ofNat_add_bit_inj {first second : Nat} (left right : Bool)
    (hsame : Int16.ofNat first = Int16.ofNat second) :
    Int16.ofNat (first + if left then 1 else 0) =
        Int16.ofNat (second + if right then 1 else 0) ↔ left = right := by
  rw [Int16.ofNat_add, Int16.ofNat_add, hsame, Int16.add_right_inj]
  cases left <;> cases right <;> decide

theorem agree_concat_iff (hthreshold : 0 < threshold)
    {outcomes : List Outcome}
    (hagree : Int16.ofNat (ranging.counted threshold outcomes) =
      Int16.ofNat (ranging.visits threshold outcomes)) (current : Outcome) :
    Int16.ofNat (ranging.counted threshold (outcomes ++ [current])) =
        Int16.ofNat (ranging.visits threshold (outcomes ++ [current])) ↔
      ∀ previous ∈ outcomes.getLast?,
        ¬ ranging.Confusing threshold previous current := by
  unfold counted visits at hagree ⊢
  simp only [List.map_append, List.map_singleton, falls_concat,
    List.getLast?_map]
  rw [ofNat_add_bit_inj _ _ hagree]
  cases outcomes.getLast? with
  | none => simp
  | some previous =>
      simpa using ranging.falls_agree_iff threshold hthreshold previous current

/-- The counter counts the visits of the real echoes, after every outcome, just
when no two outcomes in a row are confusing. -/
theorem counted_iff (hthreshold : 0 < threshold) (outcomes : List Outcome) :
    (∀ front, front <+: outcomes →
      Int16.ofNat (ranging.counted threshold front) =
        Int16.ofNat (ranging.visits threshold front)) ↔
      outcomes.IsChain fun previous current =>
        ¬ ranging.Confusing threshold previous current := by
  induction outcomes using List.reverseRecOn with
  | nil => simp [counted, visits]
  | append_singleton outcomes current ih =>
      rw [List.isChain_append]
      constructor
      · intro hall
        have hbefore : ∀ front, front <+: outcomes →
            Int16.ofNat (ranging.counted threshold front) =
              Int16.ofNat (ranging.visits threshold front) :=
          fun front hfront => hall front (hfront.trans (List.prefix_append ..))
        have hlast := (ranging.agree_concat_iff threshold hthreshold
          (hbefore outcomes (List.prefix_refl _)) current).mp
            (hall _ (List.prefix_refl _))
        refine ⟨ih.mp hbefore, List.isChain_singleton _, ?_⟩
        intro previous hprevious other hother
        cases hother
        exact hlast previous hprevious
      · rintro ⟨hchain, -, hlast⟩ front hfront
        have hbefore := ih.mpr hchain
        rcases List.prefix_concat_iff.mp hfront with rfl | hfront
        · exact (ranging.agree_concat_iff threshold hthreshold
            (hbefore outcomes (List.prefix_refl _)) current).mpr
              fun previous hprevious => hlast previous hprevious current rfl
        · exact hbefore front hfront

end Ranging

end SenseBox.Counter
