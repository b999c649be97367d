import SenseBox.Data.Flt
import Mathlib.Data.Int.ConditionallyCompleteOrder

namespace SenseBox.Data

/-! Rounding to binary32 keeps the order of the values. -/

theorem abs_sub_nearestEven_le (value : ℚ) :
    |value - nearestEven value| ≤ 1 / 2 := by
  have hbelow := Int.floor_le value
  have habove := Int.lt_floor_add_one value
  unfold nearestEven
  dsimp only
  split
  · next hnear =>
    have hhalf : value - ⌊value⌋ ≤ 1 / 2 := by
      rcases hnear with hless | ⟨hequal, -⟩
      · exact hless.le
      · exact hequal.le
    rw [abs_le]
    constructor <;> linarith
  · next hfar =>
    have hhalf : (1 : ℚ) / 2 ≤ value - ⌊value⌋ :=
      not_lt.mp fun hnear => hfar (.inl hnear)
    push_cast
    rw [abs_le]
    constructor <;> linarith

theorem nearestEven_mono : Monotone nearestEven := by
  intro left right hle
  rcases hle.eq_or_lt with rfl | hlt
  · exact le_refl _
  · have hleft := abs_le.mp (abs_sub_nearestEven_le left)
    have hright := abs_le.mp (abs_sub_nearestEven_le right)
    have hnext : (nearestEven left : ℚ) < (nearestEven right + 1 : Int) := by
      push_cast
      linarith
    exact Int.lt_add_one_iff.mp (Int.cast_lt.mp hnext)

theorem nearestEven_intCast (value : Int) : nearestEven (value : ℚ) = value := by
  have hhalf := abs_le.mp (abs_sub_nearestEven_le (value : ℚ))
  have hbelow : (nearestEven (value : ℚ) : ℚ) < (value + 1 : Int) := by
    push_cast
    linarith
  have habove : (value : ℚ) < (nearestEven (value : ℚ) + 1 : Int) := by
    push_cast
    linarith
  have hle := Int.cast_lt.mp hbelow
  have hge := Int.cast_lt.mp habove
  omega

def binary32Nearest (value : ℚ) : ℚ :=
  nearestEven (value / binary32Ulp value) * binary32Ulp value

theorem binary32Round_eq (value : ℚ) : binary32Round value =
    if |binary32Nearest value| < 2 ^ 128 then .fin (binary32Nearest value)
    else .inf (value < 0) := rfl

/-- The exponent of the binade of a value; all subnormal values share one. -/
def binade (value : ℚ) : Int := max (Int.log 2 |value|) (-126)

theorem binary32Ulp_eq (value : ℚ) :
    binary32Ulp value = 2 ^ (binade value - 23) := rfl

theorem abs_lt_of_binade (value : ℚ) : |value| < 2 ^ (binade value + 1) := by
  have hlog := Int.lt_zpow_succ_log_self (b := 2) (by decide) |value|
  refine hlog.trans_le ?_
  exact zpow_le_zpow_right₀ (by norm_num) (by unfold binade; omega)

theorem le_abs_of_binade {value : ℚ} (hvalue : value ≠ 0)
    (hnormal : -126 < binade value) : 2 ^ binade value ≤ |value| := by
  have hlog : binade value = Int.log 2 |value| := by
    unfold binade at hnormal ⊢
    omega
  rw [hlog]
  exact Int.zpow_log_le_self (by decide) (abs_pos.mpr hvalue)

theorem binade_mono {left right : ℚ} (hleft : left ≠ 0)
    (hle : |left| ≤ |right|) : binade left ≤ binade right := by
  have hlog := Int.log_mono_right (b := 2) (abs_pos.mpr hleft) hle
  unfold binade
  omega

/-- Rounding does not cross a value that is a multiple of the step. -/
theorem binary32Nearest_le {value : ℚ} {steps : Int}
    (hle : value ≤ steps * binary32Ulp value) :
    binary32Nearest value ≤ steps * binary32Ulp value := by
  have hpos := binary32Ulp_pos value
  have hquotient : value / binary32Ulp value ≤ steps := (div_le_iff₀ hpos).mpr hle
  have hnearest := nearestEven_mono hquotient
  rw [nearestEven_intCast] at hnearest
  exact mul_le_mul_of_nonneg_right (Int.cast_le.mpr hnearest) hpos.le

theorem le_binary32Nearest {value : ℚ} {steps : Int}
    (hle : steps * binary32Ulp value ≤ value) :
    steps * binary32Ulp value ≤ binary32Nearest value := by
  have hpos := binary32Ulp_pos value
  have hquotient : (steps : ℚ) ≤ value / binary32Ulp value :=
    (le_div_iff₀ hpos).mpr hle
  have hnearest := nearestEven_mono hquotient
  rw [nearestEven_intCast] at hnearest
  exact mul_le_mul_of_nonneg_right (Int.cast_le.mpr hnearest) hpos.le

theorem binade_steps (value : ℚ) :
    2 ^ binade value = (8388608 : Int) * binary32Ulp value ∧
      2 ^ (binade value + 1) = (16777216 : Int) * binary32Ulp value := by
  have htwo : (2 : ℚ) ≠ 0 := by norm_num
  have hulp : binary32Ulp value * 8388608 = 2 ^ binade value := by
    rw [binary32Ulp_eq, zpow_sub₀ htwo]
    norm_num
  rw [zpow_add₀ htwo, zpow_one, ← hulp]
  constructor
  · push_cast
    ring
  · push_cast
    ring

theorem abs_binary32Nearest_le (value : ℚ) :
    |binary32Nearest value| ≤ 2 ^ (binade value + 1) := by
  obtain ⟨-, htop⟩ := binade_steps value
  obtain ⟨hlow, hhigh⟩ := abs_lt.mp (abs_lt_of_binade value)
  rw [htop] at hlow hhigh ⊢
  rw [← neg_mul, ← Int.cast_neg] at hlow
  rw [abs_le, ← neg_mul, ← Int.cast_neg]
  exact ⟨le_binary32Nearest hlow.le, binary32Nearest_le hhigh.le⟩

theorem le_binary32Nearest_of_pos {value : ℚ} (hvalue : 0 < value)
    (hnormal : -126 < binade value) : 2 ^ binade value ≤ binary32Nearest value := by
  obtain ⟨hbottom, -⟩ := binade_steps value
  have hle := le_abs_of_binade hvalue.ne' hnormal
  rw [abs_of_pos hvalue] at hle
  rw [hbottom] at hle ⊢
  exact le_binary32Nearest hle

theorem binary32Nearest_le_of_neg {value : ℚ} (hvalue : value < 0)
    (hnormal : -126 < binade value) :
    binary32Nearest value ≤ -2 ^ binade value := by
  obtain ⟨hbottom, -⟩ := binade_steps value
  have hle := le_abs_of_binade hvalue.ne hnormal
  rw [abs_of_neg hvalue, le_neg] at hle
  rw [hbottom, ← neg_mul, ← Int.cast_neg] at hle ⊢
  exact binary32Nearest_le hle

theorem binary32Nearest_nonneg {value : ℚ} (hvalue : 0 ≤ value) :
    0 ≤ binary32Nearest value := by
  have hzero : (0 : Int) * binary32Ulp value ≤ value := by
    simpa using hvalue
  simpa using le_binary32Nearest hzero

theorem binary32Nearest_nonpos {value : ℚ} (hvalue : value ≤ 0) :
    binary32Nearest value ≤ 0 := by
  have hzero : value ≤ (0 : Int) * binary32Ulp value := by
    simpa using hvalue
  simpa using binary32Nearest_le hzero

/-- Values of one binade are rounded with one step. -/
theorem binary32Nearest_le_of_binade {left right : ℚ} (hle : left ≤ right)
    (hbinade : binade left = binade right) :
    binary32Nearest left ≤ binary32Nearest right := by
  have hulp : binary32Ulp left = binary32Ulp right := by
    rw [binary32Ulp_eq, binary32Ulp_eq, hbinade]
  have hpos := binary32Ulp_pos right
  have hquotient := div_le_div_of_nonneg_right hle hpos.le
  rw [binary32Nearest, binary32Nearest, hulp]
  exact mul_le_mul_of_nonneg_right
    (Int.cast_le.mpr (nearestEven_mono hquotient)) hpos.le

/-- A binade ends where the next one begins, and the upper of two is not
subnormal. -/
theorem binade_next {low high : ℚ} (hlt : binade low < binade high) :
    (2 : ℚ) ^ (binade low + 1) ≤ 2 ^ binade high ∧ -126 < binade high := by
  have hsubnormal : -126 ≤ binade low := le_max_right _ _
  exact ⟨zpow_le_zpow_right₀ (by norm_num) (by omega), by omega⟩

theorem binary32Nearest_mono_of_neg {left right : ℚ} (hle : left ≤ right)
    (hright : right < 0) : binary32Nearest left ≤ binary32Nearest right := by
  have hleft : left < 0 := hle.trans_lt hright
  have hbinade : binade right ≤ binade left := by
    apply binade_mono hright.ne
    rw [abs_of_neg hright, abs_of_neg hleft]
    exact neg_le_neg hle
  rcases hbinade.eq_or_lt with hequal | hlt
  · exact binary32Nearest_le_of_binade hle hequal.symm
  · obtain ⟨hnext, hnormal⟩ := binade_next hlt
    calc
      binary32Nearest left ≤ -2 ^ binade left :=
        binary32Nearest_le_of_neg hleft hnormal
      _ ≤ -2 ^ (binade right + 1) := neg_le_neg hnext
      _ ≤ binary32Nearest right := (abs_le.mp (abs_binary32Nearest_le right)).1

theorem binary32Nearest_mono_of_pos {left right : ℚ} (hle : left ≤ right)
    (hleft : 0 < left) : binary32Nearest left ≤ binary32Nearest right := by
  have hright : 0 < right := hleft.trans_le hle
  have hbinade : binade left ≤ binade right := by
    apply binade_mono hleft.ne'
    rwa [abs_of_pos hleft, abs_of_pos hright]
  rcases hbinade.eq_or_lt with hequal | hlt
  · exact binary32Nearest_le_of_binade hle hequal
  · obtain ⟨hnext, hnormal⟩ := binade_next hlt
    calc
      binary32Nearest left ≤ 2 ^ (binade left + 1) :=
        (abs_le.mp (abs_binary32Nearest_le left)).2
      _ ≤ 2 ^ binade right := hnext
      _ ≤ binary32Nearest right := le_binary32Nearest_of_pos hright hnormal

theorem binary32Nearest_mono : Monotone binary32Nearest := by
  intro left right hle
  rcases le_or_gt left 0 with hleft | hleft
  · rcases le_or_gt 0 right with hright | hright
    · exact (binary32Nearest_nonpos hleft).trans (binary32Nearest_nonneg hright)
    · exact binary32Nearest_mono_of_neg hle hright
  · exact binary32Nearest_mono_of_pos hle hleft

/-- No value up to `2 ^ exponent` is rounded beyond twice of that. -/
theorem abs_binary32Nearest_le_pow {value : ℚ} {exponent : Nat}
    (hvalue : |value| ≤ 2 ^ exponent) :
    |binary32Nearest value| ≤ 2 ^ (exponent + 1) := by
  have hlog : Int.log 2 |value| ≤ exponent := by
    rcases (abs_nonneg value).eq_or_lt with hzero | hpos
    · rw [← hzero]
      simp
    · have hpower : (2 : ℚ) ^ Int.log 2 |value| ≤ 2 ^ (exponent : Int) := by
        rw [zpow_natCast]
        exact (Int.zpow_log_le_self (by decide) hpos).trans hvalue
      exact (zpow_le_zpow_iff_right₀ (by norm_num)).mp hpower
  have hbinade : binade value + 1 ≤ (exponent + 1 : Nat) := by
    unfold binade
    omega
  calc
    _ ≤ (2 : ℚ) ^ (binade value + 1) := abs_binary32Nearest_le value
    _ ≤ 2 ^ ((exponent + 1 : Nat) : Int) :=
      zpow_le_zpow_right₀ (by norm_num) hbinade
    _ = 2 ^ (exponent + 1) := zpow_natCast _ _

theorem binary32Round_fin {value : ℚ} {exponent : Nat}
    (hvalue : |value| ≤ 2 ^ exponent) (hexponent : exponent + 1 < 128) :
    binary32Round value = .fin (binary32Nearest value) := by
  rw [binary32Round_eq, if_pos]
  exact (abs_binary32Nearest_le_pow hvalue).trans_lt
    (pow_lt_pow_right₀ (by norm_num) hexponent)

/-! The operations on values that are not too large. -/

theorem abs_mul_le_pow {left right : ℚ} {first second : Nat}
    (hleft : |left| ≤ 2 ^ first) (hright : |right| ≤ 2 ^ second) :
    |left * right| ≤ 2 ^ (first + second) := by
  rw [abs_mul, pow_add]
  exact mul_le_mul hleft hright (abs_nonneg _) (by positivity)

theorem binary32_ofInt {value : Int} {exponent : Nat}
    (hvalue : |(value : ℚ)| ≤ 2 ^ exponent) (hexponent : exponent + 1 < 128) :
    binary32.ofInt value = .fin (binary32Nearest value) :=
  binary32Round_fin hvalue hexponent

theorem binary32_mul {left right : ℚ} {exponent : Nat}
    (hproduct : |left * right| ≤ 2 ^ exponent) (hexponent : exponent + 1 < 128) :
    binary32.mul (.fin left) (.fin right) = .fin (binary32Nearest (left * right)) :=
  binary32Round_fin hproduct hexponent

theorem binary32_div {left right : ℚ} {exponent : Nat} (hright : right ≠ 0)
    (hquotient : |left / right| ≤ 2 ^ exponent) (hexponent : exponent + 1 < 128) :
    binary32.div (.fin left) (.fin right) =
      .fin (binary32Nearest (left / right)) := by
  rw [Rounding.div, if_neg hright]
  exact binary32Round_fin hquotient hexponent

end SenseBox.Data
