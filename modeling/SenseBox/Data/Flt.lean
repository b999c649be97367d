import Mathlib.Data.Int.Log
import Mathlib.Data.Rat.Floor
import Mathlib.Algebra.Order.Field.Rat
import Mathlib.Tactic.Linarith
import Mathlib.Tactic.NormNum
import Mathlib.Tactic.Positivity
import Mathlib.Tactic.FieldSimp

namespace SenseBox.Data

/-! Floating-point values as rationals together with the non-finite values.
The sign of a zero is not kept. -/

inductive Flt where
  | nan
  | inf (negative : Bool)
  | fin (value : ℚ)
  deriving DecidableEq

/-- A rounding of exact results into a floating-point format.  `0` is exact
and nothing in `[-1, 1]` overflows. -/
structure Rounding where
  round : ℚ → Flt
  round_zero : round 0 = .fin 0
  round_finite : ∀ value : ℚ, |value| ≤ 1 → ∃ result, round value = .fin result

namespace Flt

def isNan : Flt → Bool
  | nan => true
  | _ => false

def isFinite : Flt → Bool
  | fin _ => true
  | _ => false

def neg : Flt → Flt
  | nan => nan
  | inf negative => inf !negative
  | fin value => fin (-value)

/-- The conversion of a floating-point value to an integer: the fraction is
dropped.  C++ leaves it undefined on the non-finite values, taken as `0`. -/
def trunc : Flt → Int
  | fin value => value.num.tdiv value.den
  | _ => 0

def toInt16 (value : Flt) : Int16 := Int16.ofInt value.trunc

def toInt32 (value : Flt) : Int32 := Int32.ofInt value.trunc

def lt : Flt → Flt → Bool
  | nan, _ => false
  | _, nan => false
  | inf left, inf right => left && !right
  | inf left, fin _ => left
  | fin _, inf right => !right
  | fin left, fin right => left < right

end Flt

namespace Rounding

variable (fmt : Rounding)

def ofInt (value : Int) : Flt := fmt.round value

def add : Flt → Flt → Flt
  | .nan, _ => .nan
  | _, .nan => .nan
  | .inf left, .inf right => if left = right then .inf left else .nan
  | .inf left, .fin _ => .inf left
  | .fin _, .inf right => .inf right
  | .fin left, .fin right => fmt.round (left + right)

def sub (left right : Flt) : Flt := fmt.add left right.neg

def mul : Flt → Flt → Flt
  | .nan, _ => .nan
  | _, .nan => .nan
  | .inf left, .inf right => .inf (left ^^ right)
  | .inf left, .fin right =>
      if right = 0 then .nan else .inf (left ^^ decide (right < 0))
  | .fin left, .inf right =>
      if left = 0 then .nan else .inf (decide (left < 0) ^^ right)
  | .fin left, .fin right => fmt.round (left * right)

def div : Flt → Flt → Flt
  | .nan, _ => .nan
  | _, .nan => .nan
  | .inf _, .inf _ => .nan
  | .inf left, .fin right => .inf (left ^^ decide (right < 0))
  | .fin _, .inf _ => .fin 0
  | .fin left, .fin right =>
      if right = 0 then
        if left = 0 then .nan else .inf (decide (left < 0))
      else fmt.round (left / right)

theorem isFinite_add_left {left : Flt} (hleft : left.isFinite = false)
    (right : Flt) : (fmt.add left right).isFinite = false := by
  cases left with
  | nan => cases right <;> rfl
  | inf negative =>
      cases right with
      | nan => rfl
      | inf other => by_cases hsame : negative = other <;> simp [add, hsame] <;> rfl
      | fin value => rfl
  | fin value => cases hleft

theorem isFinite_div_fin {left : Flt} (hleft : left.isFinite = false)
    (right : ℚ) : (fmt.div left (.fin right)).isFinite = false := by
  cases left with
  | nan => rfl
  | inf negative => rfl
  | fin value => cases hleft

theorem isFinite_div_zero (left : Flt) :
    (fmt.div left (.fin 0)).isFinite = false := by
  cases left with
  | nan => rfl
  | inf negative => rfl
  | fin value => by_cases hzero : value = 0 <;> simp [div, hzero] <;> rfl

theorem ofInt_zero : fmt.ofInt 0 = .fin 0 := by
  simpa [ofInt] using fmt.round_zero

theorem zero_mul_fin (value : ℚ) :
    fmt.mul (.fin 0) (.fin value) = .fin 0 := by
  simpa [mul] using fmt.round_zero

theorem zero_div_fin {value : ℚ} (hvalue : value ≠ 0) :
    fmt.div (.fin 0) (.fin value) = .fin 0 := by
  simpa [div, hvalue] using fmt.round_zero

def exact : Rounding where
  round := .fin
  round_zero := rfl
  round_finite := fun value _ => ⟨value, rfl⟩

end Rounding

/-- The `int` of the boards has sixteen bits. -/
theorem abs_toInt_le (value : Int16) : |(value.toInt : ℚ)| ≤ 32768 := by
  have hle : (value.toInt : ℚ) ≤ (32768 : Int) :=
    Int.cast_le.mpr (by have := value.toInt_lt; omega)
  have hge : ((-32768 : Int) : ℚ) ≤ value.toInt :=
    Int.cast_le.mpr (by have := value.le_toInt; omega)
  push_cast at hle hge
  exact abs_le.mpr ⟨hge, hle⟩

/-! IEEE 754 binary32, the `float` and the `double` of the AVR boards. -/

def nearestEven (value : ℚ) : Int :=
  let below := ⌊value⌋
  let rest := value - below
  if rest < 1 / 2 ∨ (rest = 1 / 2 ∧ below % 2 = 0) then below else below + 1

theorem abs_nearestEven_le (value : ℚ) :
    |(nearestEven value : ℚ)| ≤ |value| + 1 := by
  have hbelow := Int.floor_le value
  have habove := Int.lt_floor_add_one value
  have hlow := neg_abs_le value
  have hhigh := le_abs_self value
  unfold nearestEven
  dsimp only
  split
  · rw [abs_le]
    constructor <;> linarith
  · next hfar =>
    have hhalf : (1 : ℚ) / 2 ≤ value - ⌊value⌋ :=
      not_lt.mp fun hnear => hfar (.inl hnear)
    push_cast
    rw [abs_le]
    constructor <;> linarith

/-- The distance of neighbouring values around `value`: a significand of 24
bits, and the fixed step of the subnormal numbers below `2 ^ -126`. -/
def binary32Ulp (value : ℚ) : ℚ :=
  2 ^ (max (Int.log 2 |value|) (-126) - 23)

def binary32Round (value : ℚ) : Flt :=
  let nearest := nearestEven (value / binary32Ulp value) * binary32Ulp value
  if |nearest| < 2 ^ 128 then .fin nearest else .inf (value < 0)

theorem binary32Ulp_pos (value : ℚ) : 0 < binary32Ulp value := by
  exact zpow_pos (by norm_num) _

theorem binary32Ulp_le_one {value : ℚ} (hvalue : |value| ≤ 1) :
    binary32Ulp value ≤ 1 := by
  have hlog : Int.log 2 |value| ≤ 0 := by
    rcases (abs_nonneg value).eq_or_lt with hzero | hpos
    · simp [← hzero]
    · simpa using @Int.log_mono_right ℚ _ _ _ _ 2 _ _ hpos hvalue
  have hexponent : max (Int.log 2 |value|) (-126) - 23 ≤ 0 := by omega
  exact zpow_le_one_of_nonpos₀ (by norm_num) hexponent

theorem binary32Round_finite (value : ℚ) (hvalue : |value| ≤ 1) :
    ∃ result, binary32Round value = .fin result := by
  have hpos := binary32Ulp_pos value
  have hulp := binary32Ulp_le_one hvalue
  have hsmall :
      |(nearestEven (value / binary32Ulp value) : ℚ) * binary32Ulp value|
        < 2 ^ 128 := by
    calc
      _ = |(nearestEven (value / binary32Ulp value) : ℚ)|
            * binary32Ulp value := by
        rw [abs_mul, abs_of_pos hpos]
      _ ≤ (|value / binary32Ulp value| + 1) * binary32Ulp value :=
        mul_le_mul_of_nonneg_right (abs_nearestEven_le _) hpos.le
      _ = |value| + binary32Ulp value := by
        rw [abs_div, abs_of_pos hpos]
        field_simp
      _ < 2 ^ 128 := by
        norm_num
        linarith
  exact ⟨_, if_pos hsmall⟩

def binary32 : Rounding where
  round := binary32Round
  round_zero := by decide +kernel
  round_finite := binary32Round_finite

end SenseBox.Data
