import SenseBox.Device.BMP280
import Mathlib.Tactic.Ring

namespace SenseBox.Device.BMP280

open SenseBox.Data

/-! The compensation formulas without rounding: what they compute as rational
functions of the calibration words and the data. -/

def rawValue (first second third : UInt8) : ℚ :=
  (first.toNat * 256 + second.toNat + third.toNat / 256) * 16

/-- The value of the pressure in the six bytes. -/
def rawPressure (bytes : Vector UInt8 6) : ℚ :=
  rawValue (bytes.get 0) (bytes.get 1) (bytes.get 2)

def rawTemperature (bytes : Vector UInt8 6) : ℚ :=
  rawValue (bytes.get 3) (bytes.get 4) (bytes.get 5)

/-- The sum of which the temperature is the 5120th part. -/
def fineTemperature (uT : ℚ) (bmp : BMP280) : ℚ :=
  (uT / 16384 - bmp.digT1.toNat / 1024) * bmp.digT2.toInt +
    (uT / 131072 - bmp.digT1.toNat / 8192) *
      (uT / 131072 - bmp.digT1.toNat / 8192) * bmp.digT3.toInt

def temperature (uT : ℚ) (bmp : BMP280) : ℚ := fineTemperature uT bmp / 5120

def warmed (uT : ℚ) (bmp : BMP280) : BMP280 :=
  { bmp with tFine := (Flt.fin (fineTemperature uT bmp)).toInt32 }

def centred (bmp : BMP280) : ℚ := bmp.tFine.toInt / 2 - 64000

/-- What the pressure is divided by. -/
def divisor (bmp : BMP280) : ℚ :=
  (32768 + (bmp.digP3.toInt * bmp.centred * bmp.centred / 524288 +
    bmp.digP2.toInt * bmp.centred) / 524288) / 32768 * bmp.digP1.toNat

def offset (bmp : BMP280) : ℚ :=
  (bmp.centred * (bmp.centred * bmp.digP6.toInt / 32768) +
    bmp.centred * bmp.digP5.toInt * 2) / 4 + bmp.digP4.toInt * 65536

def quotient (uP : ℚ) (bmp : BMP280) : ℚ :=
  (1048576 - uP - bmp.offset / 4096) * 6250 / bmp.divisor

def pressure (uP : ℚ) (bmp : BMP280) : ℚ :=
  let p := bmp.quotient uP
  (p + (bmp.digP9.toInt * p * p / 2147483648 + p * bmp.digP8.toInt / 32768 +
    bmp.digP7.toInt) / 16) / 100

/-! The library computes them, and a pressure that is not finite when it divides
by zero. -/

theorem exact_ofInt (value : Int) : Rounding.exact.ofInt value = .fin value := rfl

theorem exact_add (left right : ℚ) :
    Rounding.exact.add (.fin left) (.fin right) = .fin (left + right) := rfl

theorem exact_sub (left right : ℚ) :
    Rounding.exact.sub (.fin left) (.fin right) = .fin (left - right) := by
  rw [sub_eq_add_neg]
  rfl

theorem exact_mul (left right : ℚ) :
    Rounding.exact.mul (.fin left) (.fin right) = .fin (left * right) := rfl

theorem exact_div (left : ℚ) {right : ℚ} (hright : right ≠ 0) :
    Rounding.exact.div (.fin left) (.fin right) = .fin (left / right) := by
  simp only [Rounding.div, if_neg hright, Rounding.exact]

theorem uncalibrated_exact (first second third : UInt8) :
    uncalibrated .exact first second third =
      .fin (rawValue first second third) := by
  simp only [uncalibrated, exact_ofInt, exact_mul, exact_add,
    exact_div _ (show (256 : ℚ) ≠ 0 by norm_num), rawValue, Int.cast_natCast]

theorem getUnPT_exact (bytes : Vector UInt8 6) :
    getUnPT .exact (some bytes) =
      some (.fin (rawPressure bytes), .fin (rawTemperature bytes)) := by
  rw [getUnPT, Option.map_some, uncalibrated_exact, uncalibrated_exact]
  rfl

theorem calcTemperature_exact (uT : ℚ) (bmp : BMP280) :
    calcTemperature .exact (.fin uT) bmp =
      (decide (|temperature uT bmp| ≤ 100), .fin (temperature uT bmp),
        warmed uT bmp) := by
  have hrange : (!(Flt.lt (.fin 100) (.fin (temperature uT bmp)) ||
      Flt.lt (.fin (temperature uT bmp)) (.fin (-100)))) =
        decide (|temperature uT bmp| ≤ 100) := by
    rw [Bool.eq_iff_iff, decide_eq_true_eq, abs_le]
    simp [Flt.lt, and_comm]
  rw [← hrange]
  simp only [calcTemperature, exact_ofInt, exact_mul, exact_add, exact_sub,
    exact_div _ (show (16384 : ℚ) ≠ 0 by norm_num),
    exact_div _ (show (1024 : ℚ) ≠ 0 by norm_num),
    exact_div _ (show (131072 : ℚ) ≠ 0 by norm_num),
    exact_div _ (show (8192 : ℚ) ≠ 0 by norm_num),
    exact_div _ (show (5120 : ℚ) ≠ 0 by norm_num), Int.cast_natCast, temperature,
    fineTemperature, warmed]

/-- The formula from the division on. -/
def fromQuotient (p : Flt) (bmp : BMP280) : Flt :=
  let fmt := Rounding.exact
  fmt.div
    (fmt.add p
      (fmt.div
        (fmt.add
          (fmt.add
            (fmt.div (fmt.mul (fmt.mul (.fin bmp.digP9.toInt) p) p)
              (.fin 2147483648))
            (fmt.div (fmt.mul p (.fin bmp.digP8.toInt)) (.fin 32768)))
          (.fin bmp.digP7.toInt))
        (.fin 16)))
    (.fin 100)

theorem compensated_eq (uP : ℚ) (bmp : BMP280) :
    compensated .exact (.fin uP) bmp =
      fromQuotient (Rounding.exact.div
        (.fin ((1048576 - uP - bmp.offset / 4096) * 6250)) (.fin bmp.divisor))
        bmp := by
  simp only [compensated, exact_ofInt, exact_mul, exact_add, exact_sub,
    exact_div _ (show (2 : ℚ) ≠ 0 by norm_num),
    exact_div _ (show (4 : ℚ) ≠ 0 by norm_num),
    exact_div _ (show (4096 : ℚ) ≠ 0 by norm_num),
    exact_div _ (show (32768 : ℚ) ≠ 0 by norm_num),
    exact_div _ (show (524288 : ℚ) ≠ 0 by norm_num), Int.cast_natCast,
    fromQuotient, divisor, offset, centred]

theorem compensated_exact (uP : ℚ) {bmp : BMP280} (hdivisor : bmp.divisor ≠ 0) :
    compensated .exact (.fin uP) bmp = .fin (bmp.pressure uP) := by
  rw [compensated_eq, exact_div _ hdivisor]
  simp only [fromQuotient, exact_mul, exact_add,
    exact_div _ (show (16 : ℚ) ≠ 0 by norm_num),
    exact_div _ (show (100 : ℚ) ≠ 0 by norm_num),
    exact_div _ (show (32768 : ℚ) ≠ 0 by norm_num),
    exact_div _ (show (2147483648 : ℚ) ≠ 0 by norm_num), pressure, quotient]

theorem compensated_not_finite (uP : ℚ) {bmp : BMP280}
    (hdivisor : bmp.divisor = 0) :
    (compensated .exact (.fin uP) bmp).isFinite = false := by
  rw [compensated_eq, hdivisor]
  exact Rounding.isFinite_div_fin _
    (Rounding.isFinite_add_left _ (Rounding.isFinite_div_zero _ _) _) _

/-! The temperature is bounded, accepted or not. -/

theorem rawValue_bounds (first second third : UInt8) :
    0 ≤ rawValue first second third ∧ rawValue first second third ≤ 1048576 := by
  have hbyte : ∀ byte : UInt8, (byte.toNat : ℚ) ≤ 255 := by
    intro byte
    exact_mod_cast Nat.le_of_lt_succ byte.toNat_lt
  have hfirst := hbyte first
  have hsecond := hbyte second
  have hthird := hbyte third
  unfold rawValue
  constructor
  · positivity
  · linarith

theorem abs_temperature_le {uT : ℚ} (hlow : 0 ≤ uT) (hhigh : uT ≤ 1048576)
    (bmp : BMP280) : |temperature uT bmp| ≤ 820 := by
  have hT1 : (bmp.digT1.toNat : ℚ) ≤ 65536 := by
    exact_mod_cast bmp.digT1.toNat_lt.le
  have hT1' : (0 : ℚ) ≤ bmp.digT1.toNat := Nat.cast_nonneg _
  have hvar1 : |uT / 16384 - (bmp.digT1.toNat : ℚ) / 1024| ≤ 64 := by
    rw [abs_le]
    constructor <;> linarith
  have hdifference : |uT / 131072 - (bmp.digT1.toNat : ℚ) / 8192| ≤ 8 := by
    rw [abs_le]
    constructor <;> linarith
  have hfine : |fineTemperature uT bmp| ≤ 64 * 32768 + 8 * 8 * 32768 := by
    unfold fineTemperature
    calc
      _ ≤ |(uT / 16384 - (bmp.digT1.toNat : ℚ) / 1024) * bmp.digT2.toInt| +
          |(uT / 131072 - (bmp.digT1.toNat : ℚ) / 8192) *
            (uT / 131072 - (bmp.digT1.toNat : ℚ) / 8192) * bmp.digT3.toInt| :=
        abs_add_le _ _
      _ ≤ 64 * 32768 + 8 * 8 * 32768 := by
        rw [abs_mul, abs_mul, abs_mul]
        gcongr
        · exact abs_toInt_le _
        · exact abs_toInt_le _
  rw [temperature, abs_div, abs_of_pos (show (0 : ℚ) < 5120 by norm_num)]
  linarith

end SenseBox.Device.BMP280
