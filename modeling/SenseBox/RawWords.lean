import SenseBox.Data.Binary32
import SenseBox.SenseBoxIno.Model

namespace SenseBox

open SenseBox.Data

/-! Light and UV words of sixteen bits, from the bytes on the wire to what is
reported, with the 16-bit `int` and the `float` of the AVR boards. -/

/-- `(msb << 8) | lsb`, computed as an `int`, in a `uint16_t`. -/
def joined (msb lsb : UInt8) : UInt16 :=
  (msb.toUInt16.toInt16 <<< 8 ||| lsb.toUInt16.toInt16).toUInt16

/-- `Wire.read()`, which is -1 when there is no byte. -/
def wireRead (byte : Option UInt8) : Int16 :=
  match byte with
  | some byte => byte.toUInt16.toInt16
  | none => -1

/-! The functions of `sensors.c`. -/

namespace Sensors

def refVal : Flt := binary32.round (2 / 5)

def getUVI (uv : Int16) : Flt :=
  binary32.div
    (binary32.mul refVal (binary32.mul (binary32.ofInt uv.toInt) (.fin (45 / 8))))
    (.fin 1000)

/-- The word and the index that are printed; a byte is read only if it is
available. -/
def UVSensor (msb lsb : Option UInt8) : UInt16 × Flt :=
  let uv := joined (msb.getD 0) (lsb.getD 0)
  (uv, getUVI uv.toInt16)

/-- The word that is printed, and `lux`. -/
def LightSensor (first second : Option UInt8) : UInt16 × UInt32 :=
  let low := (wireRead first).toUInt16
  let high := (wireRead second).toUInt16
  -- `||`, not `|`
  let lux : UInt32 := if high <<< 8 ≠ 0 ∨ low <<< 0 ≠ 0 then 1 else 0
  (low, lux * 1)

end Sensors

namespace UVSensor

def getUVI (uv : Int16) : Flt := Sensors.getUVI uv

def loop (msb lsb : Option UInt8) : UInt16 × Flt :=
  let uv := joined (msb.getD 0) (lsb.getD 0)
  (uv, getUVI uv.toInt16)

end UVSensor

namespace LightSensor

/-- The two bytes and `lux`, which are all printed. -/
def loop (first second : Option UInt8) : UInt16 × UInt16 × UInt32 :=
  let low := (wireRead first).toUInt16
  let high := (wireRead second).toUInt16
  let lux := (high <<< 8 ||| low <<< 0).toUInt32
  (low, high, lux * 1)

end LightSensor

/-! The bytes of a word. -/

def highByte (word : UInt16) : UInt8 := (word >>> 8).toUInt8

def lowByte (word : UInt16) : UInt8 := word.toUInt8

theorem toNat_highByte (word : UInt16) :
    (highByte word).toNat = word.toNat / 256 := by
  have hword := word.toNat_lt
  rw [highByte, UInt16.toNat_toUInt8, UInt16.toNat_shiftRight]
  simp only [UInt16.reduceToNat, Nat.reduceMod, Nat.shiftRight_eq_div_pow]
  omega

theorem toNat_lowByte (word : UInt16) :
    (lowByte word).toNat = word.toNat % 256 := UInt16.toNat_toUInt8 word

theorem toNat_bytes (word : UInt16) :
    256 * (highByte word).toNat + (lowByte word).toNat = word.toNat := by
  rw [toNat_highByte, toNat_lowByte]
  omega

/-- The sign bit of the `int` is an ordinary bit of the word. -/
theorem toNat_shift_or (msb lsb : UInt8) :
    (msb.toUInt16 <<< 8 ||| lsb.toUInt16).toNat =
      256 * msb.toNat + lsb.toNat := by
  have hmsb := msb.toNat_lt
  have hlsb := lsb.toNat_lt
  rw [UInt16.toNat_or, UInt16.toNat_shiftLeft]
  simp only [UInt8.toNat_toUInt16, UInt16.reduceToNat, Nat.reduceMod]
  rw [Nat.mod_eq_of_lt (by rw [Nat.shiftLeft_eq]; omega),
    ← Nat.shiftLeft_add_eq_or_of_lt (by omega), Nat.shiftLeft_eq]
  omega

theorem shift_or_bytes (word : UInt16) :
    (highByte word).toUInt16 <<< 8 ||| (lowByte word).toUInt16 = word := by
  apply UInt16.toNat_inj.mp
  rw [toNat_shift_or, toNat_bytes]

theorem joined_bytes (word : UInt16) :
    joined (highByte word) (lowByte word) = word := shift_or_bytes word

/-! What the boards report for a word. -/

def uvValue (word : UInt16) : UInt16 :=
  SenseBoxIno.getUV (some (highByte word)) (some (lowByte word))

def uvIndex (word : UInt16) : Flt :=
  (Sensors.UVSensor (some (highByte word)) (some (lowByte word))).2

/-- The index that `UV_sensor.ino` prints. -/
def sketchIndex (word : UInt16) : Flt :=
  (UVSensor.loop (some (highByte word)) (some (lowByte word))).2

def lightPrinted (word : UInt16) : Nat :=
  (Sensors.LightSensor (some (lowByte word)) (some (highByte word))).1.toNat

def lightLux (word : UInt16) : Nat :=
  (Sensors.LightSensor (some (lowByte word)) (some (highByte word))).2.toNat

/-- What `light_sensor.ino` prints as `lux`. -/
def sketchLux (word : UInt16) : Nat :=
  (LightSensor.loop (some (lowByte word)) (some (highByte word))).2.2.toNat

theorem toNat_uvValue (word : UInt16) :
    (uvValue word).toNat = 5 * word.toNat % 65536 := by
  rw [uvValue, SenseBoxIno.getUV]
  simp only [Option.getD_some, shift_or_bytes, UInt16.toNat_mul]
  rw [Nat.mul_comm]
  rfl

theorem uvIndex_eq (word : UInt16) :
    uvIndex word = Sensors.getUVI word.toInt16 := by
  simp only [uvIndex, Sensors.UVSensor, Option.getD_some, joined_bytes]

theorem sketchIndex_eq : sketchIndex = uvIndex := rfl

theorem lightPrinted_eq (word : UInt16) :
    lightPrinted word = word.toNat % 256 := by
  rw [← toNat_lowByte]
  exact UInt8.toNat_toUInt16 (lowByte word)

theorem lightLux_eq (word : UInt16) :
    lightLux word = if word.toNat = 0 then 0 else 1 := by
  have hbytes := shift_or_bytes word
  have hlux : lightLux word = (if (highByte word).toUInt16 <<< 8 ≠ 0 ∨
      (lowByte word).toUInt16 <<< 0 ≠ 0 then 1 else 0 : UInt32).toNat := by
    rw [← UInt32.mul_one (ite _ _ _)]
    rfl
  rw [hlux, UInt16.shiftLeft_zero]
  by_cases hword : word = 0
  · subst hword
    decide
  · have hset : (highByte word).toUInt16 <<< 8 ≠ 0 ∨
        (lowByte word).toUInt16 ≠ 0 := by
      by_contra hnone
      rw [not_or, not_not, not_not] at hnone
      rw [hnone.1, hnone.2] at hbytes
      exact hword hbytes.symm
    have hnat : word.toNat ≠ 0 := by
      intro hzero
      exact hword (UInt16.toNat_inj.mp (hzero.trans UInt16.toNat_zero.symm))
    rw [if_pos hset, if_neg hnat]
    rfl

theorem sketchLux_eq (word : UInt16) : sketchLux word = word.toNat := by
  have hlux : sketchLux word = (((highByte word).toUInt16 <<< 8 |||
      (lowByte word).toUInt16 <<< 0).toUInt32 * 1).toNat := rfl
  rw [hlux, UInt32.mul_one, UInt16.toNat_toUInt32, UInt16.shiftLeft_zero,
    shift_or_bytes]

/-! The UV index is monotone in the `int`. -/

def scaledUV (uv : Int) : ℚ :=
  let uv := binary32Nearest (binary32Nearest uv * (45 / 8))
  binary32Nearest (binary32Nearest (binary32Nearest (2 / 5) * uv) / 1000)

theorem scaledUV_mono : Monotone scaledUV := by
  intro left right hle
  have hrefVal : (0 : ℚ) ≤ binary32Nearest (2 / 5) :=
    binary32Nearest_nonneg (by norm_num)
  apply binary32Nearest_mono
  apply div_le_div_of_nonneg_right _ (by norm_num)
  apply binary32Nearest_mono
  apply mul_le_mul_of_nonneg_left _ hrefVal
  apply binary32Nearest_mono
  apply mul_le_mul_of_nonneg_right _ (by norm_num)
  exact binary32Nearest_mono (Int.cast_le.mpr hle)

theorem getUVI_eq (uv : Int16) :
    Sensors.getUVI uv = .fin (scaledUV uv.toInt) := by
  have huv : |(uv.toInt : ℚ)| ≤ 2 ^ 15 :=
    (abs_toInt_le uv).trans (by norm_num)
  have hfifths : |(2 / 5 : ℚ)| ≤ 2 ^ 0 := by
    rw [abs_of_pos (by norm_num)]
    norm_num
  have hfactor : |(45 / 8 : ℚ)| ≤ 2 ^ 3 := by
    rw [abs_of_pos (by norm_num)]
    norm_num
  have hproduct := abs_mul_le_pow (abs_binary32Nearest_le_pow huv) hfactor
  have hscaled := abs_mul_le_pow (abs_binary32Nearest_le_pow hfifths)
    (abs_binary32Nearest_le_pow hproduct)
  have hquotient : |binary32Nearest (binary32Nearest (2 / 5) *
      binary32Nearest (binary32Nearest uv.toInt * (45 / 8))) / 1000| ≤ 2 ^ 22 := by
    rw [abs_div, abs_of_pos (show (0 : ℚ) < 1000 by norm_num)]
    exact (div_le_self (abs_nonneg _) (by norm_num)).trans
      (abs_binary32Nearest_le_pow hscaled)
  have hrefVal : Sensors.refVal = .fin (binary32Nearest (2 / 5)) :=
    binary32Round_fin hfifths (by decide)
  rw [Sensors.getUVI, hrefVal, binary32_ofInt huv (by decide),
    binary32_mul hproduct (by decide), binary32_mul hscaled (by decide),
    binary32_div (by norm_num) hquotient (by decide)]
  rfl

theorem toInt_word (word : UInt16) : word.toInt16.toInt =
    if word.toNat ≤ 32767 then (word.toNat : Int) else word.toNat - 65536 := by
  have hword := word.toNat_lt
  have hbits : word.toInt16.toInt = (word.toNat : Int).bmod (2 ^ 16) :=
    BitVec.toInt_eq_toNat_bmod word.toBitVec
  rw [hbits, Int.bmod_def]
  split <;> split <;> omega

/-! Which pairs of words are reported in order. -/

def UVInOrder (first second : UInt16) : Prop := uvValue first ≤ uvValue second

def UVIInOrder (index : UInt16 → Flt) (first second : UInt16) : Prop :=
  ∃ low high, index first = .fin low ∧ index second = .fin high ∧
    0 ≤ low ∧ low ≤ high

def Reported (report : UInt16 → Nat) (first second : UInt16) : Prop :=
  report first ≤ report second ∧
    report first = 256 * (highByte first).toNat + (lowByte first).toNat ∧
    report second = 256 * (highByte second).toNat + (lowByte second).toNat

def InOrder (first second : UInt16) : Prop :=
  UVInOrder first second ∧ UVIInOrder uvIndex first second ∧
    UVIInOrder sketchIndex first second ∧
    Reported lightPrinted first second ∧ Reported lightLux first second

theorem uvInOrder_iff {first second : UInt16} (hle : first ≤ second) :
    UVInOrder first second ↔
      65536 * (5 * second.toNat / 65536 - 5 * first.toNat / 65536) ≤
        5 * (second.toNat - first.toNat) := by
  have hnat := UInt16.le_iff_toNat_le.mp hle
  rw [UVInOrder, UInt16.le_iff_toNat_le, toNat_uvValue, toNat_uvValue]
  omega

theorem uviInOrder_iff {first second : UInt16} (hle : first ≤ second) :
    UVIInOrder uvIndex first second ↔ second.toNat ≤ 32767 := by
  have hnat := UInt16.le_iff_toNat_le.mp hle
  have hzero : scaledUV 0 = 0 := by decide +kernel
  have hnegative : scaledUV (-1) < 0 := by decide +kernel
  simp only [UVIInOrder, uvIndex_eq, getUVI_eq, Flt.fin.injEq]
  constructor
  · rintro ⟨low, high, rfl, rfl, hlow, hhigh⟩
    by_contra hlarge
    have hint := toInt_word second
    rw [if_neg hlarge] at hint
    have hword := second.toNat_lt
    have hbelow : scaledUV second.toInt16.toInt ≤ scaledUV (-1) :=
      scaledUV_mono (by omega)
    linarith
  · intro hsmall
    have hfirst := toInt_word first
    have hsecond := toInt_word second
    rw [if_pos (by omega)] at hfirst hsecond
    refine ⟨_, _, rfl, rfl, ?_, scaledUV_mono (by omega)⟩
    rw [← hzero]
    exact scaledUV_mono (by omega)

theorem lightPrinted_iff {first second : UInt16} (hle : first ≤ second) :
    Reported lightPrinted first second ↔ second.toNat ≤ 255 := by
  have hnat := UInt16.le_iff_toNat_le.mp hle
  rw [Reported, toNat_bytes, toNat_bytes, lightPrinted_eq, lightPrinted_eq]
  omega

theorem lightLux_iff {first second : UInt16} (hle : first ≤ second) :
    Reported lightLux first second ↔ second.toNat ≤ 1 := by
  have hnat := UInt16.le_iff_toNat_le.mp hle
  rw [Reported, toNat_bytes, toNat_bytes, lightLux_eq, lightLux_eq]
  split <;> split <;> omega

theorem sketchLux_reported {first second : UInt16} (hle : first ≤ second) :
    Reported sketchLux first second := by
  rw [Reported, toNat_bytes, toNat_bytes, sketchLux_eq, sketchLux_eq]
  exact ⟨UInt16.le_iff_toNat_le.mp hle, rfl, rfl⟩

/-- Up to which words each decoder keeps the order; all of them do only up to
one, but for `light_sensor.ino`, which always does. -/
theorem words_inOrder_iff (first second : UInt16) (hle : first ≤ second) :
    (InOrder first second ↔ second.toNat ≤ 1) ∧
      (UVInOrder first second ↔
        65536 * (5 * second.toNat / 65536 - 5 * first.toNat / 65536) ≤
          5 * (second.toNat - first.toNat)) ∧
      (UVIInOrder uvIndex first second ↔ second.toNat ≤ 32767) ∧
      (UVIInOrder sketchIndex first second ↔ second.toNat ≤ 32767) ∧
      (Reported lightPrinted first second ↔ second.toNat ≤ 255) ∧
      (Reported lightLux first second ↔ second.toNat ≤ 1) ∧
      Reported sketchLux first second := by
  have hnat := UInt16.le_iff_toNat_le.mp hle
  refine ⟨?_, uvInOrder_iff hle, uviInOrder_iff hle, uviInOrder_iff hle,
    lightPrinted_iff hle, lightLux_iff hle, sketchLux_reported hle⟩
  rw [InOrder, sketchIndex_eq, uvInOrder_iff hle, uviInOrder_iff hle,
    lightPrinted_iff hle, lightLux_iff hle]
  constructor
  · exact fun hall => hall.2.2.2.2
  · intro hdark
    have hnone : 5 * second.toNat / 65536 = 0 := Nat.div_eq_of_lt (by omega)
    rw [hnone, Nat.zero_sub]
    exact ⟨Nat.zero_le _, by omega, by omega, by omega, hdark⟩

theorem words_inOrder_dark : InOrder 0 1 :=
  (words_inOrder_iff 0 1 (by decide)).1.mpr (by decide)

/-- Where each decoder first goes wrong. -/
theorem words_out_of_order :
    ¬ UVInOrder 13107 13108 ∧ ¬ UVIInOrder uvIndex 32767 32768 ∧
      ¬ Reported lightPrinted 255 256 ∧ ¬ Reported lightLux 1 2 ∧
      ¬ ∀ first second, first ≤ second → InOrder first second := by
  have hlux : ¬ Reported lightLux 1 2 := by
    rw [lightLux_iff (by decide)]
    decide
  refine ⟨?_, ?_, ?_, hlux, ?_⟩
  · rw [uvInOrder_iff (by decide)]
    decide
  · rw [uviInOrder_iff (by decide)]
    decide
  · rw [lightPrinted_iff (by decide)]
    decide
  · intro hall
    exact hlux (hall 1 2 (by decide)).2.2.2.2

end SenseBox
