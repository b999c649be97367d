import SenseBox.Data.Flt

namespace SenseBox.Device

open SenseBox.Data

/-! The pressure sensor: calibration words, one measurement, and the library's
compensation formulas in the format of `double`. -/

structure BMP280 where
  digT1 : UInt16
  digT2 : Int16
  digT3 : Int16
  digP1 : UInt16
  digP2 : Int16
  digP3 : Int16
  digP4 : Int16
  digP5 : Int16
  digP6 : Int16
  digP7 : Int16
  digP8 : Int16
  digP9 : Int16
  oversampling : Int16
  tFine : Int32

namespace BMP280

def initial : BMP280 where
  digT1 := 0
  digT2 := 0
  digT3 := 0
  digP1 := 0
  digP2 := 0
  digP3 := 0
  digP4 := 0
  digP5 := 0
  digP6 := 0
  digP7 := 0
  digP8 := 0
  digP9 := 0
  oversampling := 0
  tFine := 0

def registers : List (UInt16 → BMP280 → BMP280) :=
  [fun word bmp => { bmp with digT1 := word },
    fun word bmp => { bmp with digT2 := word.toInt16 },
    fun word bmp => { bmp with digT3 := word.toInt16 },
    fun word bmp => { bmp with digP1 := word },
    fun word bmp => { bmp with digP2 := word.toInt16 },
    fun word bmp => { bmp with digP3 := word.toInt16 },
    fun word bmp => { bmp with digP4 := word.toInt16 },
    fun word bmp => { bmp with digP5 := word.toInt16 },
    fun word bmp => { bmp with digP6 := word.toInt16 },
    fun word bmp => { bmp with digP7 := word.toInt16 },
    fun word bmp => { bmp with digP8 := word.toInt16 },
    fun word bmp => { bmp with digP9 := word.toInt16 }]

/-- A word that cannot be read is stored as zero, and none is read after it. -/
def readWords (words : Nat → Option UInt16) :
    List (UInt16 → BMP280 → BMP280) → BMP280 → Bool × BMP280
  | [], bmp => (true, bmp)
  | store :: rest, bmp =>
      match words 0 with
      | none => (false, store 0 bmp)
      | some word => readWords (fun i => words (i + 1)) rest (store word bmp)

def start (words : Nat → Option UInt16) (bmp : BMP280) : Bool × BMP280 :=
  readWords words registers bmp

def setOversampling (oss : Int16) (bmp : BMP280) : BMP280 :=
  { bmp with oversampling := oss }

/-- The delay in milliseconds, or `0` when the command could not be written. -/
def startMeasurment (written : Bool) (bmp : BMP280) : UInt8 :=
  let delay :=
    if bmp.oversampling = 0 then 8
    else if bmp.oversampling = 1 then 10
    else if bmp.oversampling = 2 then 15
    else if bmp.oversampling = 3 then 24
    else if bmp.oversampling = 4 then 45
    else 9
  if written then delay else 0

theorem startMeasurment_eq_zero (bmp : BMP280) (written : Bool) :
    bmp.startMeasurment written = 0 ↔ written = false := by
  cases written with
  | false => simp [startMeasurment]
  | true =>
      simp only [startMeasurment, if_true, Bool.true_eq_false, iff_false]
      intro hzero
      repeat' split at hzero
      all_goals exact absurd hzero (by decide)

variable (fmt : Rounding)

def uncalibrated (first second third : UInt8) : Flt :=
  fmt.mul
    (fmt.add
      (fmt.add (fmt.mul (fmt.ofInt first.toNat) (.fin 256))
        (fmt.ofInt second.toNat))
      (fmt.div (fmt.ofInt third.toNat) (.fin 256)))
    (.fin 16)

def getUnPT (data : Option (Vector UInt8 6)) : Option (Flt × Flt) :=
  data.map fun bytes =>
    (uncalibrated fmt bytes[0] bytes[1] bytes[2],
      uncalibrated fmt bytes[3] bytes[4] bytes[5])

def calcTemperature (uT : Flt) (bmp : BMP280) : Bool × Flt × BMP280 :=
  let var1 := fmt.mul
    (fmt.sub (fmt.div uT (.fin 16384))
      (fmt.div (fmt.ofInt bmp.digT1.toNat) (.fin 1024)))
    (fmt.ofInt bmp.digT2.toInt)
  let difference := fmt.sub (fmt.div uT (.fin 131072))
    (fmt.div (fmt.ofInt bmp.digT1.toNat) (.fin 8192))
  let var2 := fmt.mul (fmt.mul difference difference)
    (fmt.ofInt bmp.digT3.toInt)
  let sum := fmt.add var1 var2
  let t := fmt.div sum (.fin 5120)
  (!(Flt.lt (.fin 100) t || Flt.lt t (.fin (-100))), t,
    { bmp with tFine := sum.toInt32 })

def compensated (uP : Flt) (bmp : BMP280) : Flt :=
  let var1 := fmt.sub (fmt.div (fmt.ofInt bmp.tFine.toInt) (.fin 2))
    (.fin 64000)
  let var2 := fmt.mul var1
    (fmt.div (fmt.mul var1 (fmt.ofInt bmp.digP6.toInt)) (.fin 32768))
  let var2 := fmt.add var2
    (fmt.mul (fmt.mul var1 (fmt.ofInt bmp.digP5.toInt)) (.fin 2))
  let var2 := fmt.add (fmt.div var2 (.fin 4))
    (fmt.mul (fmt.ofInt bmp.digP4.toInt) (.fin 65536))
  let var1 := fmt.div
    (fmt.add
      (fmt.div (fmt.mul (fmt.mul (fmt.ofInt bmp.digP3.toInt) var1) var1)
        (.fin 524288))
      (fmt.mul (fmt.ofInt bmp.digP2.toInt) var1))
    (.fin 524288)
  let var1 := fmt.mul (fmt.div (fmt.add (.fin 32768) var1) (.fin 32768))
    (fmt.ofInt bmp.digP1.toNat)
  let p := fmt.sub (.fin 1048576) uP
  let p := fmt.div (fmt.mul (fmt.sub p (fmt.div var2 (.fin 4096))) (.fin 6250))
    var1
  let var1 := fmt.div (fmt.mul (fmt.mul (fmt.ofInt bmp.digP9.toInt) p) p)
    (.fin 2147483648)
  let var2 := fmt.div (fmt.mul p (fmt.ofInt bmp.digP8.toInt)) (.fin 32768)
  let p := fmt.add p
    (fmt.div (fmt.add (fmt.add var1 var2) (fmt.ofInt bmp.digP7.toInt)) (.fin 16))
  fmt.div p (.fin 100)

/-- The comparisons that reject a pressure; they let one that is not a number
pass. -/
def outOfRange (p : Flt) : Bool := Flt.lt (.fin 1200) p || Flt.lt p (.fin 800)

def calcPressure (uP : Flt) (bmp : BMP280) : Bool × Flt :=
  let p := compensated fmt uP bmp
  (!outOfRange p, p)

/-- The result, and the two reference arguments and the object after it. -/
structure Measurement where
  result : Bool
  t : Flt
  p : Flt
  bmp : BMP280

def getTemperatureAndPressure (data : Option (Vector UInt8 6)) (t p : Flt)
    (bmp : BMP280) : Measurement :=
  match getUnPT fmt data with
  | none => ⟨false, t, p, bmp⟩
  | some (uP, uT) =>
      match calcTemperature fmt uT bmp with
      | (false, t, bmp) => ⟨false, t, p, bmp⟩
      | (true, t, bmp) =>
          match calcPressure fmt uP bmp with
          | (true, p) => ⟨true, t, p, bmp⟩
          | (false, p) => ⟨false, t, p, bmp⟩

def reachesPressure (data : Option (Vector UInt8 6)) (bmp : BMP280) : Bool :=
  match getUnPT fmt data with
  | none => false
  | some (_, uT) => (calcTemperature fmt uT bmp).1

theorem not_nan_of_outOfRange {p : Flt} (hrange : outOfRange p = true) :
    p.isNan = false := by
  cases p with
  | nan => cases hrange
  | inf negative => rfl
  | fin value => rfl

/-- A measurement that does not get as far as the pressure leaves it alone. -/
theorem pressure_untouched {data : Option (Vector UInt8 6)} {bmp : BMP280}
    (hreaches : reachesPressure fmt data bmp = false) (t p : Flt) :
    (getTemperatureAndPressure fmt data t p bmp).result = false ∧
      (getTemperatureAndPressure fmt data t p bmp).p = p := by
  unfold reachesPressure at hreaches
  unfold getTemperatureAndPressure
  cases hbytes : getUnPT fmt data with
  | none => exact ⟨rfl, rfl⟩
  | some values =>
      obtain ⟨uP, uT⟩ := values
      obtain ⟨passed, degrees, after, htemperature⟩ : ∃ passed degrees after,
          calcTemperature fmt uT bmp = (passed, degrees, after) :=
        ⟨_, _, _, rfl⟩
      simp only [hbytes, htemperature] at hreaches
      subst hreaches
      simp only [htemperature, and_self]

theorem stored_not_nan {data : Option (Vector UInt8 6)} {bmp : BMP280}
    (hreaches : reachesPressure fmt data bmp = true) {t p : Flt}
    (hfailed : (getTemperatureAndPressure fmt data t p bmp).result = false) :
    (getTemperatureAndPressure fmt data t p bmp).p.isNan = false := by
  unfold reachesPressure at hreaches
  unfold getTemperatureAndPressure at hfailed ⊢
  cases hbytes : getUnPT fmt data with
  | none =>
      rw [hbytes] at hreaches
      cases hreaches
  | some values =>
      obtain ⟨uP, uT⟩ := values
      obtain ⟨passed, degrees, after, htemperature⟩ : ∃ passed degrees after,
          calcTemperature fmt uT bmp = (passed, degrees, after) :=
        ⟨_, _, _, rfl⟩
      simp only [hbytes, htemperature] at hreaches hfailed ⊢
      subst hreaches
      have hpressure : calcPressure fmt uP after =
          (!outOfRange (compensated fmt uP after), compensated fmt uP after) := rfl
      cases hrange : outOfRange (compensated fmt uP after) with
      | false => simp [hpressure, hrange] at hfailed
      | true =>
          simp only [hpressure, hrange, Bool.not_true]
          exact not_nan_of_outOfRange hrange

end BMP280

end SenseBox.Device
