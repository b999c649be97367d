import SenseBox.SenseboxCodeElevator.Model
import SenseBox.Device.Compensation
import SenseBox.Device.Dtostrf

namespace SenseBox.SenseboxCodeElevator

open SenseBox.Data
open SenseBox.Device

/-! The values of the posts as texts, without rounding before `dtostrf`. -/

variable (core : Dtostrf)

def obs (measurement : Flt) : Text := core.chars measurement 5 1

def jsonValue (measurement : Flt) : Text :=
  text "\x7b\"value\":" ++ obs core measurement ++ text "\x7d"

/-- The text fits into `obs[10]` with its terminator, and the body is an object
with a number. -/
def WellFormed (measurement : Flt) : Prop :=
  (obs core measurement).length ≤ 9 ∧
    Json.IsNumberObject (text "value") (jsonValue core measurement)

theorem isNumberObject_finite (value : ℚ) :
    Json.IsNumberObject (text "value") (jsonValue core (.fin value)) := by
  have hnumber := Dtostrf.isNumber_fixed_one (core.negative value 1)
    (core.scaled value 1).natAbs
  have hspaces := Json.isSpaces_replicate
    (5 - (fixed (core.negative value 1) (core.scaled value 1).natAbs 1).length)
  have hbody := @Json.IsNumberObject.mk (text "value") _ _ _ _ _ .nil .nil
    hspaces .nil hnumber
  have hhead : text "\x7b\"value\":" =
      0x7B :: 0x22 :: (text "value" ++ [0x22, 0x3A]) := by
    decide
  have htail : text "\x7d" = [0x7D] := by decide
  rw [jsonValue, obs, Dtostrf.chars, padLeft, hhead, htail]
  simpa using hbody

/-- `NAN` and `INF` are no numbers. -/
theorem not_isNumberObject {measurement : Flt}
    (hfinite : measurement.isFinite = false) :
    ¬ Json.IsNumberObject (text "value") (jsonValue core measurement) := by
  intro hbody
  have hletter : (0x4E : UInt8) ∈ jsonValue core measurement := by
    cases measurement with
    | nan =>
        show _ ∈ text "\x7b\"value\":" ++ padLeft 5 (text "NAN") ++ text "\x7d"
        decide
    | inf negative =>
        cases negative with
        | false =>
            show _ ∈ text "\x7b\"value\":" ++ padLeft 5 (text "INF") ++ text "\x7d"
            decide
        | true =>
            show _ ∈ text "\x7b\"value\":" ++ padLeft 5 (text "-INF") ++ text "\x7d"
            decide
    | fin value => cases hfinite
  have hchar := hbody.mem hletter
  unfold Json.IsSpace Json.IsNumberChar Decimal.IsDigit at hchar
  revert hchar
  decide

theorem wellFormed_iff (measurement : Flt) :
    WellFormed core measurement ↔ core.Fits measurement := by
  cases measurement with
  | nan => exact iff_of_false (fun h => not_isNumberObject core rfl h.2) id
  | inf negative => exact iff_of_false (fun h => not_isNumberObject core rfl h.2) id
  | fin value =>
      rw [WellFormed, obs, core.length_chars_le]
      exact and_iff_left (isNumberObject_finite core value)

/-! What the loop posts. -/

def measurements (pass : Pass) (s : State) : List Flt :=
  let s := sampled .exact pass s
  [Rounding.exact.ofInt s.nbPeople.toInt, s.temp, s.pressure]

theorem measurement_of_mem {connected : SensorId → Bool} {measurement : Flt}
    {sensorId : SensorId} {post : Post}
    (hpost : post ∈ postFloatValue connected measurement sensorId) :
    post.measurement = measurement := by
  unfold postFloatValue at hpost
  split at hpost
  · rw [List.mem_singleton.mp hpost]
  · cases hpost

/-- Every post sends one of them. -/
theorem measurement_of_post {pass : Pass} {s : State} {post : Post}
    (hpost : post ∈ posts .exact pass s) :
    post.measurement ∈ measurements pass s := by
  simp only [posts, List.mem_append] at hpost
  rcases hpost with (hpost | hpost) | hpost <;>
    simp [measurement_of_mem hpost, measurements]

theorem counting_keeps (fmt : Rounding) (pulses : Nat → Pulse) (s : State) :
    (counting fmt pulses s).temp = s.temp ∧
      (counting fmt pulses s).pressure = s.pressure ∧
      (counting fmt pulses s).bmp = s.bmp := by
  fun_induction counting fmt pulses s with
  | case1 pulses s hagain ih => exact ih
  | case2 pulses s hdone => exact ⟨rfl, rfl, rfl⟩

/-! The calibration words stay what they are. -/

def calibrated (bmp : BMP280) : BMP280 :=
  { bmp with oversampling := 0, tFine := 0 }

/-- The data lead to a pressure that fits, if they lead to a pressure at all. -/
def PressureFits (bmp : BMP280) : Option (Vector UInt8 6) → Prop
  | none => True
  | some bytes =>
      let uP := BMP280.rawPressure bytes
      let uT := BMP280.rawTemperature bytes
      |bmp.temperature uT| ≤ 100 →
        (bmp.warmed uT).divisor ≠ 0 ∧
          -9999999 ≤ core.scaled ((bmp.warmed uT).pressure uP) 1 ∧
          core.scaled ((bmp.warmed uT).pressure uP) 1 ≤ 99999999

/-- What a measurement leaves in its arguments. -/
theorem measurement_eq (bytes : Vector UInt8 6) (t p : Flt) (bmp : BMP280) :
    let uT := BMP280.rawTemperature bytes
    let measured := BMP280.getTemperatureAndPressure .exact (some bytes) t p bmp
    measured.t = .fin (bmp.temperature uT) ∧
      measured.p = (if |bmp.temperature uT| ≤ 100
        then BMP280.compensated .exact (.fin (BMP280.rawPressure bytes))
          (bmp.warmed uT) else p) ∧
      calibrated measured.bmp = calibrated bmp := by
  have hraw := BMP280.getUnPT_exact bytes
  dsimp only
  generalize BMP280.rawPressure bytes = uP at hraw ⊢
  generalize BMP280.rawTemperature bytes = uT at hraw ⊢
  by_cases haccepted : |bmp.temperature uT| ≤ 100
  · have htemperature : BMP280.calcTemperature .exact (.fin uT) bmp =
        (true, .fin (bmp.temperature uT), bmp.warmed uT) := by
      rw [BMP280.calcTemperature_exact, decide_eq_true haccepted]
    cases hrange : BMP280.outOfRange
        (BMP280.compensated .exact (.fin uP) (bmp.warmed uT)) <;>
      simp only [BMP280.getTemperatureAndPressure, hraw, htemperature,
        BMP280.calcPressure, hrange, Bool.not_true, Bool.not_false,
        if_pos haccepted, true_and] <;>
      rfl
  · have htemperature : BMP280.calcTemperature .exact (.fin uT) bmp =
        (false, .fin (bmp.temperature uT), bmp.warmed uT) := by
      rw [BMP280.calcTemperature_exact, decide_eq_false haccepted]
    simp only [BMP280.getTemperatureAndPressure, hraw, htemperature,
      if_neg haccepted, true_and]
    rfl

/-- The posted pressure fits exactly when the data lead to one that does. -/
theorem fits_measured (bytes : Vector UInt8 6) (t : Flt) {p : Flt}
    (hp : core.Fits p) (bmp : BMP280) :
    core.Fits (BMP280.getTemperatureAndPressure .exact (some bytes) t p bmp).p ↔
      PressureFits core bmp (some bytes) := by
  obtain ⟨-, hpressure, -⟩ := measurement_eq bytes t p bmp
  rw [hpressure, PressureFits]
  generalize BMP280.rawPressure bytes = uP
  generalize bmp.warmed (BMP280.rawTemperature bytes) = warmed
  split
  · next haccepted =>
    rw [forall_prop_of_true haccepted]
    by_cases hdivisor : warmed.divisor = 0
    · have hfinite := BMP280.compensated_not_finite uP hdivisor
      refine iff_of_false ?_ fun hfits => hfits.1 hdivisor
      cases hcompensated : BMP280.compensated .exact (.fin uP) warmed with
      | nan => exact id
      | inf negative => exact id
      | fin value =>
          rw [hcompensated] at hfinite
          cases hfinite
    · rw [BMP280.compensated_exact _ hdivisor]
      exact ⟨fun hfits => ⟨hdivisor, hfits⟩, fun hfits => hfits.2⟩
  · next hrejected => exact iff_of_true hp fun haccepted => absurd haccepted hrejected

theorem fits_temperature (bytes : Vector UInt8 6) (t p : Flt) (bmp : BMP280) :
    core.Fits
      (BMP280.getTemperatureAndPressure .exact (some bytes) t p bmp).t := by
  obtain ⟨htemperature, -, -⟩ := measurement_eq bytes t p bmp
  rw [htemperature]
  obtain ⟨hlow, hhigh⟩ := BMP280.rawValue_bounds (bytes.get 3) (bytes.get 4)
    (bytes.get 5)
  have hbound := BMP280.abs_temperature_le hlow hhigh bmp
  exact core.fits_of_abs_le (hbound.trans (by norm_num))

theorem fits_nbPeople (nbPeople : Int16) :
    core.Fits (Rounding.exact.ofInt nbPeople.toInt) :=
  core.fits_of_abs_le ((abs_toInt_le nbPeople).trans (by norm_num))

/-! Whole runs. -/

/-- What a pass meets: the words of the start-up, and values that fit. -/
structure Settled (start : BMP280) (s : State) : Prop where
  words : calibrated s.bmp = calibrated start
  temp : core.Fits s.temp
  pressure : core.Fits s.pressure

theorem pressureFits_calibrated {first second : BMP280}
    (hwords : calibrated first = calibrated second) (data : Option (Vector UInt8 6)) :
    PressureFits core first data ↔ PressureFits core second data := by
  have hsame : ∀ bmp, PressureFits core (calibrated bmp) data ↔
      PressureFits core bmp data := by
    intro bmp
    cases data <;> exact Iff.rfl
  rw [← hsame first, hwords, hsame]

theorem Settled.sampled {start : BMP280} {s : State}
    (hsettled : Settled core start s) (pass : Pass) :
    calibrated (sampled .exact pass s).bmp = calibrated start ∧
      core.Fits (sampled .exact pass s).temp ∧
      (core.Fits (sampled .exact pass s).pressure ↔
        PressureFits core start pass.data) := by
  obtain ⟨htemp, hpressure, hbmp⟩ := counting_keeps .exact pass.pulses s
  cases hdata : pass.data with
  | none =>
      simp only [SenseboxCodeElevator.sampled, measure, hdata,
        BMP280.getTemperatureAndPressure, BMP280.getUnPT, Option.map_none,
        htemp, hpressure, hbmp]
      exact ⟨hsettled.words, hsettled.temp,
        iff_of_true hsettled.pressure trivial⟩
  | some bytes =>
      simp only [SenseboxCodeElevator.sampled, measure, hdata, htemp, hpressure,
        hbmp]
      obtain ⟨-, -, hwords⟩ := measurement_eq bytes s.temp s.pressure s.bmp
      exact ⟨hwords.trans hsettled.words, fits_temperature core bytes _ _ _,
        (fits_measured core bytes _ hsettled.pressure _).trans
          (pressureFits_calibrated core hsettled.words _)⟩

theorem settled_begun (words : Nat → Option UInt16) (wall : Pulse) :
    Settled core (BMP280.initial.start words).2 (begun .exact words wall) := by
  have hzero : core.Fits (.fin 0) := core.fits_of_abs_le (by norm_num)
  exact ⟨rfl, hzero, hzero⟩

theorem Settled.wellFormed_iff {start : BMP280} {s : State}
    (hsettled : Settled core start s) (pass : Pass) :
    (∀ measurement ∈ measurements pass s, WellFormed core measurement) ↔
      PressureFits core start pass.data := by
  obtain ⟨-, htemp, hpressure⟩ := hsettled.sampled core pass
  simp only [measurements, List.forall_mem_cons, SenseboxCodeElevator.wellFormed_iff,
    List.not_mem_nil, false_imp_iff, implies_true, and_true, fits_nbPeople, htemp,
    true_and, hpressure]

theorem Settled.next {start : BMP280} {s next : State}
    (hsettled : Settled core start s) {pass : Pass}
    (hfits : PressureFits core start pass.data)
    (hloop : loop .exact pass s = some next) : Settled core start next := by
  obtain ⟨hwords, htemp, hpressure⟩ := hsettled.sampled core pass
  cases hloop
  exact ⟨hwords, htemp, hpressure.mpr hfits⟩

theorem Settled.along_iff {start : BMP280} {s : State} {passes : List Pass}
    (hsettled : Settled core start s) :
    Along (loop .exact)
        (fun pass s =>
          ∀ measurement ∈ measurements pass s, WellFormed core measurement)
        passes s ↔
      ∀ pass ∈ passes, PressureFits core start pass.data := by
  induction passes generalizing s with
  | nil => simp [Along]
  | cons pass rest ih =>
      rw [Along, hsettled.wellFormed_iff core, List.forall_mem_cons]
      apply and_congr_right
      intro hfits
      constructor
      · intro halong
        exact (ih (hsettled.next core hfits rfl)).mp (halong _ rfl)
      · intro hrest next hnext
        exact (ih (hsettled.next core hfits hnext)).mpr hrest

/-- All that the loop of the elevator posts is well formed exactly when the
pressures that the data lead to fit. -/
theorem posts_wellFormed_iff (words : Nat → Option UInt16) (wall : Pulse)
    (passes : List Pass) :
    (∀ pass s, ∀ post ∈ posts .exact pass s,
      post.measurement ∈ measurements pass s) ∧
    ((∀ front pass back s, passes = front ++ pass :: back →
      run (loop .exact) front (begun .exact words wall) = some s →
      ∀ measurement ∈ measurements pass s, WellFormed core measurement) ↔
    ∀ pass ∈ passes,
      PressureFits core (BMP280.initial.start words).2 pass.data) := by
  refine ⟨fun pass s post => measurement_of_post, ?_⟩
  rw [← (settled_begun core words wall).along_iff core, along_iff]

theorem sampled_pressure (pass : Pass) (s : State) :
    (sampled .exact pass s).pressure = (BMP280.getTemperatureAndPressure .exact
      pass.data s.temp s.pressure s.bmp).p := by
  obtain ⟨htemp, hpressure, hbmp⟩ := counting_keeps .exact pass.pulses s
  simp only [sampled, measure, htemp, hpressure, hbmp]

def coldPass : Pass where
  pulses := fun _ => none
  data := some (Vector.replicate 6 0)
  connected := fun _ => true

/-- Words of zeros but for `dig_P1`, which is one. -/
def unitWords (i : Nat) : Option UInt16 := some (if i = 3 then 1 else 0)

/-- After a failed start-up the pressure is not a number, and with other words it
has ten characters. -/
theorem pressure_malformed :
    (∃ measurement ∈ measurements coldPass (begun .exact (fun _ => none) none),
      jsonValue .halfUp measurement = text "\x7b\"value\":  NAN\x7d" ∧
        ¬ WellFormed .halfUp measurement) ∧
    ∃ measurement ∈ measurements coldPass (begun .exact unitWords none),
      obs .halfUp measurement = text "65536000.0" ∧
        ¬ WellFormed .halfUp measurement := by
  have hnan : (sampled .exact coldPass
      (begun .exact (fun _ => none) none)).pressure = .nan := by
    rw [sampled_pressure]
    decide +kernel
  have hlarge : (sampled .exact coldPass
      (begun .exact unitWords none)).pressure = .fin 65536000 := by
    rw [sampled_pressure]
    decide +kernel
  constructor
  · refine ⟨.nan, ?_, by decide, ?_⟩
    · rw [← hnan]
      simp [measurements]
    · rw [wellFormed_iff]
      exact id
  · refine ⟨.fin 65536000, ?_, by decide +kernel, ?_⟩
    · rw [← hlarge]
      simp [measurements]
    · rw [wellFormed_iff]
      intro hfits
      exact absurd hfits.2 (by decide +kernel)

end SenseBox.SenseboxCodeElevator
