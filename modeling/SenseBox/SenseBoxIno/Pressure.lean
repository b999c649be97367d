import SenseBox.SenseBoxIno.Passes

namespace SenseBox.SenseBoxIno

open SenseBox.Data
open SenseBox.Device

/-! The pressure that is uploaded, and the measurement of the same pass. -/

theorem mem_rows_pressure (core : FloatText) {t : State}
    (hindex : t.sensorsIndex = 5) (chars : Text) :
    (sensors[2].toList, chars) ∈ rows core t ↔
      t.values[2].isNan = false ∧ chars = core.chars t.values[2] 2 := by
  have hrow : row core t 2 =
      if t.values[2].isNan then none
      else some (sensors[2].toList, core.chars t.values[2] 2) := rfl
  have hids : ∀ i : Fin 5, sensors[i].toList = sensors[2].toList → i = 2 := by
    decide
  rw [rows, hindex, List.mem_filterMap]
  constructor
  · rintro ⟨i, -, hentry⟩
    obtain ⟨value, id, hvalue, hid, hnumber, hpair⟩ := row_some core hentry
    obtain ⟨hfirst, hchars⟩ := Prod.mk.inj hpair
    obtain ⟨hlt, rfl⟩ := Vector.getElem?_eq_some_iff.mp hid
    obtain rfl : i = 2 := congrArg Fin.val (hids ⟨i, hlt⟩ hfirst.symm)
    obtain ⟨_, rfl⟩ := Vector.getElem?_eq_some_iff.mp hvalue
    exact ⟨hnumber, hchars⟩
  · rintro ⟨hnumber, rfl⟩
    refine ⟨2, by decide, ?_⟩
    rw [hrow, hnumber]
    rfl

variable (fmt : Rounding)

def measurement (pass : Pass) (s : State) : BMP280.Measurement :=
  BMP280.getTemperatureAndPressure fmt pass.data s.tempBaro s.pressure s.bmp

def Measured (pass : Pass) (s : State) : Prop :=
  s.bmp.startMeasurment pass.started ≠ 0 ∧ (measurement fmt pass s).result = true

/-- Each pressure row sent carries the value of a measurement of this pass that
succeeded. -/
def Fresh (core : FloatText) (pass : Pass) (s : State) : Prop :=
  pass.connected = true → ∀ t, execute (statements fmt pass) s = some t →
    ∀ chars, (sensors[2].toList, chars) ∈ rows core t →
      Measured fmt pass s ∧ chars = core.chars (measurement fmt pass s).p 2

/-- The measurement succeeds, or it stores no pressure and the one there is not a
number. -/
def MeasuredOrNone (pass : Pass) (s : State) : Prop :=
  pass.connected = true → Measured fmt pass s ∨
    ((pass.started = true → BMP280.reachesPressure fmt pass.data s.bmp = false) ∧
      s.pressure.isNan = true)

theorem pressure_measured {pass : Pass} {s : State}
    (hmeasured : Measured fmt pass s) :
    (measurePressure fmt pass s).pressure = (measurement fmt pass s).p := by
  rw [measurePressure, if_pos hmeasured.1]
  rfl

/-- After a failure the pressure is not a number only if it was none before and
the failed measurement has not replaced it. -/
theorem pressure_failed {pass : Pass} {s : State}
    (hfailed : ¬ Measured fmt pass s) :
    (measurePressure fmt pass s).pressure.isNan = true ↔
      (pass.started = true → BMP280.reachesPressure fmt pass.data s.bmp = false) ∧
        s.pressure.isNan = true := by
  cases hstarted : pass.started with
  | false =>
      have hzero : s.bmp.startMeasurment pass.started = 0 :=
        (BMP280.startMeasurment_eq_zero s.bmp pass.started).mpr hstarted
      rw [measurePressure, if_neg (not_not.mpr hzero)]
      simp
  | true =>
      have hstart : s.bmp.startMeasurment pass.started ≠ 0 := by
        rw [Ne, BMP280.startMeasurment_eq_zero, hstarted]
        decide
      have hresult : (measurement fmt pass s).result = false := by
        by_contra hsuccess
        exact hfailed ⟨hstart, by simpa using hsuccess⟩
      have hpressure : (measurePressure fmt pass s).pressure =
          (measurement fmt pass s).p := by
        rw [measurePressure, if_pos hstart]
        rfl
      rw [hpressure]
      cases hreaches : BMP280.reachesPressure fmt pass.data s.bmp with
      | false =>
          have huntouched : (measurement fmt pass s).p = s.pressure :=
            (BMP280.pressure_untouched fmt hreaches s.tempBaro s.pressure).2
          simp [huntouched]
      | true =>
          have hstored : (measurement fmt pass s).p.isNan = false :=
            BMP280.stored_not_nan fmt hreaches hresult
          simp [hstored]

theorem mem_rows_execute (core : FloatText) {pass : Pass} {s t : State}
    (hready : Ready s) (hall : execute (statements fmt pass) s = some t)
    (chars : Text) :
    (sensors[2].toList, chars) ∈ rows core t ↔
      (measurePressure fmt pass s).pressure.isNan = false ∧
        chars = core.chars (measurePressure fmt pass s).pressure 2 := by
  obtain ⟨temp, humi, -, -, hfull, -⟩ := pass_spec fmt core pass hready
  cases hfull.symm.trans hall
  exact mem_rows_pressure core rfl chars

theorem fresh_iff (core : FloatText) (pass : Pass) (s : State)
    (hready : Ready s) :
    Fresh fmt core pass s ↔ MeasuredOrNone fmt pass s := by
  refine imp_congr_right fun _ => ?_
  constructor
  · intro hfresh
    by_cases hmeasured : Measured fmt pass s
    · exact .inl hmeasured
    · refine .inr ((pressure_failed fmt hmeasured).mp ?_)
      by_contra hnumber
      obtain ⟨temp, humi, -, -, hall, -⟩ := pass_spec fmt core pass hready
      have hrow := (mem_rows_execute fmt core hready hall _).mpr
        ⟨by simpa using hnumber, rfl⟩
      exact hmeasured (hfresh _ hall _ hrow).1
  · intro hsafe t hall chars hrow
    obtain ⟨hnumber, hchars⟩ := (mem_rows_execute fmt core hready hall chars).mp hrow
    have hmeasured : Measured fmt pass s := by
      rcases hsafe with hmeasured | hnone
      · exact hmeasured
      · by_contra hfailed
        have hnan := (pressure_failed fmt hfailed).mpr hnone
        exact absurd (hnan.symm.trans hnumber) (by decide)
    rw [pressure_measured fmt hmeasured] at hchars
    exact ⟨hmeasured, hchars⟩

/-- Every pressure that a run uploads was measured in the pass that uploads it,
exactly if a pass that uploads measures the pressure or has none. -/
theorem pressure_fresh_iff (core : FloatText) (fmt : Rounding) (io : SetupIo)
    (begun : State) (hsetup : setup io = some begun) (passes : List Pass) :
    Along (loop core fmt) (Fresh fmt core) passes begun ↔
      Along (loop core fmt) (MeasuredOrNone fmt) passes begun :=
  along_congr Ready (loop_ready fmt core) (fresh_iff fmt core)
    (setup_ready hsetup)

theorem begun_ready : Ready begun := ⟨rfl, rfl⟩

theorem quietPass_measured : Measured binary32 (quietPass true true) begun :=
  ⟨by decide, by decide +kernel⟩

theorem pressure_fresh_restart :
    Along (loop arduinoText binary32) (Fresh binary32 arduinoText)
      [quietPass true true, quietPass false false, quietPass true true]
      begun := by
  refine (pressure_fresh_iff arduinoText binary32 quietSetup begun rfl _).mpr ?_
  refine ⟨fun _ => .inl quietPass_measured, fun second hsecond => ?_⟩
  refine ⟨fun hconnected => absurd hconnected (by decide),
    fun third hthird => ?_⟩
  have hready := loop_ready binary32 arduinoText _ _ _ begun_ready hsecond
  obtain ⟨temp, humi, -, -, -, hrestart⟩ :=
    pass_spec binary32 arduinoText (quietPass false false) hready
  cases hthird.symm.trans hrestart
  exact ⟨fun _ => .inl quietPass_measured, fun _ _ => trivial⟩

/-- A sensor that does not answer in the first pass: `0.00` is uploaded. -/
theorem unmeasured_uploaded :
    ¬ Along (loop arduinoText binary32) (Fresh binary32 arduinoText)
      [quietPass false true] begun := by
  intro hfresh
  obtain ⟨temp, humi, -, -, hall, -⟩ :=
    pass_spec binary32 arduinoText (quietPass false true) begun_ready
  have hrow := (mem_rows_execute binary32 arduinoText begun_ready hall
    (text "0.00")).mpr (by decide +kernel)
  exact (hfresh.1 rfl _ hall _ hrow).1.1 rfl

end SenseBox.SenseBoxIno
