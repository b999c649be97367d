import SenseBox.Counter.PplCounter
import SenseBox.Counter.Timeline
import SenseBox.Device.BMP280
import SenseBox.Device.NewPing
import SenseBox.Device.Print
import SenseBox.SD.CardLog

namespace SenseBox.FinalElavatorSD

open SenseBox.Data
open SenseBox.Counter
open SenseBox.Device
open SenseBox.SD

/-! The elevator: counts people against a calibrated distance and logs to
`eledatatr.csv`. -/

def maxDistance : UInt16 := 399
def updateTime : UInt32 := 60000
def fileName : Text := text "eledatatr.csv"
def semicolon : UInt8 := 0x3B

def sensorMaxEchoTime : UInt16 := setMaxDistance maxDistance

structure State where
  uptime : UInt32
  distMax : Int16
  nbPeople : Int16
  state : Bool
  pressure : Flt
  temperature : Flt
  bmp : BMP280
  volume : Volume

/-- What one pass of `loop` meets; `started` says whether the command of
`startMeasurment` could be written, and `data` is the reading after it. -/
structure Pass where
  check : Nat
  stored : Nat
  sampled : Nat
  write : WriteIo
  readBack : ReadIo
  started : Bool
  data : Option (Vector UInt8 6)
  sounding : Sounding

structure SetupIo where
  words : Nat → Option UInt16
  sdBegin : Bool
  create : WriteIo
  sounding : Sounding
  found : Nat → Io

def distance (sounding : Sounding) : Int16 :=
  (convertCm (ping sensorMaxEchoTime sounding)).toInt16

/-- `dist_max` from the calibration ping; the subtraction is unsigned. -/
def calibrate (sounding : Sounding) : Int16 :=
  let distMax := (convertCm (ping sensorMaxEchoTime sounding) - 20).toInt16
  if distMax < 250 then 250 else distMax

def begun (distMax : Int16) (bmp : BMP280) (volume : Volume) : State where
  uptime := 0
  distMax := distMax
  nbPeople := 0
  state := false
  pressure := .fin 0
  temperature := .fin 0
  bmp := bmp
  volume := volume

def setup (io : SetupIo) (volume : Volume) : Option State :=
  let (initialized, bmp) := BMP280.initial.start io.words
  if !initialized then none
  else if !io.sdBegin then none
  else
    let bmp := bmp.setOversampling 4
    let volume := writeTo io.create fileName [] volume
    let distMax := calibrate io.sounding
    if !sdExists io.found fileName volume then none
    else some (begun distMax bmp volume)

def rowTexts (uptime : UInt32) (nbPeople pressure temperature : Int16) :
    List Text :=
  printUnsignedLong uptime ++ printText [semicolon] ++
    printInt nbPeople ++ printText [semicolon] ++
    printInt pressure ++ printText [semicolon] ++
    printInt temperature ++ printlnText [semicolon]

def writeFile (io : WriteIo) (pressure temperature : Int16) (uptime : UInt32)
    (s : State) : State :=
  { s with
    volume := writeTo io fileName
      (rowTexts uptime s.nbPeople pressure temperature) s.volume }

def due (pass : Pass) (s : State) : Bool :=
  millis pass.check - s.uptime > updateTime

def upload (pass : Pass) (s : State) : Option State :=
  let s := writeFile pass.write s.pressure.toInt16 s.temperature.toInt16
    s.uptime s
  (readBack pass.readBack fileName s.volume).map fun (_, volume) =>
    { s with uptime := millis pass.stored, volume := volume }

/-- The pass ends at once when `startMeasurment` reports an error. -/
def measure (fmt : Rounding) (pass : Pass) (s : State) : Option State :=
  let bmpStatus := s.bmp.startMeasurment pass.started
  if bmpStatus = 0 then some s
  else do
    let measured := BMP280.getTemperatureAndPressure fmt pass.data
      s.temperature s.pressure s.bmp
    let (state, nbPeople) ←
      countStep s.distMax (distance pass.sounding) (s.state, s.nbPeople)
    some { s with
      pressure := measured.p
      temperature := measured.t
      bmp := measured.bmp
      state := state
      nbPeople := nbPeople }

def loop (fmt : Rounding) (pass : Pass) (s : State) : Option State :=
  if due pass s then (upload pass s).bind (measure fmt pass)
  else measure fmt pass s

/-! What a pass does to the counter: nothing when the measurement could not be
started, and a step of `ppl_counter` otherwise. -/

def reading (pass : Pass) : Option Int16 :=
  if pass.started then some (distance pass.sounding) else none

def level (pass : Pass) (s : State) : Bool :=
  ((reading pass).map (near s.distMax)).getD s.state

structure Passed (pass : Pass) (s next : State) : Prop where
  distMax : next.distMax = s.distMax
  state : next.state = level pass s
  nbPeople : next.nbPeople =
    if s.state && !level pass s then s.nbPeople + 1 else s.nbPeople
  uptime : next.uptime = if due pass s then millis pass.stored else s.uptime

theorem level_eq (pass : Pass) (s : State) :
    level pass s =
      if pass.started then near s.distMax (distance pass.sounding)
      else s.state := by
  cases hstarted : pass.started <;> simp [level, reading, hstarted]

theorem measure_eq (fmt : Rounding) (pass : Pass) (s : State) :
    let measured := BMP280.getTemperatureAndPressure fmt pass.data
      s.temperature s.pressure s.bmp
    measure fmt pass s = some
      { s with
        pressure := if pass.started then measured.p else s.pressure
        temperature := if pass.started then measured.t else s.temperature
        bmp := if pass.started then measured.bmp else s.bmp
        state := level pass s
        nbPeople :=
          if s.state && !level pass s then s.nbPeople + 1 else s.nbPeople } := by
  rw [level_eq]
  cases hstarted : pass.started with
  | false =>
      have hzero := (BMP280.startMeasurment_eq_zero s.bmp pass.started).mpr hstarted
      have hidle : (s.state && !s.state) = false := Bool.and_not_self s.state
      simp only [measure, if_pos hzero, hidle, Bool.false_eq_true, if_false]
  | true =>
      have hstart : ¬ s.bmp.startMeasurment pass.started = 0 := by
        rw [BMP280.startMeasurment_eq_zero, hstarted]
        decide
      simp only [measure, if_neg hstart, countStep_eq]
      rfl

theorem upload_some {pass : Pass} {s next : State}
    (hupload : upload pass s = some next) :
    ∃ volume, next =
      { s with uptime := millis pass.stored, volume := volume } := by
  obtain ⟨result, -, rfl⟩ := Option.map_eq_some_iff.mp hupload
  exact ⟨result.2, rfl⟩

theorem loop_measures {fmt : Rounding} {pass : Pass} {s next : State}
    (hloop : loop fmt pass s = some next) :
    ∃ volume, measure fmt pass
      { s with
        uptime := if due pass s then millis pass.stored else s.uptime
        volume := volume } = some next := by
  unfold loop at hloop
  split at hloop
  · next hdue =>
    obtain ⟨middle, hupload, hmeasure⟩ := Option.bind_eq_some_iff.mp hloop
    obtain ⟨volume, rfl⟩ := upload_some hupload
    rw [if_pos hdue]
    exact ⟨volume, hmeasure⟩
  · next hdue =>
    rw [if_neg hdue]
    exact ⟨s.volume, hloop⟩

theorem loop_passed {fmt : Rounding} {pass : Pass} {s next : State}
    (hloop : loop fmt pass s = some next) : Passed pass s next := by
  obtain ⟨volume, hmeasure⟩ := loop_measures hloop
  rw [measure_eq] at hmeasure
  cases hmeasure
  exact ⟨rfl, rfl, rfl, rfl⟩

theorem loop_defined (fmt : Rounding) {pass : Pass} {s : State}
    (hdue : due pass s = false) : ∃ next, loop fmt pass s = some next := by
  rw [loop, hdue]
  exact ⟨_, measure_eq ..⟩

theorem run_first_minute (fmt : Rounding) {passes : List Pass}
    (hfirst : ∀ pass ∈ passes, pass.check ≤ 60000) (distMax : Int16)
    (bmp : BMP280) (card : Volume) :
    ∃ s, run (loop fmt) passes (begun distMax bmp card) = some s ∧
      s.uptime = 0 := by
  refine run_defined (fun s : State => s.uptime = 0) ?_ rfl
  intro pass hpass s hs
  have hdue : due pass s = false := by
    rw [due, hs]
    exact not_due_first_minute (hfirst pass hpass)
  obtain ⟨next, hloop⟩ := loop_defined fmt hdue
  refine ⟨next, hloop, ?_⟩
  rw [(loop_passed hloop).uptime, hdue]
  exact hs

end SenseBox.FinalElavatorSD
