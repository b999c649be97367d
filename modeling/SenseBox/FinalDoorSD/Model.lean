import SenseBox.Counter.PplCounter
import SenseBox.Counter.Timeline
import SenseBox.Device.NewPing
import SenseBox.Device.HDC100X
import SenseBox.Device.Microphone
import SenseBox.Device.Print
import SenseBox.SD.CardLog

namespace SenseBox.FinalDoorSD

open SenseBox.Data
open SenseBox.Counter
open SenseBox.Device
open SenseBox.SD

/-! The front door: counts people and logs to `dodatre.csv`. -/

def maxDistance : UInt16 := 390
def distToPpl : Int16 := 150
def updateTime : UInt32 := 60000
def fileName : Text := text "dodatre.csv"
def semicolon : UInt8 := 0x3B

def sensorMaxEchoTime : UInt16 := setMaxDistance maxDistance

structure State where
  uptime : UInt32
  nbPeople : Int16
  state : Bool
  humidity : Flt
  temperature : Flt
  soundLvl : Int32
  hdc : HDC100X
  volume : Volume

/-- What one pass of `loop` meets: the times of its two calls of `millis()` and
of its ping, the outcomes of the card accesses, and the sensors. -/
structure Pass where
  check : Nat
  stored : Nat
  sampled : Nat
  write : WriteIo
  readBack : ReadIo
  rawHumi : UInt16
  rawTemp : UInt16
  sounding : Sounding
  analogRead : Nat → Int16

structure SetupIo where
  sdBegin : Bool
  create : WriteIo
  found : Nat → Io

/-- The globals as they are initialized, with the sensor after `hdc.begin`. -/
def begun (volume : Volume) : State where
  uptime := 0
  nbPeople := 0
  state := false
  humidity := .fin 0
  temperature := .fin 0
  soundLvl := 0
  hdc := HDC100X.start hdc100xTempHumi
  volume := volume

/-- `none` is one of the endless loops that stop the sketch. -/
def setup (io : SetupIo) (volume : Volume) : Option State :=
  if !io.sdBegin then none
  else
    let volume := writeTo io.create fileName [] volume
    if !sdExists io.found fileName volume then none
    else some (begun volume)

def rowTexts (uptime : UInt32) (nbPeople humidity temperature sndLvl : Int16) :
    List Text :=
  printUnsignedLong uptime ++ printText [semicolon] ++
    printInt nbPeople ++ printText [semicolon] ++
    printInt humidity ++ printText [semicolon] ++
    printInt temperature ++ printText [semicolon] ++
    printInt sndLvl ++ printlnText [semicolon]

def writeFile (io : WriteIo) (humidity temperature sndLvl : Int16)
    (uptime : UInt32) (s : State) : State :=
  { s with
    volume := writeTo io fileName
      (rowTexts uptime s.nbPeople humidity temperature sndLvl) s.volume }

def due (pass : Pass) (s : State) : Bool :=
  millis pass.check - s.uptime > updateTime

def upload (pass : Pass) (s : State) : Option State :=
  let s := writeFile pass.write s.humidity.toInt16 s.temperature.toInt16
    s.soundLvl.toInt16 s.uptime s
  (readBack pass.readBack fileName s.volume).map fun (_, volume) =>
    { s with uptime := millis pass.stored, volume := volume }

def distance (pass : Pass) : Int16 :=
  (convertCm (ping sensorMaxEchoTime pass.sounding)).toInt16

def measure (fmt : Rounding) (pass : Pass) (s : State) : Option State := do
  let humidity ← s.hdc.getHumi fmt pass.rawHumi
  let temperature ← s.hdc.getTemp fmt pass.rawTemp
  let soundLvl := getMicVal pass.analogRead
  let (state, nbPeople) ←
    countStep distToPpl (distance pass) (s.state, s.nbPeople)
  some { s with
    humidity := humidity
    temperature := temperature
    soundLvl := soundLvl
    state := state
    nbPeople := nbPeople }

def loop (fmt : Rounding) (pass : Pass) (s : State) : Option State :=
  if due pass s then (upload pass s).bind (measure fmt pass)
  else measure fmt pass s

/-! What a pass does: a measurement always succeeds once `setup` has set the
mode of the sensor, and an upload changes the card and `uptime` only. -/

def Ready (s : State) : Prop := s.hdc = HDC100X.start hdc100xTempHumi

theorem setup_begun {io : SetupIo} {volume : Volume} {s : State}
    (hsetup : setup io volume = some s) : ∃ card, s = begun card := by
  unfold setup at hsetup
  split at hsetup
  · cases hsetup
  · dsimp only at hsetup
    split at hsetup
    · cases hsetup
    · cases hsetup
      exact ⟨_, rfl⟩

theorem begun_ready (card : Volume) : Ready (begun card) := rfl

def written (pass : Pass) (s : State) : Volume :=
  writeTo pass.write fileName
    (rowTexts s.uptime s.nbPeople s.humidity.toInt16 s.temperature.toInt16
      s.soundLvl.toInt16) s.volume

theorem upload_eq (pass : Pass) (s : State) :
    upload pass s = (readBack pass.readBack fileName (written pass s)).map
      fun result =>
        { s with uptime := millis pass.stored, volume := result.2 } := rfl

theorem measure_eq (fmt : Rounding) (pass : Pass) {s : State}
    (hready : Ready s) :
    ∃ humidity temperature, measure fmt pass s = some { s with
      humidity := humidity
      temperature := temperature
      soundLvl := getMicVal pass.analogRead
      state := near distToPpl (distance pass)
      nbPeople :=
        if s.state && !near distToPpl (distance pass) then s.nbPeople + 1
        else s.nbPeople } := by
  obtain ⟨humidity, -, hhumidity, -⟩ := HDC100X.measures fmt pass.rawHumi
  obtain ⟨-, temperature, -, htemperature⟩ := HDC100X.measures fmt pass.rawTemp
  rw [← hready] at hhumidity htemperature
  refine ⟨humidity, temperature, ?_⟩
  simp only [measure, hhumidity, htemperature, countStep_eq]
  rfl

structure Passed (pass : Pass) (s next : State) : Prop where
  ready : Ready next
  counted : countStep distToPpl (distance pass) (s.state, s.nbPeople) =
    some (next.state, next.nbPeople)
  uptime : next.uptime = if due pass s then millis pass.stored else s.uptime
  volume : if due pass s then
      ∃ echoed, readBack pass.readBack fileName (written pass s) =
        some (echoed, next.volume)
    else next.volume = s.volume

theorem loop_passed {fmt : Rounding} {pass : Pass} {s next : State}
    (hready : Ready s) (hloop : loop fmt pass s = some next) :
    Passed pass s next := by
  unfold loop at hloop
  split at hloop
  · next hdue =>
    obtain ⟨middle, hupload, hmeasure⟩ := Option.bind_eq_some_iff.mp hloop
    rw [upload_eq] at hupload
    obtain ⟨⟨echoed, volume⟩, hecho, rfl⟩ := Option.map_eq_some_iff.mp hupload
    obtain ⟨humidity, temperature, heq⟩ := measure_eq fmt pass
      (show Ready { s with uptime := millis pass.stored, volume := volume }
        from hready)
    rw [heq] at hmeasure
    cases hmeasure
    exact ⟨hready, countStep_eq .., by simp [hdue],
      by simpa [hdue] using ⟨echoed, hecho⟩⟩
  · next hdue =>
    obtain ⟨humidity, temperature, heq⟩ := measure_eq fmt pass hready
    rw [heq] at hloop
    cases hloop
    exact ⟨hready, countStep_eq .., by simp [hdue], by simp [hdue]⟩

theorem Passed.counter {pass : Pass} {s next : State}
    (hpassed : Passed pass s next) :
    next.state = near distToPpl (distance pass) ∧ next.nbPeople =
      if s.state && !near distToPpl (distance pass) then s.nbPeople + 1
      else s.nbPeople := by
  have hcounted := hpassed.counted
  rw [countStep_eq] at hcounted
  obtain ⟨hstate, hnb⟩ := Prod.mk.inj (Option.some.inj hcounted)
  exact ⟨hstate.symm, hnb.symm⟩

/-- A pass is only ever held up by the read-back of its upload. -/
theorem loop_defined (fmt : Rounding) {pass : Pass} {s : State}
    (hready : Ready s)
    (hecho : due pass s = true →
      (readBack pass.readBack fileName (written pass s)).isSome) :
    ∃ next, loop fmt pass s = some next := by
  unfold loop
  split
  · next hdue =>
    obtain ⟨result, hresult⟩ := Option.isSome_iff_exists.mp (hecho hdue)
    obtain ⟨humidity, temperature, heq⟩ := measure_eq fmt pass
      (show Ready { s with uptime := millis pass.stored, volume := result.2 }
        from hready)
    rw [upload_eq, hresult]
    exact ⟨_, heq⟩
  · obtain ⟨humidity, temperature, heq⟩ := measure_eq fmt pass hready
    exact ⟨_, heq⟩

theorem run_first_minute (fmt : Rounding) {passes : List Pass}
    (hfirst : ∀ pass ∈ passes, pass.check ≤ 60000) (card : Volume) :
    ∃ s, run (loop fmt) passes (begun card) = some s ∧
      Ready s ∧ s.uptime = 0 := by
  refine run_defined (fun s => Ready s ∧ s.uptime = 0) ?_
    ⟨begun_ready card, rfl⟩
  intro pass hpass s hs
  have hdue : due pass s = false := by
    rw [due, hs.2]
    exact not_due_first_minute (hfirst pass hpass)
  obtain ⟨next, hloop⟩ := loop_defined fmt hs.1 fun h => by
    rw [hdue] at h
    cases h
  have hpassed := loop_passed hs.1 hloop
  refine ⟨next, hloop, hpassed.ready, ?_⟩
  rw [hpassed.uptime, hdue]
  exact hs.2

end SenseBox.FinalDoorSD
