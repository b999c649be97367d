import SenseBox.Counter.Inlined
import SenseBox.Device.BMP280
import SenseBox.Device.NewPing

namespace SenseBox.SenseboxCodeElevator

open SenseBox.Data
open SenseBox.Counter
open SenseBox.Device

/-! The elevator of the uploading sketch.  Its `postingInterval` counts the
readings of a pass of `loop`; the first pass takes none. -/

inductive SensorId where
  | temperature
  | presence
  | pressure
  deriving DecidableEq

structure State where
  nbPeople : Int16
  distance : Int16
  distMur : Int16
  state : Int16
  temp : Flt
  pressure : Flt
  postingInterval : Int16
  bmp : BMP280

/-- What one pass meets: the pulses in the order they are read, the reading of
the pressure sensor, and for each post whether the server is reached. -/
structure Pass where
  pulses : Nat → Pulse
  data : Option (Vector UInt8 6)
  connected : SensorId → Bool

structure Post where
  sensorId : SensorId
  measurement : Flt

def getDistance (fmt : Rounding) (pulse : Pulse) : Int16 :=
  (fmt.div (fmt.mul (fmt.ofInt (pulseIn pulse).toNat) (fmt.round (34 / 1000)))
    (.fin 2)).toInt16

/-- The globals after `setup`, which goes on when `begin` fails. -/
def begun (fmt : Rounding) (words : Nat → Option UInt16) (wall : Pulse) :
    State where
  nbPeople := 65
  distance := 0
  distMur := getDistance fmt wall
  state := 0
  temp := .fin 0
  pressure := .fin 0
  postingInterval := 0
  bmp := (BMP280.initial.start words).2.setOversampling 4

def reading (fmt : Rounding) (pulse : Pulse) (s : State) : State :=
  let distance := getDistance fmt pulse
  let (state, nbPeople) :=
    inlined (s.distMur - 40) distance s.state s.nbPeople
  { s with
    distance := distance
    state := state
    nbPeople := nbPeople
    postingInterval := s.postingInterval + 1 }

def again (s : State) : Bool := s.postingInterval < 100 && s.postingInterval > 0

theorem again_iff (s : State) : again s = true ↔
    0 < s.postingInterval.toInt ∧ s.postingInterval.toInt < 100 := by
  have hhundred : (100 : Int16).toInt = 100 := by decide
  have hzero : (0 : Int16).toInt = 0 := by decide
  rw [again, Bool.and_eq_true, decide_eq_true_eq, decide_eq_true_eq,
    gt_iff_lt, Int16.lt_iff_toInt_lt, Int16.lt_iff_toInt_lt, hhundred, hzero,
    and_comm]

theorem interval_reading (fmt : Rounding) (pulse : Pulse) {s : State}
    (hagain : again s = true) :
    (reading fmt pulse s).postingInterval.toInt =
      s.postingInterval.toInt + 1 := by
  have hbounds := (again_iff s).mp hagain
  have hone : (1 : Int16).toInt = 1 := by decide
  show (s.postingInterval + 1).toInt = _
  rw [Int16.toInt_add, hone]
  exact Int.bmod_eq_of_le (by omega) (by omega)

/-- The `while` loop. -/
def counting (fmt : Rounding) (pulses : Nat → Pulse) (s : State) : State :=
  if again s then
    counting fmt (fun i => pulses (i + 1)) (reading fmt (pulses 0) s)
  else s
termination_by (100 - s.postingInterval.toInt).toNat
decreasing_by
  have hbounds := (again_iff s).mp (by assumption)
  have hnext := interval_reading fmt (pulses 0) (by assumption)
  omega

def measure (fmt : Rounding) (data : Option (Vector UInt8 6)) (s : State) :
    State :=
  let measured := BMP280.getTemperatureAndPressure fmt data s.temp s.pressure
    s.bmp
  { s with
    temp := measured.t
    pressure := measured.p
    bmp := measured.bmp }

/-- What reaches the server; waiting for its response changes nothing here. -/
def postFloatValue (connected : SensorId → Bool) (measurement : Flt)
    (sensorId : SensorId) : List Post :=
  if connected sensorId then [⟨sensorId, measurement⟩] else []

def sampled (fmt : Rounding) (pass : Pass) (s : State) : State :=
  measure fmt pass.data (counting fmt pass.pulses s)

def posts (fmt : Rounding) (pass : Pass) (s : State) : List Post :=
  let s := sampled fmt pass s
  postFloatValue pass.connected (fmt.ofInt s.nbPeople.toInt) .presence ++
    postFloatValue pass.connected s.temp .temperature ++
    postFloatValue pass.connected s.pressure .pressure

def loop (fmt : Rounding) (pass : Pass) (s : State) : Option State :=
  some { sampled fmt pass s with postingInterval := 1 }

/-! How many readings a pass takes, and what they do to the counter. -/

def remaining (s : State) : Nat :=
  if again s then (100 - s.postingInterval.toInt).toNat else 0

theorem remaining_reading (fmt : Rounding) (pulse : Pulse) {s : State}
    (hagain : again s = true) :
    remaining s = remaining (reading fmt pulse s) + 1 := by
  have hbounds := (again_iff s).mp hagain
  have hnext := interval_reading fmt pulse hagain
  have hmore := again_iff (reading fmt pulse s)
  rw [remaining, if_pos hagain, remaining]
  split
  · omega
  · next hdone =>
    have := mt hmore.mpr hdone
    omega

def distances (fmt : Rounding) (pass : Pass) (s : State) : List Int16 :=
  (List.range (remaining s)).map fun i => getDistance fmt (pass.pulses i)

theorem counting_counter (fmt : Rounding) (pulses : Nat → Pulse) (s : State) :
    (counting fmt pulses s).distMur = s.distMur ∧
      ((counting fmt pulses s).state, (counting fmt pulses s).nbPeople) =
        inlinedCall (s.distMur - 40) (s.state, s.nbPeople)
          ((List.range (remaining s)).map fun i => getDistance fmt (pulses i)) := by
  fun_induction counting fmt pulses s with
  | case1 pulses s hagain ih =>
      rw [remaining_reading fmt (pulses 0) hagain, List.range_succ_eq_map,
        List.map_cons, List.map_map]
      exact ih
  | case2 pulses s hdone =>
      rw [remaining, if_neg hdone]
      exact ⟨rfl, rfl⟩

theorem loop_counter {fmt : Rounding} {pass : Pass} {s next : State}
    (hloop : loop fmt pass s = some next) :
    next.distMur = s.distMur ∧ (next.state, next.nbPeople) =
      inlinedCall (s.distMur - 40) (s.state, s.nbPeople)
        (distances fmt pass s) := by
  cases hloop
  exact counting_counter fmt pass.pulses s

end SenseBox.SenseboxCodeElevator
