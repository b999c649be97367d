import SenseBox.Data.Flt

namespace SenseBox.Device

open SenseBox.Data

/-! The ultrasonic sensors: `NewPing` and the core's `pulseIn`. -/

def noEcho : UInt16 := 0
def maxSensorDistance : UInt16 := 500
def usRoundtripCm : UInt16 := 57
def maxSensorDelay : UInt32 := 5800
def pingOverhead : UInt32 := 5

def setMaxDistance (maxCmDistance : UInt16) : UInt16 :=
  min (maxCmDistance + 1) (maxSensorDistance + 1) * usRoundtripCm

/-- What the echo pin does during one ping: whether the previous ping is still
out, and the values of `micros()` when the ping is triggered, while it has not
started, when it starts, while the echo is out, and after it. -/
structure Sounding where
  pending : Bool
  triggered : UInt32
  waits : List UInt32
  started : UInt32
  polls : List UInt32
  finished : UInt32

/-- The time limit `_max_time` of a ping that has started. -/
def pingTrigger (maxEchoTime : UInt16) (sounding : Sounding) : Option UInt32 :=
  if sounding.pending then none
  else
    let maxTime := sounding.triggered + maxEchoTime.toUInt32 + maxSensorDelay
    if sounding.waits.any (· > maxTime) then none
    else some (sounding.started + maxEchoTime.toUInt32)

def heard (maxEchoTime : UInt16) (sounding : Sounding) : Bool :=
  match pingTrigger maxEchoTime sounding with
  | none => false
  | some maxTime => !sounding.polls.any (· > maxTime)

def ping (maxEchoTime : UInt16) (sounding : Sounding) : UInt16 :=
  match pingTrigger maxEchoTime sounding with
  | none => noEcho
  | some maxTime =>
      if sounding.polls.any (· > maxTime) then noEcho
      else (sounding.finished - (maxTime - maxEchoTime.toUInt32) -
        pingOverhead).toUInt16

def convertCm (echoTime : UInt16) : UInt16 := echoTime / usRoundtripCm

theorem ping_missing {maxEchoTime : UInt16} {sounding : Sounding}
    (hmissing : heard maxEchoTime sounding = false) :
    ping maxEchoTime sounding = noEcho := by
  unfold heard at hmissing
  unfold ping
  cases htrigger : pingTrigger maxEchoTime sounding with
  | none => rfl
  | some maxTime =>
      rw [htrigger] at hmissing
      have hlate : sounding.polls.any (· > maxTime) = true := by
        simpa using hmissing
      simp only [hlate, if_true]

/-! `pulseIn` returns the length of the pulse, and `0` when it times out. -/

abbrev Pulse := Option UInt32

def pulseIn (pulse : Pulse) : UInt32 := pulse.getD 0

/-- `duration*0.034/2` for a `long duration`, in the format of `double`. -/
def pulseDistance (fmt : Rounding) (pulse : Pulse) : Int16 :=
  let duration := (pulseIn pulse).toInt32
  (fmt.div (fmt.mul (fmt.ofInt duration.toInt) (fmt.round (34 / 1000)))
    (.fin 2)).toInt16

theorem pulseDistance_missing (fmt : Rounding) :
    pulseDistance fmt none = 0 := by
  obtain ⟨factor, hfactor⟩ := fmt.round_finite (34 / 1000)
    (by rw [abs_of_pos] <;> norm_num)
  have hzero : (pulseIn none).toInt32.toInt = 0 := by decide
  rw [pulseDistance, hzero]
  simp only [hfactor, fmt.ofInt_zero, fmt.zero_mul_fin,
    fmt.zero_div_fin (show (2 : ℚ) ≠ 0 by norm_num)]
  decide

end SenseBox.Device
