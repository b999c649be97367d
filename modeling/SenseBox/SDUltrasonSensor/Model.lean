import SenseBox.Data.Run
import SenseBox.Device.Print
import SenseBox.SD.CardLog

namespace SenseBox.SDUltrasonSensor

open SenseBox.Data
open SenseBox.Device
open SenseBox.SD

/-! The stand-alone counter: it reads the distance a second time in a pass that
finds somebody in front of the sensor. -/

def fileName : Text := text "nb_people.txt"

/-- `taken` is the number of calls of `getDistance` so far. -/
structure State where
  state : Int16
  nbPeople : Int16
  taken : Nat
  volume : Volume

def begun (nbPeople : Int16) (volume : Volume) : State where
  state := 0
  nbPeople := nbPeople
  taken := 0
  volume := volume

section Loop

variable (stream : Nat → Int16)

/-- The reading at the head of the pass, and its test when `state` is 0. -/
def arrive (s : State) : State :=
  let distance := stream s.taken
  let s := { s with taken := s.taken + 1 }
  if s.state = 0 then
    if distance < 70 && distance > 0 then { s with state := s.state + 1 } else s
  else s

def depart (s : State) : State :=
  if s.state = 1 then
    let distance := stream s.taken
    let s := { s with taken := s.taken + 1 }
    if distance > 70 then { s with state := 2 } else s
  else s

/-- `SD.open` without a mode opens for reading. -/
def record (io : WriteIo) (nbPeople : Int16) (volume : Volume) : Volume :=
  let (nbPpl, volume) := sdOpen io.opens fileName fileRead volume
  let (nbPpl, volume) := nbPpl.printAll io.prints (printlnInt nbPeople) volume
  (nbPpl.close io.closes volume).2

def count (io : WriteIo) (s : State) : State :=
  if s.state = 2 then
    let nbPeople := s.nbPeople + 1
    { s with
      nbPeople := nbPeople
      volume := record io nbPeople s.volume
      state := 0 }
  else s

/-- One pass, with the outcomes of its card accesses. -/
def loop (io : WriteIo) (s : State) : Option State :=
  some (count io (depart stream (arrive stream s)))

/-! What a pass does between two of its starts, at which `state` is 0 or 1. -/

def inFront (s : State) : Bool :=
  s.state == 1 || (stream s.taken < 70 && stream s.taken > 0)

def counts (s : State) : Bool :=
  inFront stream s && stream (s.taken + 1) > 70

def Between (s : State) : Prop := s.state = 0 ∨ s.state = 1

end Loop

variable {stream : Nat → Int16} {io : WriteIo} {s next : State}

theorem loop_away (hbetween : Between s) (haway : inFront stream s = false) :
    loop stream io s = some { s with taken := s.taken + 1 } := by
  rw [inFront, Bool.or_eq_false_iff] at haway
  obtain ⟨hstate, hfar⟩ := haway
  have hzero : s.state = 0 := by
    rcases hbetween with hzero | hone
    · exact hzero
    · simp [hone] at hstate
  have harrive : arrive stream s = { s with taken := s.taken + 1 } := by
    simp [arrive, hzero, hfar]
  rw [loop, harrive]
  simp [depart, count, hzero]

theorem loop_inFront (hbetween : Between s) (hfront : inFront stream s = true) :
    loop stream io s = some (
      if counts stream s then
        { s with
          state := 0
          nbPeople := s.nbPeople + 1
          taken := s.taken + 2
          volume := record io (s.nbPeople + 1) s.volume }
      else { s with state := 1, taken := s.taken + 2 }) := by
  have harrive : arrive stream s =
      { s with state := 1, taken := s.taken + 1 } := by
    rcases hbetween with hzero | hone
    · have hnear : (stream s.taken < 70 && stream s.taken > 0) = true := by
        simpa [inFront, hzero] using hfront
      simp [arrive, hzero, hnear]
    · simp [arrive, hone]
  rw [loop, harrive, counts, hfront]
  by_cases hgone : stream (s.taken + 1) > 70
  · simp [depart, count, hgone]
  · simp [depart, count, hgone]

end SenseBox.SDUltrasonSensor
