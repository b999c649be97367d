import SenseBox.Counter.PplCounter
import SenseBox.Device.NewPing
import SenseBox.Device.Print
import SenseBox.SD.SDCard

namespace SenseBox.SDuS

open SenseBox.Data
open SenseBox.Counter
open SenseBox.Device
open SenseBox.SD

/-! The counter that keeps its total in a file of one line, `nb_ppl.txt`. -/

def maxDistance : UInt16 := 350
def distToPpl : Int16 := 100

/-- There is no slash in it. -/
def fileName : Text := text "nb_ppl.txt"

def sensorMaxEchoTime : UInt16 := setMaxDistance maxDistance

/-- The globals, and the card. -/
structure State (Card : Type) where
  nbPeople : Int16
  distance : Int16
  state : Bool
  card : Card

structure Pass where
  sounding : Sounding

def begun {Card : Type} (card : Card) : State Card where
  nbPeople := 0
  distance := 0
  state := false
  card := card

/-- `none` is one of the endless loops that stop the sketch, or a chain of the card that
goes on and on. -/
def setup (io : Accesses) (rounds : Nat) (cardInit : Bool) (volume : SdVolume) :
    Option (State SdCard) := do
  let started ← SdCard.begin io rounds cardInit volume
  let card ← started
  let (usData, card) ← card.openFile io rounds fileName fileWrite
  let (_, card) := card.close io usData
  let (found, card) ← card.existsIn io rounds fileName
  if found then some (begun card) else none

/-- What the four calls of `write_file` return, none of which it looks at: whether the file
has been removed, opened, written and closed. -/
structure Outcome where
  removed : Bool
  opened : Bool
  printed : Bool
  closed : Bool
  deriving DecidableEq

def writeTotal (io : Accesses) (rounds : Nat) (total : Int16) (card : SdCard) :
    Option (Outcome × SdCard) := do
  let (removed, card) ← card.remove io rounds fileName
  let (usData, card) ← card.openFile io rounds fileName fileWrite
  let (printed, usData', card) := card.printAll io (printlnInt total) usData
  let (closed, card) := card.close io usData'
  return (⟨removed, usData.isSome, printed, closed⟩, card)

def replaceTotal (io : Accesses) (rounds : Nat) (total : Int16) (card : SdCard) :
    Option SdCard :=
  (writeTotal io rounds total card).map Prod.snd

section Counter

variable {Card : Type}

/-- An `int *`; the sketch only takes the address of `nb_people`. -/
inductive IntPtr where
  | globalNbPeople

def State.load (s : State Card) : IntPtr → Int16
  | .globalNbPeople => s.nbPeople

def State.store (s : State Card) : IntPtr → Int16 → State Card
  | .globalNbPeople, value => { s with nbPeople := value }

/-- The number printed is the global one; the statement `state == 0` has no effect.  It
does not come to an end where the calls for the card do not. -/
def writeFile (replaceTotal : Int16 → Card → Option Card) (ppl : IntPtr) (s : State Card) :
    Option (State Card) :=
  let s := s.store ppl (s.load ppl + 1)
  (replaceTotal s.nbPeople s.card).map fun card => { s with card := card }

/-- The two first of the parameters of the sketch are not used: the globals are tested. -/
def pplCounter (threshold : Int16) (replaceTotal : Int16 → Card → Option Card)
    (_tempState _tempDist : Int16) (nbPeople : IntPtr) (s : State Card) :
    Option (Int16 × State Card) :=
  if boolToInt s.state = 0 then
    if s.distance < threshold then some (1, s) else some (0, s)
  else if boolToInt s.state = 1 then
    if s.distance ≥ threshold then (writeFile replaceTotal nbPeople s).map ((0, ·))
    else some (1, s)
  else none

def step (threshold : Int16) (replaceTotal : Int16 → Card → Option Card)
    (distance : Int16) (s : State Card) : Option (State Card) :=
  let s := { s with distance := distance }
  (pplCounter threshold replaceTotal (boolToInt s.state) s.distance .globalNbPeople s).map
    fun (state, s) => { s with state := intToBool state }

end Counter

def distance (pass : Pass) : Int16 :=
  (convertCm (ping sensorMaxEchoTime pass.sounding)).toInt16

def loop (io : Accesses) (rounds : Nat) (pass : Pass) (s : State SdCard) :
    Option (State SdCard) :=
  step distToPpl (replaceTotal io rounds) (distance pass) s

/-! What a step does: the visit machine, and a record of the total when it completes a
visit. -/

section Steps

variable {Card : Type} {replaceTotal : Int16 → Card → Option Card}

def completes (threshold distance : Int16) (s : State Card) : Bool :=
  s.state && !near threshold distance

theorem step_eq (threshold distance : Int16) (s : State Card) :
    step threshold replaceTotal distance s =
      if completes threshold distance s then
        (replaceTotal (s.nbPeople + 1) s.card).map fun card =>
          ⟨s.nbPeople + 1, distance, near threshold distance, card⟩
      else some ⟨s.nbPeople, distance, near threshold distance, s.card⟩ := by
  obtain ⟨nbPeople, last, state, card⟩ := s
  cases state with
  | false =>
      by_cases hnear : distance < threshold <;>
        simp [step, pplCounter, boolToInt, completes, near, hnear, intToBool]
  | true =>
      by_cases hnear : distance < threshold
      · have hfar : ¬ threshold ≤ distance := Int16.not_le.mpr hnear
        simp [step, pplCounter, boolToInt, completes, near, hnear, hfar, intToBool]
      · have hfar : threshold ≤ distance := Int16.not_lt.mp hnear
        simp [step, pplCounter, boolToInt, completes, near, hnear, hfar, intToBool,
          writeFile, State.load, State.store, Function.comp_def]

end Steps

end SenseBox.SDuS
