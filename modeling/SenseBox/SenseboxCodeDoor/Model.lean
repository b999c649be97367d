import SenseBox.Counter.Inlined
import SenseBox.Device.NewPing

namespace SenseBox.SenseboxCodeDoor

open SenseBox.Data
open SenseBox.Counter
open SenseBox.Device

/-! The door of the uploading sketch: one pass of `loop` takes a reading a
second for a minute, and counts with two consecutive conditions. -/

def periodTime : UInt16 := 60000
def delayTime : UInt16 := 1000
def nearDistance : Int16 := 150

/-- The globals of the counter; the posting of the other measurements leaves
them alone. -/
structure State where
  nbPeople : Int16
  state : Int16
  postingInterval : UInt16
  deriving DecidableEq

def begun : State where
  nbPeople := 129
  state := 0
  postingInterval := 0

def count (distance state nbPeople : Int16) : Int16 × Int16 :=
  let state :=
    if state = 0 then if distance < nearDistance then 1 else state
    else state
  if state = 1 then
    if distance ≥ nearDistance then (0, nbPeople + 1) else (state, nbPeople)
  else (state, nbPeople)

def reading (fmt : Rounding) (pulse : Pulse) (s : State) : State :=
  let (state, nbPeople) := count (pulseDistance fmt pulse) s.state s.nbPeople
  { nbPeople := nbPeople
    state := state
    postingInterval := s.postingInterval + delayTime }

theorem before_periodTime (interval : UInt16) :
    interval < periodTime ↔ interval.toNat < 60000 := by
  have hperiod : periodTime.toNat = 60000 := by decide
  rw [UInt16.lt_iff_toNat_lt, hperiod]

theorem interval_reading (fmt : Rounding) (pulse : Pulse) (s : State) :
    (reading fmt pulse s).postingInterval.toNat =
      (s.postingInterval.toNat + 1000) % 2 ^ 16 := by
  have hdelay : delayTime.toNat = 1000 := by decide
  rw [reading, UInt16.toNat_add, hdelay]

/-- The `while` loop, over the pulses in the order they are read. -/
def counting (fmt : Rounding) (pulse : Nat → Pulse) (s : State) : State :=
  if s.postingInterval < periodTime then
    counting fmt (fun i => pulse (i + 1)) (reading fmt (pulse 0) s)
  else s
termination_by 60000 - s.postingInterval.toNat
decreasing_by
  have hmore := (before_periodTime s.postingInterval).mp (by assumption)
  have hnext := interval_reading fmt (pulse 0) s
  omega

def loop (fmt : Rounding) (pulse : Nat → Pulse) (s : State) : State :=
  counting fmt pulse { s with postingInterval := 0 }

/-! The loop takes sixty readings, and its two conditions count as
`ppl_counter` does. -/

theorem counting_eq (fmt : Rounding) (left : Nat) (pulse : Nat → Pulse)
    (s : State) (hinterval : s.postingInterval.toNat + 1000 * left = 60000) :
    counting fmt pulse s =
      ((List.range left).map pulse).foldl (fun s pulse => reading fmt pulse s)
        s := by
  induction left generalizing pulse s with
  | zero =>
      have hdone : ¬ s.postingInterval < periodTime := by
        rw [before_periodTime]
        omega
      rw [counting, if_neg hdone]
      rfl
  | succ left ih =>
      have hmore : s.postingInterval < periodTime := by
        rw [before_periodTime]
        omega
      have hnext := interval_reading fmt (pulse 0) s
      rw [counting, if_pos hmore, ih _ _ (by omega), List.range_succ_eq_map,
        List.map_cons, List.map_map, List.foldl_cons]
      rfl

theorem loop_eq (fmt : Rounding) (pulse : Nat → Pulse) (s : State) :
    loop fmt pulse s =
      ((List.range 60).map pulse).foldl (fun s pulse => reading fmt pulse s)
        { s with postingInterval := 0 } :=
  counting_eq fmt 60 pulse _ (by simp)

theorem count_eq_inlined (distance state nbPeople : Int16) :
    count distance state nbPeople =
      inlined nearDistance distance state nbPeople := rfl

theorem count_boolToInt (distance nbPeople : Int16) (state : Bool) :
    count distance (boolToInt state) nbPeople =
      (boolToInt (near nearDistance distance),
        if state && !near nearDistance distance then nbPeople + 1
        else nbPeople) := by
  rw [count_eq_inlined]
  exact inlined_boolToInt nearDistance distance nbPeople state

theorem readings_count (fmt : Rounding) (pulses : List Pulse) (s : State)
    (hstate : s.state = 0) :
    let after := pulses.foldl (fun s pulse => reading fmt pulse s) s
    let visits := Visits.reads
      (pulses.map fun pulse => near nearDistance (pulseDistance fmt pulse))
    after.state = boolToInt visits.near ∧
      after.nbPeople = s.nbPeople + Int16.ofNat visits.completed := by
  induction pulses using List.reverseRecOn with
  | nil => exact ⟨hstate, (Int16.add_zero _).symm⟩
  | append_singleton pulses pulse ih =>
      obtain ⟨hlevel, hcount⟩ := ih
      simp only [List.foldl_append, List.foldl_cons, List.foldl_nil,
        List.map_append, List.map_singleton, Visits.reads_concat]
      rw [reading, hlevel, hcount, count_boolToInt]
      refine ⟨rfl, ?_⟩
      simp only [Visits.read]
      split
      · rw [Int16.ofNat_add, ← Int16.add_assoc]
        rfl
      · rfl

theorem readings_counter (fmt : Rounding) (pulses : List Pulse) (s : State) :
    let after := pulses.foldl (fun s pulse => reading fmt pulse s) s
    (after.state, after.nbPeople) =
      inlinedCall nearDistance (s.state, s.nbPeople)
        (pulses.map (pulseDistance fmt)) := by
  induction pulses generalizing s with
  | nil => rfl
  | cons pulse rest ih => exact ih (reading fmt pulse s)

def distances (fmt : Rounding) (pulses : Nat → Pulse) : List Int16 :=
  ((List.range 60).map pulses).map (pulseDistance fmt)

theorem loop_counter (fmt : Rounding) (pulses : Nat → Pulse) (s : State) :
    ((loop fmt pulses s).state, (loop fmt pulses s).nbPeople) =
      inlinedCall nearDistance (s.state, s.nbPeople) (distances fmt pulses) := by
  rw [loop_eq]
  exact readings_counter fmt _ _

end SenseBox.SenseboxCodeDoor
