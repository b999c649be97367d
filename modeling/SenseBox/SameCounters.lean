import SenseBox.SDuS.Model
import SenseBox.SenseboxCodeDoor.Model
import SenseBox.SenseboxCodeElevator.Model

namespace SenseBox

open SenseBox.Data
open SenseBox.Counter
open SenseBox.Device

/-! The counters of the sketches are one machine. -/

namespace SenseboxCodeDoor

/-- The distances of some calls of `loop`, in order. -/
def allDistances (fmt : Rounding) (calls : List (Nat → Pulse)) : List Int16 :=
  (calls.map (distances fmt)).flatten

theorem loops_counter (fmt : Rounding) (calls : List (Nat → Pulse)) (s : State) :
    let after := calls.foldl (fun s pulses => loop fmt pulses s) s
    (after.state, after.nbPeople) =
      inlinedCall nearDistance (s.state, s.nbPeople) (allDistances fmt calls) := by
  rw [allDistances, ← foldl_inlinedCall]
  induction calls generalizing s with
  | nil => rfl
  | cons pulses rest ih =>
      rw [List.map_cons, List.foldl_cons, List.foldl_cons, ← loop_counter]
      exact ih (loop fmt pulses s)

end SenseboxCodeDoor

namespace SenseboxCodeElevator

def allDistances (fmt : Rounding) : List Pass → State → List Int16 :=
  emitted (loop fmt) (distances fmt)

theorem loops_counter {fmt : Rounding} {passes : List Pass} {s finish : State}
    (hrun : run (loop fmt) passes s = some finish) :
    (finish.state, finish.nbPeople) =
      inlinedCall (s.distMur - 40) (s.state, s.nbPeople)
        (allDistances fmt passes s) := by
  induction passes generalizing s with
  | nil =>
      cases hrun
      rfl
  | cons pass rest ih =>
      obtain ⟨next, hloop, hrest⟩ := run_cons_some hrun
      obtain ⟨hwall, hcounter⟩ := loop_counter hloop
      rw [allDistances, emitted_cons _ hloop, inlinedCall, List.foldl_append,
        ← inlinedCall, ← inlinedCall, ← hcounter, ← hwall]
      exact ih hrest

end SenseboxCodeElevator

namespace SDuS

variable {Card : Type}

/-- A distance, with what the calls of `write_file` do to the card if it comes to that. -/
def input (threshold : Int16) (pair : (Int16 → Card → Card) × Int16) (s : State Card) :
    Option (State Card) :=
  step threshold (fun total card => some (pair.1 total card)) pair.2 s

theorem run_input {threshold : Int16} {inputs : List ((Int16 → Card → Card) × Int16)}
    {s : State Card} {state : Bool} {count : Int16}
    (hrun : run (countStep threshold) (inputs.map Prod.snd)
      (s.state, s.nbPeople) = some (state, count)) :
    ∃ finish, run (input threshold) inputs s = some finish ∧
      finish.state = state ∧ finish.nbPeople = count := by
  induction inputs generalizing s with
  | nil =>
      cases hrun
      exact ⟨s, rfl, rfl, rfl⟩
  | cons pair rest ih =>
      rw [List.map_cons, run_cons, countStep_eq, Option.bind_some] at hrun
      rw [run_cons, input, step_eq]
      by_cases hcompletes : completes threshold pair.2 s = true
      · rw [if_pos hcompletes]
        unfold completes at hcompletes
        rw [if_pos hcompletes] at hrun
        exact ih hrun
      · rw [if_neg hcompletes]
        unfold completes at hcompletes
        rw [if_neg hcompletes] at hrun
        exact ih hrun

end SDuS

/-- After these distances every counter has this state and this count: that of
`ppl_counter`, the two conditions in any number of calls of `loop`, those of the
two sketches that have them, and `ppl_counter` of the sketch with globals,
whatever becomes of its card. -/
structure SameCounters (threshold base : Int16) (distances : List Int16)
    (state : Bool) (count : Int16) : Prop where
  pplCounter :
    run (countStep threshold) distances (false, base) = some (state, count)
  inlined : ∀ calls : List (List Int16), calls.flatten = distances →
    calls.foldl (inlinedCall threshold) (0, base) = (boolToInt state, count)
  door : ∀ (fmt : Rounding) (calls : List (Nat → Pulse))
    (s : SenseboxCodeDoor.State), s.state = 0 → s.nbPeople = base →
    SenseboxCodeDoor.nearDistance = threshold →
    SenseboxCodeDoor.allDistances fmt calls = distances →
    let after := calls.foldl (fun s pulses => SenseboxCodeDoor.loop fmt pulses s) s
    (after.state, after.nbPeople) = (boolToInt state, count)
  elevator : ∀ (fmt : Rounding) (passes : List SenseboxCodeElevator.Pass)
    (s : SenseboxCodeElevator.State), s.state = 0 → s.nbPeople = base →
    s.distMur - 40 = threshold →
    SenseboxCodeElevator.allDistances fmt passes s = distances →
    ∃ after, run (SenseboxCodeElevator.loop fmt) passes s = some after ∧
      (after.state, after.nbPeople) = (boolToInt state, count)
  globals : ∀ (Card : Type) (inputs : List ((Int16 → Card → Card) × Int16))
    (s : SDuS.State Card), s.state = false → s.nbPeople = base →
    inputs.map Prod.snd = distances →
    ∃ after, run (SDuS.input threshold) inputs s = some after ∧
      after.state = state ∧ after.nbPeople = count

theorem same_counters (threshold base : Int16) (distances : List Int16) :
    ∃ state count, SameCounters threshold base distances state count := by
  obtain ⟨⟨state, count⟩, hrun, -⟩ := run_countStep threshold base distances
  have hinlined := inlinedCall_eq hrun
  refine ⟨state, count, hrun, ?_, ?_, ?_, ?_⟩
  · rintro calls rfl
    rw [foldl_inlinedCall]
    exact hinlined
  · rintro fmt calls s hstate rfl rfl rfl
    have hcounter := SenseboxCodeDoor.loops_counter fmt calls s
    rw [hstate] at hcounter
    exact hcounter.trans hinlined
  · rintro fmt passes s hstate rfl rfl rfl
    obtain ⟨after, hloops, -⟩ : ∃ after,
        run (SenseboxCodeElevator.loop fmt) passes s = some after ∧ True :=
      run_defined (fun _ => True) (fun _ _ _ _ => ⟨_, rfl, trivial⟩) trivial
    have hcounter := SenseboxCodeElevator.loops_counter hloops
    rw [hstate] at hcounter
    exact ⟨after, hloops, hcounter.trans hinlined⟩
  · rintro Card inputs s hstate rfl rfl
    apply SDuS.run_input
    rw [hstate]
    exact hrun

end SenseBox
