import SenseBox.FinalDoorSD.Model

namespace SenseBox.FinalDoorSD

open SenseBox.Data
open SenseBox.Counter
open SenseBox.SD

/-! The counting law of the door over whole runs. -/

/-- The number of positions at which a near distance is directly followed by
one that is not. -/
def crossings (distances : List Int16) : Nat :=
  (distances.zip distances.tail).countP fun pair =>
    pair.1 < distToPpl && distToPpl ≤ pair.2

theorem crossings_eq_falls (distances : List Int16) :
    crossings distances = falls (distances.map (near distToPpl)) := by
  rw [crossings, falls, ← List.map_tail, List.zip_map, List.countP_map]
  congr 1
  funext pair
  simp [near, ← Int16.not_lt]

theorem run_loop_counts {fmt : Rounding} {passes : List Pass}
    {start finish : State} (hready : Ready start)
    (hrun : run (loop fmt) passes start = some finish) :
    run (countStep distToPpl) (passes.map distance)
      (start.state, start.nbPeople) = some (finish.state, finish.nbPeople) ∧
      Ready finish := by
  obtain ⟨counter, hcount, rfl, hfinish⟩ := run_simulates
    (countStep distToPpl)
    (fun s counter => counter = (s.state, s.nbPeople) ∧ Ready s) distance
    (fun pass _ s counter next hrel hloop => by
      obtain ⟨rfl, hready⟩ := hrel
      have hpassed := loop_passed hready hloop
      exact ⟨_, hpassed.counted, rfl, hpassed.ready⟩)
    ⟨rfl, hready⟩ hrun
  exact ⟨hcount, hfinish⟩

/-- After the distances the counter is at the last level, its next call
returns, and it holds the crossings as far as 16 bits do. -/
structure CountingLaw (distances : List Int16) (counter : Bool × Int16) :
    Prop where
  returns : ∀ distance, ∃ result nbPeople,
    pplCounter (boolToInt counter.1) distance distToPpl counter.2 =
      some (result, nbPeople) ∧ (result = 0 ∨ result = 1)
  level : counter.1 = true ↔
    ∃ last, distances.getLast? = some last ∧ last < distToPpl
  wraps : counter.2.toInt = (crossings distances : Int).bmod (2 ^ 16)
  exact : counter.2.toInt = crossings distances ↔ crossings distances ≤ 32767

theorem pplCounter_returns (state : Bool) (distance nbPeople : Int16) :
    ∃ result after, pplCounter (boolToInt state) distance distToPpl nbPeople =
      some (result, after) ∧ (result = 0 ∨ result = 1) := by
  refine ⟨_, _, pplCounter_boolToInt .., ?_⟩
  cases near distToPpl distance
  · exact .inl rfl
  · exact .inr rfl

theorem countingLaw_of_counts {distances : List Int16} {counter : Bool × Int16}
    (hcounts : Counts 0 counter
      (Visits.reads (distances.map (near distToPpl)))) :
    CountingLaw distances counter := by
  rw [Visits.reads_eq, ← crossings_eq_falls] at hcounts
  have hstate : counter.1 =
      (distances.map (near distToPpl)).getLast?.getD false := hcounts.state
  have hnb : counter.2 = Int16.ofNat (crossings distances) := by
    rw [hcounts.nbPeople, Int16.zero_add]
  have hwraps : counter.2.toInt = (crossings distances : Int).bmod (2 ^ 16) := by
    rw [hnb, Int16.toInt_ofNat']
    rfl
  refine ⟨fun distance => pplCounter_returns .., ?_, hwraps, ?_, ?_⟩
  · rw [hstate, List.getLast?_map]
    cases distances.getLast? <;> simp [near]
  · intro hexact
    have hbound := counter.2.toInt_lt
    omega
  · intro hfits
    exact hcounts.toInt hfits

theorem countingLaw_of_run {fmt : Rounding} {card : Volume}
    {passes : List Pass} {finish : State}
    (hrun : run (loop fmt) passes (begun card) = some finish) :
    CountingLaw (passes.map distance) (finish.state, finish.nbPeople) := by
  obtain ⟨counter, hcount, hcounts⟩ :=
    run_countStep distToPpl 0 (passes.map distance)
  obtain ⟨hloop, -⟩ := run_loop_counts (begun_ready card) hrun
  cases hcount.symm.trans hloop
  exact countingLaw_of_counts hcounts

/-- The counting law of `ppl_counter`, called once with each distance, and the
same law for whole passes of `loop` with any uploads between the readings. -/
theorem door_counting_law :
    (∀ distances : List Int16, ∃ counter,
      run (countStep distToPpl) distances (false, 0) = some counter ∧
      CountingLaw distances counter) ∧
    (∀ (fmt : Rounding) (card : Volume) (passes : List Pass) (finish : State),
      run (loop fmt) passes (begun card) = some finish →
      CountingLaw (passes.map distance) (finish.state, finish.nbPeople)) := by
  refine ⟨?_, ?_⟩
  · intro distances
    obtain ⟨counter, hrun, hcounts⟩ := run_countStep distToPpl 0 distances
    exact ⟨counter, hrun, countingLaw_of_counts hcounts⟩
  · intro fmt card passes finish hrun
    exact countingLaw_of_run hrun

def quietReadBack : ReadIo where
  opens := fun _ => .ok
  reads := fun _ => .ok
  polls := 2 ^ 32
  closes := .ok

def idlePass : Pass where
  check := 50
  stored := 50
  sampled := 60
  write := .ok
  readBack := quietReadBack
  rawHumi := 0x8000
  rawTemp := 0x6666
  sounding := {
    pending := false
    triggered := 0
    waits := []
    started := 500
    polls := []
    finished := 17605 }
  analogRead := fun _ => 512

def nearPass : Pass :=
  { idlePass with sounding := { idlePass.sounding with finished := 6205 } }

/-- Somebody is in front of the door when the upload is due. -/
def seenPass : Pass :=
  { nearPass with
    check := 60001
    stored := 60002
    sampled := 60003 }

def leftPass : Pass :=
  { idlePass with
    check := 60060
    stored := 60060
    sampled := 60070 }

def visit : List Pass := [nearPass, seenPass, leftPass]

theorem arrival_isSome :
    (run (loop .exact) [nearPass] (begun emptyCard)).isSome = true := by
  decide +kernel

theorem visit_isSome :
    (run (loop .exact) visit (begun emptyCard)).isSome = true := by
  decide +kernel

/-- The upload falls in the middle of the visit, which is counted once. -/
theorem door_counting_law_visit : ∃ middle finish,
    run (loop .exact) [nearPass] (begun emptyCard) = some middle ∧
      middle.state = true ∧ due seenPass middle = true ∧
      run (loop .exact) visit (begun emptyCard) = some finish ∧
      finish.nbPeople = 1 ∧
      CountingLaw [100, 100, 300] (finish.state, finish.nbPeople) := by
  have hrun := (Option.some_get visit_isSome).symm
  refine ⟨_, _, (Option.some_get arrival_isSome).symm, by decide +kernel,
    by decide +kernel, hrun, by decide +kernel, ?_⟩
  have hdistances : visit.map distance = [100, 100, 300] := by decide
  rw [← hdistances]
  exact door_counting_law.2 .exact emptyCard visit _ hrun

end SenseBox.FinalDoorSD
