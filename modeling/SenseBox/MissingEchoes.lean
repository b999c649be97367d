import SenseBox.Counter.MissingEchoes
import SenseBox.FinalDoorSD.Counting
import SenseBox.SenseboxCodeDoor.Model

namespace SenseBox

open SenseBox.Data
open SenseBox.Counter
open SenseBox.Device

/-! What missing echoes do to the two door counters. -/

def FinalDoorSD.ranging : Ranging FinalDoorSD.Pass where
  heard := fun pass => heard FinalDoorSD.sensorMaxEchoTime pass.sounding
  distance := FinalDoorSD.distance
  distance_missing := by
    intro pass hmissing
    rw [FinalDoorSD.distance, ping_missing hmissing]
    decide

def SenseboxCodeDoor.ranging (fmt : Rounding) : Ranging Pulse where
  heard := Option.isSome
  distance := pulseDistance fmt
  distance_missing := by
    intro pulse hmissing
    cases pulse with
    | none => exact pulseDistance_missing fmt
    | some width => cases hmissing

/-- After every part of the run `nb_people` has grown by the visits that the
real echoes show. -/
def FinalDoorSD.CountsVisits (fmt : Rounding) (passes : List FinalDoorSD.Pass)
    (start : FinalDoorSD.State) : Prop :=
  ∀ front s, front <+: passes →
    run (FinalDoorSD.loop fmt) front start = some s →
    s.nbPeople = start.nbPeople +
      Int16.ofNat (FinalDoorSD.ranging.visits FinalDoorSD.distToPpl front)

def SenseboxCodeDoor.CountsVisits (fmt : Rounding) (pulses : List Pulse)
    (start : SenseboxCodeDoor.State) : Prop :=
  ∀ front, front <+: pulses →
    (front.foldl (fun s pulse => SenseboxCodeDoor.reading fmt pulse s)
      start).nbPeople = start.nbPeople +
        Int16.ofNat ((SenseboxCodeDoor.ranging fmt).visits
          SenseboxCodeDoor.nearDistance front)

theorem FinalDoorSD.run_counted {fmt : Rounding} {passes : List Pass}
    {start finish : State} (hready : Ready start) (hstate : start.state = false)
    (hrun : run (loop fmt) passes start = some finish) :
    finish.nbPeople =
      start.nbPeople + Int16.ofNat (ranging.counted distToPpl passes) := by
  obtain ⟨counter, hcount, hcounts⟩ :=
    run_countStep distToPpl start.nbPeople (passes.map distance)
  obtain ⟨hloop, -⟩ := run_loop_counts hready hrun
  rw [hstate, hcount] at hloop
  cases hloop
  rw [Visits.reads_eq, List.map_map] at hcounts
  exact hcounts.nbPeople

theorem FinalDoorSD.countsVisits_iff {fmt : Rounding} {passes : List Pass}
    {start finish : State} (hready : Ready start) (hstate : start.state = false)
    (hrun : run (loop fmt) passes start = some finish) :
    CountsVisits fmt passes start ↔ passes.IsChain fun previous current =>
      ¬ ranging.Confusing distToPpl previous current := by
  rw [← ranging.counted_iff distToPpl (by decide)]
  constructor
  · intro hcounts front hfront
    obtain ⟨back, rfl⟩ := hfront
    obtain ⟨middle, hmiddle, -⟩ := run_append_some hrun
    have hvisits := hcounts front middle (List.prefix_append ..) hmiddle
    rw [run_counted hready hstate hmiddle] at hvisits
    exact (Int16.add_right_inj _).mp hvisits
  · intro hagree front s hfront hmiddle
    rw [run_counted hready hstate hmiddle, hagree front hfront]

theorem SenseboxCodeDoor.countsVisits_iff (fmt : Rounding) (pulses : List Pulse)
    {start : State} (hstate : start.state = 0) :
    CountsVisits fmt pulses start ↔ pulses.IsChain fun previous current =>
      ¬ (ranging fmt).Confusing nearDistance previous current := by
  rw [← (ranging fmt).counted_iff nearDistance (by decide)]
  have hcounted (front : List Pulse) :
      (front.foldl (fun s pulse => reading fmt pulse s) start).nbPeople =
        start.nbPeople +
          Int16.ofNat ((ranging fmt).counted nearDistance front) := by
    have hcount := (readings_count fmt front start hstate).2
    rw [Visits.reads_eq] at hcount
    exact hcount
  refine forall_congr' fun front => imp_congr_right fun _ => ?_
  rw [hcounted]
  exact Int16.add_right_inj _

/-- Both doors count the visits of the real echoes just when no missing echo
follows someone near or comes before a far echo. -/
theorem doors_count_visits_iff (fmt : Rounding) (passes : List FinalDoorSD.Pass)
    (pulses : List Pulse) (start finish : FinalDoorSD.State)
    (other : SenseboxCodeDoor.State) (hready : FinalDoorSD.Ready start)
    (hstate : start.state = false) (hother : other.state = 0)
    (hrun : run (FinalDoorSD.loop fmt) passes start = some finish) :
    (FinalDoorSD.CountsVisits fmt passes start ↔
      passes.IsChain fun previous current =>
        ¬ FinalDoorSD.ranging.Confusing FinalDoorSD.distToPpl previous
          current) ∧
    (SenseboxCodeDoor.CountsVisits fmt pulses other ↔
      pulses.IsChain fun previous current =>
        ¬ (SenseboxCodeDoor.ranging fmt).Confusing
          SenseboxCodeDoor.nearDistance previous current) :=
  ⟨FinalDoorSD.countsVisits_iff hready hstate hrun,
    SenseboxCodeDoor.countsVisits_iff fmt pulses hother⟩

def FinalDoorSD.silentPass : FinalDoorSD.Pass :=
  { idlePass with sounding := { idlePass.sounding with polls := [30000] } }

/-- A visit with an upload in the middle of it, and one seen by three pulses. -/
theorem doors_count_visits_visit :
    FinalDoorSD.CountsVisits .exact FinalDoorSD.visit
        (FinalDoorSD.begun SD.emptyCard) ∧
      SenseboxCodeDoor.CountsVisits .exact [some 17648, some 5882, some 17648]
        SenseboxCodeDoor.begun := by
  obtain ⟨hdoor, hother⟩ := doors_count_visits_iff .exact FinalDoorSD.visit
    [some 17648, some 5882, some 17648] _ _ SenseboxCodeDoor.begun
    (FinalDoorSD.begun_ready _) rfl rfl
    (Option.some_get FinalDoorSD.visit_isSome).symm
  refine ⟨hdoor.mpr ?_, hother.mpr ?_⟩
  · simp only [FinalDoorSD.visit, List.isChain_cons_cons, List.IsChain.singleton,
      and_true]
    exact ⟨by unfold Ranging.Confusing; decide, by unfold Ranging.Confusing; decide⟩
  · simp only [List.isChain_cons_cons, List.IsChain.singleton, and_true]
    exact ⟨by unfold Ranging.Confusing; decide +kernel,
      by unfold Ranging.Confusing; decide +kernel⟩

/-- Nobody has been near, but the silence before the far echo is counted. -/
theorem silence_counted :
    (¬ ∀ (fmt : Rounding) (passes : List FinalDoorSD.Pass)
      (start finish : FinalDoorSD.State), FinalDoorSD.Ready start →
      start.state = false →
      (∀ pass ∈ passes, FinalDoorSD.ranging.heard pass = true →
        1 ≤ FinalDoorSD.distance pass) →
      run (FinalDoorSD.loop fmt) passes start = some finish →
      FinalDoorSD.CountsVisits fmt passes start) ∧
    (¬ ∀ (fmt : Rounding) (pulses : List Pulse)
      (start : SenseboxCodeDoor.State), start.state = 0 →
      (∀ pulse ∈ pulses, pulse.isSome = true → 1 ≤ pulseDistance fmt pulse) →
      SenseboxCodeDoor.CountsVisits fmt pulses start) := by
  refine ⟨?_, ?_⟩
  · intro hcounts
    have hfirst : ∀ pass ∈ [FinalDoorSD.silentPass, FinalDoorSD.idlePass],
        pass.check ≤ 60000 := by
      simp [FinalDoorSD.silentPass, FinalDoorSD.idlePass]
    obtain ⟨finish, hrun, -⟩ :=
      FinalDoorSD.run_first_minute .exact hfirst SD.emptyCard
    have hvisits := hcounts .exact _ _ finish (FinalDoorSD.begun_ready _) rfl
      (by decide) hrun _ finish (List.prefix_refl _) hrun
    rw [FinalDoorSD.run_counted (FinalDoorSD.begun_ready _) rfl hrun] at hvisits
    exact absurd hvisits (by decide)
  · intro hcounts
    have hreal : ∀ pulse ∈ [none, some 17648], pulse.isSome = true →
        1 ≤ pulseDistance .exact pulse := by
      intro pulse hpulse hsome
      rcases List.mem_pair.mp hpulse with rfl | rfl
      · cases hsome
      · decide +kernel
    have hvisits := hcounts .exact [none, some 17648] SenseboxCodeDoor.begun rfl
      hreal _ (List.prefix_refl _)
    exact absurd hvisits (by decide +kernel)

end SenseBox
