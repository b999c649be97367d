import SenseBox.FinalDoorSD.Log
import SenseBox.FinalElavatorSD.Startup

namespace SenseBox

open SenseBox.Data
open SenseBox.Counter

/-! The time and the count in a row of the two logs.  `uptime` is set at the end
of an upload, so a row carries the time of the row before it. -/

namespace FinalDoorSD

def timed (pass : Pass) : TimedPass where
  check := pass.check
  stored := pass.stored
  sampled := pass.sampled
  level := some (near distToPpl (distance pass))

def Follows (s : State) (logger : Logger) : Prop :=
  Ready s ∧ Shows logger s.uptime s.state s.nbPeople

theorem follows_begun (card : SD.Volume) : Follows (begun card) .start :=
  ⟨begun_ready card, rfl, rfl, rfl⟩

theorem loop_follows {fmt : Rounding} {pass : Pass} {s next : State}
    {logger : Logger} {rest : List TimedPass} (hfollows : Follows s logger)
    (hlogger : logger.Bounded) (htimed : Timed logger.last (timed pass :: rest))
    (hloop : loop fmt pass s = some next) :
    Follows next (logger.pass (timed pass)) := by
  have hpassed := loop_passed hfollows.1 hloop
  obtain ⟨hstate, hnb⟩ := hpassed.counter
  have hshows := hfollows.2.pass hlogger htimed
  refine ⟨hpassed.ready, ?_⟩
  rw [hstate, hnb, hpassed.uptime]
  exact hshows

theorem row_truthful {fmt : Rounding} {card : SD.Volume}
    {front back : List Pass} {s : State}
    (htimed : Timed 0 ((front ++ back).map timed))
    (hrun : run (loop fmt) front (begun card) = some s) :
    Truthful (handed s).uptime (handed s).nbPeople ((front ++ back).map timed) ↔
      UpToDate (handed s).uptime (front.map timed) := by
  obtain ⟨after, hafter, hfollows, hbounded, hrest⟩ :=
    follows (fun _ _ _ _ _ => loop_follows) (follows_begun card)
      Logger.bounded_start htimed hrun
  rw [List.map_append]
  exact hfollows.2.truthful_iff hafter hbounded hrest

end FinalDoorSD

namespace FinalElavatorSD

def timed (distMax : Int16) (pass : Pass) : TimedPass where
  check := pass.check
  stored := pass.stored
  sampled := pass.sampled
  level := (reading pass).map (near distMax)

def Follows (distMax : Int16) (s : State) (logger : Logger) : Prop :=
  s.distMax = distMax ∧ Shows logger s.uptime s.state s.nbPeople

theorem follows_begun (distMax : Int16) (bmp : Device.BMP280)
    (card : SD.Volume) : Follows distMax (begun distMax bmp card) .start :=
  ⟨rfl, rfl, rfl, rfl⟩

theorem loop_follows {fmt : Rounding} {distMax : Int16} {pass : Pass}
    {s next : State} {logger : Logger} {rest : List TimedPass}
    (hfollows : Follows distMax s logger) (hlogger : logger.Bounded)
    (htimed : Timed logger.last (timed distMax pass :: rest))
    (hloop : loop fmt pass s = some next) :
    Follows distMax next (logger.pass (timed distMax pass)) := by
  have hpassed := loop_passed hloop
  have hshows := hfollows.2.pass hlogger htimed
  refine ⟨hpassed.distMax.trans hfollows.1, ?_⟩
  rw [hpassed.state, hpassed.nbPeople, hpassed.uptime, level, hfollows.1]
  exact hshows

theorem row_truthful {fmt : Rounding} {distMax : Int16} {bmp : Device.BMP280}
    {card : SD.Volume} {front back : List Pass} {s : State}
    (htimed : Timed 0 ((front ++ back).map (timed distMax)))
    (hrun : run (loop fmt) front (begun distMax bmp card) = some s) :
    Truthful (handed s).uptime (handed s).nbPeople
        ((front ++ back).map (timed distMax)) ↔
      UpToDate (handed s).uptime (front.map (timed distMax)) := by
  obtain ⟨after, hafter, hfollows, hbounded, hrest⟩ :=
    follows (fun _ _ _ _ _ => loop_follows) (follows_begun distMax bmp card)
      Logger.bounded_start htimed hrun
  rw [List.map_append]
  exact hfollows.2.truthful_iff hafter hbounded hrest

end FinalElavatorSD

/-- A row of either log tells the truth about its time exactly when no visit
has been completed between that time and the writing of the row, and no more
have been completed at all than an `int` counts. -/
theorem rows_truthful_iff (fmt : Rounding) (card : SD.Volume) :
    (∀ (front back : List FinalDoorSD.Pass) (pass : FinalDoorSD.Pass)
      (s : FinalDoorSD.State),
      Timed 0 ((front ++ pass :: back).map FinalDoorSD.timed) →
      run (FinalDoorSD.loop fmt) front (FinalDoorSD.begun card) = some s →
      FinalDoorSD.due pass s = true →
      (Truthful (FinalDoorSD.handed s).uptime (FinalDoorSD.handed s).nbPeople
          ((front ++ pass :: back).map FinalDoorSD.timed) ↔
        UpToDate (FinalDoorSD.handed s).uptime
          (front.map FinalDoorSD.timed))) ∧
    (∀ (distMax : Int16) (bmp : Device.BMP280)
      (front back : List FinalElavatorSD.Pass) (pass : FinalElavatorSD.Pass)
      (s : FinalElavatorSD.State),
      Timed 0 ((front ++ pass :: back).map (FinalElavatorSD.timed distMax)) →
      run (FinalElavatorSD.loop fmt) front
        (FinalElavatorSD.begun distMax bmp card) = some s →
      FinalElavatorSD.due pass s = true →
      (Truthful (FinalElavatorSD.handed s).uptime
          (FinalElavatorSD.handed s).nbPeople
          ((front ++ pass :: back).map (FinalElavatorSD.timed distMax)) ↔
        UpToDate (FinalElavatorSD.handed s).uptime
          (front.map (FinalElavatorSD.timed distMax)))) :=
  ⟨fun _ _ _ _ htimed hrun _ => FinalDoorSD.row_truthful htimed hrun,
    fun _ _ _ _ _ _ htimed hrun _ =>
      FinalElavatorSD.row_truthful htimed hrun⟩

namespace FinalDoorSD

def farPass : Pass :=
  { idlePass with
    check := 110
    stored := 110
    sampled := 120 }

theorem timed_visit : Timed 0 (([nearPass, farPass] ++ [uploadPass]).map timed) := by
  simp [Timed, timed, nearPass, farPass, uploadPass, idlePass]

end FinalDoorSD

/-- A visit in the first minute is in the count of the first row, and not before
its time, which is that of the start. -/
theorem first_row_untruthful :
    ¬ ∀ (fmt : Rounding) (card : SD.Volume) (front back : List FinalDoorSD.Pass)
      (pass : FinalDoorSD.Pass) (s : FinalDoorSD.State),
      Timed 0 ((front ++ pass :: back).map FinalDoorSD.timed) →
      run (FinalDoorSD.loop fmt) front (FinalDoorSD.begun card) = some s →
      FinalDoorSD.due pass s = true →
      Truthful (FinalDoorSD.handed s).uptime (FinalDoorSD.handed s).nbPeople
        ((front ++ pass :: back).map FinalDoorSD.timed) := by
  intro htruthful
  have hfirst : ∀ pass ∈ [FinalDoorSD.nearPass, FinalDoorSD.farPass],
      pass.check ≤ 60000 := by
    simp [FinalDoorSD.nearPass, FinalDoorSD.farPass, FinalDoorSD.idlePass]
  obtain ⟨s, hrun, -, huptime⟩ :=
    FinalDoorSD.run_first_minute .exact hfirst SD.emptyCard
  have hrow := htruthful .exact SD.emptyCard _ [] _ s
    FinalDoorSD.timed_visit hrun (FinalDoorSD.due_uploadPass huptime)
  rw [FinalDoorSD.row_truthful FinalDoorSD.timed_visit hrun] at hrow
  have hlate : 120 ≤ s.uptime.toNat := hrow.1 120 (by decide)
  rw [huptime] at hlate
  exact absurd hlate (by decide)

def FinalElavatorSD.uploadPass : FinalElavatorSD.Pass where
  check := 60001
  stored := 60002
  sampled := 60003
  write := .ok
  readBack := FinalDoorSD.quietReadBack
  started := true
  data := none
  sounding := FinalElavatorSD.quietSetup.sounding

/-! A visit in the first minute, the first upload, and another a minute later. -/

namespace FinalDoorSD

def minute : List Pass := [nearPass, farPass, uploadPass]

def nextUpload : Pass :=
  { idlePass with
    check := 120010
    stored := 120020
    sampled := 120030 }

theorem minute_isSome :
    (run (loop .exact) minute (begun SD.emptyCard)).isSome = true := by
  decide +kernel

end FinalDoorSD

namespace FinalElavatorSD

def minute : List Pass :=
  [{ uploadPass with
      check := 50
      stored := 50
      sampled := 60
      started := true
      sounding := { quietSetup.sounding with finished := 6205 } },
    { uploadPass with
      check := 110
      stored := 110
      sampled := 120 },
    uploadPass]

def nextUpload : Pass :=
  { uploadPass with
    check := 120010
    stored := 120020
    sampled := 120030 }

theorem minute_isSome :
    (run (loop .exact) minute (begun 280 .initial SD.emptyCard)).isSome = true := by
  decide +kernel

end FinalElavatorSD

/-- The visit is in the rows of the second uploads, whose time is after it. -/
theorem rows_truthful_minute :
    (∃ s, run (FinalDoorSD.loop .exact) FinalDoorSD.minute
        (FinalDoorSD.begun SD.emptyCard) = some s ∧ s.nbPeople = 1 ∧
      Truthful (FinalDoorSD.handed s).uptime (FinalDoorSD.handed s).nbPeople
        ((FinalDoorSD.minute ++ [FinalDoorSD.nextUpload]).map
          FinalDoorSD.timed)) ∧
    (∃ s, run (FinalElavatorSD.loop .exact) FinalElavatorSD.minute
        (FinalElavatorSD.begun 280 .initial SD.emptyCard) = some s ∧
      s.nbPeople = 1 ∧
      Truthful (FinalElavatorSD.handed s).uptime
        (FinalElavatorSD.handed s).nbPeople
        ((FinalElavatorSD.minute ++ [FinalElavatorSD.nextUpload]).map
          (FinalElavatorSD.timed 280))) := by
  obtain ⟨hdoor, helevator⟩ := rows_truthful_iff .exact SD.emptyCard
  refine ⟨⟨_, (Option.some_get FinalDoorSD.minute_isSome).symm, by decide +kernel, ?_⟩,
    ⟨_, (Option.some_get FinalElavatorSD.minute_isSome).symm, by decide +kernel, ?_⟩⟩
  · refine (hdoor FinalDoorSD.minute [] FinalDoorSD.nextUpload _ ?_
      (Option.some_get FinalDoorSD.minute_isSome).symm (by decide +kernel)).mpr ?_
    · simp [Timed, FinalDoorSD.timed, FinalDoorSD.minute, FinalDoorSD.nextUpload,
        FinalDoorSD.nearPass, FinalDoorSD.farPass, FinalDoorSD.uploadPass,
        FinalDoorSD.idlePass]
    · unfold UpToDate
      decide +kernel
  · refine (helevator 280 .initial FinalElavatorSD.minute []
      FinalElavatorSD.nextUpload _ ?_
      (Option.some_get FinalElavatorSD.minute_isSome).symm (by decide +kernel)).mpr ?_
    · simp [Timed, FinalElavatorSD.timed, FinalElavatorSD.minute,
        FinalElavatorSD.nextUpload, FinalElavatorSD.uploadPass]
    · unfold UpToDate
      decide +kernel

end SenseBox
