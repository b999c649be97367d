import SenseBox.Data.Run
import Mathlib.Algebra.Group.Nat.Defs
import Mathlib.Data.List.Basic
import Mathlib.Tactic.Common

namespace SenseBox.Counter

open SenseBox.Data

/-! Loops that count visits and log the count once a minute, in true time. -/

/-- `millis()` at a time in milliseconds since the program began. -/
def millis (time : Nat) : UInt32 := UInt32.ofNat time

/-- One pass: the times of the upload condition, of the end of an upload and of
the reading, and the level of the reading, if there is one. -/
structure TimedPass where
  check : Nat
  stored : Nat
  sampled : Nat
  level : Option Bool

/-- Each pass begins with a delay of 50 milliseconds, and the last one is over
before `millis()` rolls over. -/
def Timed : Nat → List TimedPass → Prop
  | _, [] => True
  | now, pass :: rest =>
      (now + 50 ≤ pass.check ∧ pass.check ≤ pass.stored ∧
        pass.stored ≤ pass.sampled ∧ pass.sampled < 2 ^ 32) ∧
      Timed pass.sampled rest

/-- The end of the last pass and of the last upload, the level of the last
reading, and the times at which visits were completed. -/
structure Logger where
  last : Nat
  uptime : Nat
  near : Bool
  completions : List Nat

namespace Logger

def start : Logger := ⟨0, 0, false, []⟩

def uploads (logger : Logger) (pass : TimedPass) : Bool :=
  pass.check - logger.uptime > 60000

def pass (logger : Logger) (pass : TimedPass) : Logger :=
  let level := pass.level.getD logger.near
  { last := pass.sampled
    uptime := if logger.uploads pass then pass.stored else logger.uptime
    near := level
    completions :=
      if logger.near && !level then pass.sampled :: logger.completions
      else logger.completions }

def after (passes : List TimedPass) : Logger := passes.foldl Logger.pass start

end Logger

def completions (passes : List TimedPass) : List Nat :=
  (Logger.after passes).completions

def visitsUpTo (time : Nat) (passes : List TimedPass) : Nat :=
  (completions passes).countP (· ≤ time)

def Truthful (uptime : UInt32) (nbPeople : Int16) (passes : List TimedPass) :
    Prop :=
  nbPeople.toInt = visitsUpTo uptime.toNat passes

/-- None of the visits of the passes before a row has been completed after the
row's time, and there are no more than an `int` counts. -/
def UpToDate (uptime : UInt32) (before : List TimedPass) : Prop :=
  (∀ time ∈ completions before, time ≤ uptime.toNat) ∧
    (completions before).length ≤ 32767

namespace Logger

/-- Nothing lies after the last pass, and the passes since the last upload are
as few as fit into a minute. -/
structure Bounded (logger : Logger) : Prop where
  fits : logger.last < 2 ^ 32
  uptime : logger.uptime ≤ logger.last
  past : ∀ time ∈ logger.completions, time ≤ logger.last
  late : ∃ passes,
    logger.completions.countP (logger.uptime < ·) ≤ passes + 1 ∧
      logger.uptime + 50 * passes ≤ logger.last ∧ passes ≤ 1200

theorem bounded_start : start.Bounded where
  fits := by decide
  uptime := Nat.le_refl _
  past := by simp [start]
  late := ⟨0, by decide⟩

theorem mem_completions_pass {logger : Logger} {timed : TimedPass} {time : Nat}
    (htime : time ∈ (logger.pass timed).completions) :
    time = timed.sampled ∨ time ∈ logger.completions := by
  simp only [Logger.pass] at htime
  split at htime
  · exact List.mem_cons.mp htime
  · exact .inr htime

theorem countP_pass_le (logger : Logger) (timed : TimedPass) (time : Nat) :
    (logger.pass timed).completions.countP (time < ·) ≤
      logger.completions.countP (time < ·) + 1 := by
  simp only [Logger.pass]
  split
  · rw [List.countP_cons]
    split <;> omega
  · omega

/-- An upload leaves the visits of its own pass, and a pass without one comes at
least 50 milliseconds after the one before and at most a minute after the last
upload. -/
theorem Bounded.late_pass {logger : Logger} (hlogger : logger.Bounded)
    {timed : TimedPass} {rest : List TimedPass}
    (htimed : Timed logger.last (timed :: rest)) :
    ∃ passes,
      (logger.pass timed).completions.countP ((logger.pass timed).uptime < ·) ≤
        passes + 1 ∧
      (logger.pass timed).uptime + 50 * passes ≤ timed.sampled ∧
        passes ≤ 1200 := by
  obtain ⟨⟨hdelay, hstored, hsampled, -⟩, -⟩ := htimed
  by_cases hdue : logger.uploads timed = true
  · have huptime : (logger.pass timed).uptime = timed.stored := by
      simp [Logger.pass, hdue]
    have hnone : logger.completions.countP (timed.stored < ·) = 0 := by
      rw [List.countP_eq_zero]
      intro time htime
      have := hlogger.past time htime
      simp only [decide_eq_true_eq]
      omega
    have hone := countP_pass_le logger timed timed.stored
    rw [huptime]
    exact ⟨0, by omega, hsampled, by omega⟩
  · have huptime : (logger.pass timed).uptime = logger.uptime := by
      simp [Logger.pass, hdue]
    have hwait : timed.check - logger.uptime ≤ 60000 := by
      simpa [uploads] using hdue
    obtain ⟨passes, hlate, hspan, -⟩ := hlogger.late
    have hone := countP_pass_le logger timed logger.uptime
    rw [huptime]
    exact ⟨passes + 1, by omega, by omega, by omega⟩

theorem Bounded.pass {logger : Logger} (hlogger : logger.Bounded)
    {timed : TimedPass} {rest : List TimedPass}
    (htimed : Timed logger.last (timed :: rest)) :
    (logger.pass timed).Bounded := by
  have hlate := hlogger.late_pass htimed
  obtain ⟨⟨hdelay, hstored, hsampled, hfits⟩, -⟩ := htimed
  refine ⟨hfits, ?_, ?_, hlate⟩
  · have := hlogger.uptime
    simp only [Logger.pass]
    split <;> omega
  · intro time htime
    rcases mem_completions_pass htime with rfl | hold
    · exact Nat.le_refl _
    · have := hlogger.past time hold
      show time ≤ timed.sampled
      omega

theorem countP_foldl {logger : Logger} {time : Nat} (htime : time ≤ logger.last)
    {passes : List TimedPass} (htimed : Timed logger.last passes) :
    (passes.foldl Logger.pass logger).completions.countP (· ≤ time) =
      logger.completions.countP (· ≤ time) := by
  induction passes generalizing logger with
  | nil => rfl
  | cons timed rest ih =>
      obtain ⟨⟨hdelay, hstored, hsampled, -⟩, hrest⟩ := htimed
      rw [List.foldl_cons, ih (by simp only [Logger.pass]; omega) hrest]
      simp only [Logger.pass]
      split
      · rw [List.countP_cons_of_neg]
        simp only [decide_eq_true_eq]
        omega
      · rfl

/-- A 16-bit counter of the completed visits shows the visits up to the last
upload exactly when none has been completed since and the counter has not
wrapped. -/
theorem Bounded.truthful {logger : Logger} (hlogger : logger.Bounded) :
    (Int16.ofNat logger.completions.length).toInt =
        logger.completions.countP (· ≤ logger.uptime) ↔
      (∀ time ∈ logger.completions, time ≤ logger.uptime) ∧
        logger.completions.length ≤ 32767 := by
  have hsplit : logger.completions.length =
      logger.completions.countP (· ≤ logger.uptime) +
        logger.completions.countP (logger.uptime < ·) := by
    rw [List.length_eq_countP_add_countP (· ≤ logger.uptime)]
    simp
  have hall : (∀ time ∈ logger.completions, time ≤ logger.uptime) ↔
      logger.completions.countP (logger.uptime < ·) = 0 := by
    simp [List.countP_eq_zero]
  obtain ⟨passes, hlate, -, hfew⟩ := hlogger.late
  rw [Int16.toInt_ofNat', hall, Int.bmod_def]
  simp only [Int16.size]
  split <;> omega

end Logger

/-! Sketches that carry out the logger with the clock and the counter of the
board. -/

/-- The difference of two readings of `millis()` is that of their times while it
is less than one period of the clock, whatever rolls over in between. -/
theorem millis_sub {earlier later : Nat} (hle : earlier ≤ later)
    (hfits : later < earlier + 2 ^ 32) :
    (millis later - millis earlier).toNat = later - earlier := by
  have hearlier : (millis earlier).toNat = earlier % 2 ^ 32 :=
    UInt32.toNat_ofNat'
  have hlater : (millis later).toNat = later % 2 ^ 32 := UInt32.toNat_ofNat'
  rw [UInt32.toNat_sub, hearlier, hlater]
  omega

theorem not_due_first_minute {check : Nat} (hcheck : check ≤ 60000) :
    decide (millis check - 0 > 60000) = false := by
  have hmillis : (millis check).toNat = check :=
    UInt32.toNat_ofNat_of_lt' (by simp only [UInt32.size]; omega)
  rw [UInt32.sub_zero, decide_eq_false_iff_not, UInt32.not_lt,
    UInt32.le_iff_toNat_le, hmillis]
  exact hcheck

structure Shows (logger : Logger) (uptime : UInt32) (state : Bool)
    (nbPeople : Int16) : Prop where
  uptime : uptime = millis logger.uptime
  state : state = logger.near
  nbPeople : nbPeople = Int16.ofNat logger.completions.length

namespace Shows

variable {logger : Logger} {uptime : UInt32} {state : Bool} {nbPeople : Int16}

theorem uptime_toNat (hshows : Shows logger uptime state nbPeople)
    (hlogger : logger.Bounded) : uptime.toNat = logger.uptime := by
  have hbefore := hlogger.uptime
  have hfits := hlogger.fits
  rw [hshows.uptime]
  exact UInt32.toNat_ofNat_of_lt' (by simp only [UInt32.size]; omega)

theorem due (hshows : Shows logger uptime state nbPeople)
    (hlogger : logger.Bounded) {timed : TimedPass} {rest : List TimedPass}
    (htimed : Timed logger.last (timed :: rest)) :
    decide (millis timed.check - uptime > 60000) = logger.uploads timed := by
  obtain ⟨⟨hdelay, hstored, hsampled, hfits⟩, -⟩ := htimed
  have huptime := hlogger.uptime
  have hwait := millis_sub (show logger.uptime ≤ timed.check by omega)
    (show timed.check < logger.uptime + 2 ^ 32 by omega)
  rw [hshows.uptime, Logger.uploads, decide_eq_decide]
  show (60000 : UInt32) < _ ↔ _
  rw [UInt32.lt_iff_toNat_lt, hwait]
  rfl

theorem pass (hshows : Shows logger uptime state nbPeople)
    (hlogger : logger.Bounded) {timed : TimedPass} {rest : List TimedPass}
    (htimed : Timed logger.last (timed :: rest)) :
    Shows (logger.pass timed)
      (if decide (millis timed.check - uptime > 60000) then millis timed.stored
        else uptime)
      (timed.level.getD state)
      (if state && !timed.level.getD state then nbPeople + 1 else nbPeople) := by
  rw [hshows.due hlogger htimed]
  refine ⟨?_, ?_, ?_⟩
  · simp only [Logger.pass]
    split
    · rfl
    · exact hshows.uptime
  · rw [hshows.state]
    rfl
  · rw [hshows.state, hshows.nbPeople]
    simp only [Logger.pass]
    split
    · rw [List.length_cons, Int16.ofNat_add]
      rfl
    · rfl

end Shows

section Follows

variable {Pass State : Type*} {loop : Pass → State → Option State}
  {timed : Pass → TimedPass} {Rel : State → Logger → Prop}

theorem follows
    (hstep : ∀ pass s next logger rest, Rel s logger → logger.Bounded →
      Timed logger.last (timed pass :: rest) → loop pass s = some next →
      Rel next (logger.pass (timed pass)))
    {front back : List Pass} {start finish : State} {logger : Logger}
    (hrel : Rel start logger) (hlogger : logger.Bounded)
    (htimed : Timed logger.last ((front ++ back).map timed))
    (hrun : run loop front start = some finish) :
    ∃ after, after = (front.map timed).foldl Logger.pass logger ∧
      Rel finish after ∧ after.Bounded ∧ Timed after.last (back.map timed) := by
  induction front generalizing start logger with
  | nil =>
      cases hrun
      exact ⟨logger, rfl, hrel, hlogger, htimed⟩
  | cons pass front ih =>
      obtain ⟨middle, hloop, hrest⟩ := run_cons_some hrun
      rw [List.cons_append, List.map_cons] at htimed
      exact ih (hstep pass start middle logger _ hrel hlogger htimed hloop)
        (hlogger.pass htimed) htimed.2 hrest

end Follows

theorem Shows.truthful_iff {before after : List TimedPass} {logger : Logger}
    {uptime : UInt32} {state : Bool} {nbPeople : Int16}
    (hlast : logger = Logger.after before)
    (hshows : Shows logger uptime state nbPeople) (hlogger : logger.Bounded)
    (htimed : Timed logger.last after) :
    Truthful uptime nbPeople (before ++ after) ↔ UpToDate uptime before := by
  have hpast : visitsUpTo uptime.toNat (before ++ after) =
      logger.completions.countP (· ≤ logger.uptime) := by
    rw [visitsUpTo, completions, hshows.uptime_toNat hlogger, Logger.after,
      List.foldl_append, ← Logger.after, ← hlast]
    exact Logger.countP_foldl hlogger.uptime htimed
  rw [Truthful, UpToDate, completions, ← hlast, hpast,
    hshows.uptime_toNat hlogger, hshows.nbPeople]
  exact hlogger.truthful

end SenseBox.Counter
