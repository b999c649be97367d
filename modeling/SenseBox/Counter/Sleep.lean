import SenseBox.Counter.Timeline
import Mathlib.Data.Nat.Find

namespace SenseBox.Counter

/-! Waiting on a clock that rolls over. -/

/-- The loop of `sleep` from a poll of `millis()` on, for as many polls as it is
given: the poll at which it returns, if it does. -/
def sleepLoop (ms start : UInt32) (polls : Nat → UInt32) : Nat → Nat → Option Nat
  | _, 0 => none
  | poll, fuel + 1 =>
      let now := polls poll
      let elapsed := now - start
      if elapsed ≥ ms then some poll
      else sleepLoop ms start polls (poll + 1) fuel

def sleep (ms start : UInt32) (polls : Nat → UInt32) (fuel : Nat) : Option Nat :=
  sleepLoop ms start polls 0 fuel

/-- It returns at the first poll whose difference to the start is no less than
the duration. -/
theorem sleepLoop_eq_some_iff {ms start : UInt32} {polls : Nat → UInt32}
    {poll fuel finish : Nat} :
    sleepLoop ms start polls poll fuel = some finish ↔
      (poll ≤ finish ∧ finish < poll + fuel) ∧ ms ≤ polls finish - start ∧
        ∀ earlier, poll ≤ earlier → earlier < finish →
          polls earlier - start < ms := by
  induction fuel generalizing poll with
  | zero =>
      rw [sleepLoop]
      constructor
      · intro hnone
        cases hnone
      · rintro ⟨⟨hfrom, hto⟩, -⟩
        omega
  | succ fuel ih =>
      rw [sleepLoop]
      split
      · next hdone =>
        constructor
        · intro hfinish
          cases hfinish
          exact ⟨⟨le_refl _, by omega⟩, hdone, by omega⟩
        · rintro ⟨⟨hfrom, -⟩, -, hwaiting⟩
          rcases hfrom.eq_or_lt with rfl | hlater
          · rfl
          · exact absurd hdone
              (UInt32.not_le.mpr (hwaiting poll (le_refl _) hlater))
      · next hwait =>
        rw [ih]
        constructor
        · rintro ⟨⟨hfrom, hto⟩, hdone, hwaiting⟩
          refine ⟨⟨by omega, by omega⟩, hdone, ?_⟩
          intro earlier hearlier hlt
          rcases hearlier.eq_or_lt with rfl | hlater
          · exact UInt32.not_le.mp hwait
          · exact hwaiting earlier hlater hlt
        · rintro ⟨⟨hfrom, hto⟩, hdone, hwaiting⟩
          have hpast : poll ≠ finish := by
            rintro rfl
            exact hwait hdone
          exact ⟨⟨by omega, by omega⟩, hdone,
            fun earlier hearlier => hwaiting earlier (by omega)⟩

/-! In true time: `polls` are the times of the polls. -/

theorem millis_sub_le {start now : Nat} (hle : start ≤ now) :
    (millis now - millis start).toNat ≤ now - start := by
  have hnow : (millis now).toNat = now % 2 ^ 32 := UInt32.toNat_ofNat'
  have hstart : (millis start).toNat = start % 2 ^ 32 := UInt32.toNat_ofNat'
  rw [UInt32.toNat_sub]
  omega

/-- The true times of the polls, which do not decrease. -/
structure Polled (start : Nat) (polls : Nat → Nat) : Prop where
  first : start ≤ polls 0
  later : ∀ poll, polls poll ≤ polls (poll + 1)

/-- Successive polls are close enough for the difference not to roll over
between the last poll that is too early and the next one. -/
structure Frequent (ms : UInt32) (start : Nat) (polls : Nat → Nat) : Prop where
  first : polls 0 < start + (2 ^ 32 - ms.toNat)
  later : ∀ poll, polls (poll + 1) < polls poll + (2 ^ 32 - ms.toNat)

theorem Polled.start_le {start : Nat} {polls : Nat → Nat}
    (hpolls : Polled start polls) (poll : Nat) : start ≤ polls poll := by
  induction poll with
  | zero => exact hpolls.first
  | succ poll ih => exact ih.trans (hpolls.later poll)

/-- The difference is the elapsed time up to the first poll at which the
duration is over. -/
theorem lt_wrap_of_waiting {ms : UInt32} {start : Nat} {polls : Nat → Nat}
    (hfrequent : Frequent ms start polls) {poll : Nat}
    (hwaiting : ∀ earlier, earlier < poll → polls earlier < start + ms.toNat) :
    polls poll < start + 2 ^ 32 := by
  have hms := ms.toNat_lt
  cases poll with
  | zero =>
      have hfirst := hfrequent.first
      omega
  | succ poll =>
      have hprevious := hwaiting poll (Nat.lt_succ_self poll)
      have hnext := hfrequent.later poll
      omega

/-- A `sleep` that never returns before its duration is over, and that, polled
often enough, returns at the first poll after that. -/
def WakesOnTime
    (sleep : UInt32 → UInt32 → (Nat → UInt32) → Nat → Option Nat) : Prop :=
  ∀ (ms : UInt32) (start : Nat) (polls : Nat → Nat), Polled start polls →
    (∀ fuel finish,
      sleep ms (millis start) (fun poll => millis (polls poll)) fuel =
        some finish → start + ms.toNat ≤ polls finish) ∧
    (Frequent ms start polls → (∀ time, ∃ poll, time ≤ polls poll) →
      ∃ finish, start + ms.toNat ≤ polls finish ∧
        (∀ earlier, earlier < finish → polls earlier < start + ms.toNat) ∧
        ∀ fuel, finish < fuel →
          sleep ms (millis start) (fun poll => millis (polls poll)) fuel =
            some finish)

theorem over_of_return {ms : UInt32} {start : Nat} {polls : Nat → Nat}
    (hpolls : Polled start polls) {fuel finish : Nat}
    (hreturn : sleep ms (millis start) (fun poll => millis (polls poll)) fuel =
      some finish) : start + ms.toNat ≤ polls finish := by
  obtain ⟨-, hdone, -⟩ := sleepLoop_eq_some_iff.mp hreturn
  have helapsed := UInt32.le_iff_toNat_le.mp hdone
  have hstart := hpolls.start_le finish
  have hless := millis_sub_le hstart
  omega

theorem return_of_over {ms : UInt32} {start : Nat} {polls : Nat → Nat}
    (hpolls : Polled start polls) (hfrequent : Frequent ms start polls)
    {finish : Nat} (hover : start + ms.toNat ≤ polls finish)
    (hwaiting : ∀ earlier, earlier < finish → polls earlier < start + ms.toNat)
    {fuel : Nat} (hfuel : finish < fuel) :
    sleep ms (millis start) (fun poll => millis (polls poll)) fuel =
      some finish := by
  refine sleepLoop_eq_some_iff.mpr ⟨⟨Nat.zero_le _, by omega⟩, ?_, ?_⟩
  · have hstart := hpolls.start_le finish
    have hwrap := lt_wrap_of_waiting hfrequent hwaiting
    rw [UInt32.le_iff_toNat_le, millis_sub hstart hwrap]
    omega
  · intro earlier _ hearlier
    have hms := ms.toNat_lt
    have hstart := hpolls.start_le earlier
    have hwait := hwaiting earlier hearlier
    rw [UInt32.lt_iff_toNat_lt, millis_sub hstart (by omega)]
    omega

theorem wakesOnTime_sleep : WakesOnTime sleep := by
  intro ms start polls hpolls
  refine ⟨fun fuel finish hreturn => over_of_return hpolls hreturn, ?_⟩
  intro hfrequent hgrows
  have hover := hgrows (start + ms.toNat)
  have hwaiting : ∀ earlier, earlier < Nat.find hover →
      polls earlier < start + ms.toNat :=
    fun earlier hearlier => Nat.lt_of_not_le (Nat.find_min hover hearlier)
  exact ⟨Nat.find hover, Nat.find_spec hover, hwaiting,
    fun fuel hfuel =>
      return_of_over hpolls hfrequent (Nat.find_spec hover) hwaiting hfuel⟩

end SenseBox.Counter

namespace SenseBox.SenseBoxIno

def sleep (ms start : UInt32) (polls : Nat → UInt32) (fuel : Nat) : Option Nat :=
  Counter.sleep ms start polls fuel

end SenseBox.SenseBoxIno

namespace SenseBox.SenseboxCodeElevator

def sleep (ms start : UInt32) (polls : Nat → UInt32) (fuel : Nat) : Option Nat :=
  Counter.sleep ms start polls fuel

end SenseBox.SenseboxCodeElevator

namespace SenseBox

/-- Both sketches sleep at least as long as asked, and wake up. -/
theorem sleeps_wake : Counter.WakesOnTime SenseBoxIno.sleep ∧
    Counter.WakesOnTime SenseboxCodeElevator.sleep :=
  ⟨Counter.wakesOnTime_sleep, Counter.wakesOnTime_sleep⟩

/-- Five milliseconds across the rollover, polled every other millisecond. -/
theorem sleeps_wake_rollover :
    ∃ finish, 2 ^ 32 - 3 + 5 ≤ 2 ^ 32 - 3 + 2 * finish ∧
      (∀ earlier, earlier < finish → 2 ^ 32 - 3 + 2 * earlier < 2 ^ 32 - 3 + 5) ∧
      ∀ fuel, finish < fuel →
        SenseBoxIno.sleep 5 (Counter.millis (2 ^ 32 - 3))
          (fun poll => Counter.millis (2 ^ 32 - 3 + 2 * poll)) fuel =
            some finish :=
  (sleeps_wake.1 5 (2 ^ 32 - 3) (fun poll => 2 ^ 32 - 3 + 2 * poll)
    ⟨by omega, by omega⟩).2
    ⟨by decide, fun poll => by
      show _ < 2 ^ 32 - 3 + 2 * poll + (2 ^ 32 - 5)
      omega⟩
    (fun time => ⟨time, by omega⟩)

end SenseBox
