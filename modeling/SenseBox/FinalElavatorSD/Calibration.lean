import SenseBox.FinalElavatorSD.Startup
import SenseBox.TruthfulRows

namespace SenseBox.FinalElavatorSD

open SenseBox.Data
open SenseBox.Counter
open SenseBox.Device
open SenseBox.SD

/-! The threshold from the calibration ping, and the cabin it takes for empty. -/

/-- The distance of the calibration ping. -/
def wall (sounding : Sounding) : UInt16 :=
  convertCm (ping sensorMaxEchoTime sounding)

theorem wall_le (sounding : Sounding) : (wall sounding).toNat ≤ 1149 := by
  have htime := (ping sensorMaxEchoTime sounding).toNat_lt
  rw [wall, convertCm, UInt16.toNat_div]
  show _ / 57 ≤ 1149
  omega

/-- A wall nearer than 20 leaves a negative difference, and so the floor. -/
theorem margin_toInt (sounding : Sounding) :
    (wall sounding - 20).toInt16.toInt = ((wall sounding).toNat : Int) - 20 := by
  have hwall := wall_le sounding
  show (wall sounding - 20).toBitVec.toInt = _
  rw [BitVec.toInt_eq_toNat_bmod, UInt16.toNat_toBitVec, UInt16.toNat_sub]
  show Int.bmod (((2 ^ 16 - 20 + (wall sounding).toNat) % 2 ^ 16 : Nat) : Int)
    (2 ^ 16) = _
  rw [Int.bmod_def]
  split <;> omega

theorem calibrate_toInt (sounding : Sounding) :
    (calibrate sounding).toInt = max 250 ((wall sounding).toNat - 20) := by
  have hmargin := margin_toInt sounding
  have hfloor : (wall sounding - 20).toInt16 < 250 ↔
      ((wall sounding).toNat : Int) - 20 < 250 := by
    rw [Int16.lt_iff_toInt_lt, hmargin]
    rfl
  show (if (wall sounding - 20).toInt16 < 250 then 250
    else (wall sounding - 20).toInt16).toInt = _
  split
  · next hnear =>
    have := hfloor.mp hnear
    show (250 : Int) = _
    omega
  · next hfar =>
    have := mt hfloor.mpr hfar
    rw [hmargin]
    omega

theorem not_near_of_wall_le {sounding : Sounding} {distance : Int16}
    (hfar : max ((wall sounding).toNat : Int) 250 ≤ distance.toInt) :
    near (calibrate sounding) distance = false := by
  have hcalibrate := calibrate_toInt sounding
  rw [near, decide_eq_false_iff_not, Int16.lt_iff_toInt_lt, hcalibrate]
  omega

/-- Nothing in the cabin is nearer than the wall, or than the floor of the
threshold. -/
def EmptyCabin (sounding : Sounding) (passes : List Pass) : Prop :=
  ∀ pass ∈ passes, ∀ distance ∈ reading pass,
    max ((wall sounding).toNat : Int) 250 ≤ distance.toInt

theorem empty_cabin_uncounted (fmt : Rounding) {sounding : Sounding}
    {bmp : BMP280} {card : Volume} {passes : List Pass} {s : State}
    (hempty : EmptyCabin sounding passes)
    (hrun : run (loop fmt) passes (begun (calibrate sounding) bmp card) = some s) :
    s.state = false ∧ s.nbPeople = 0 := by
  have hidle := run_invariant
    (fun s : State => s.distMax = calibrate sounding ∧ s.state = false ∧
      s.nbPeople = 0) ?_ ⟨rfl, rfl, rfl⟩ hrun
  · exact hidle.2
  · rintro pass hpass start next ⟨hdist, hstate, hnb⟩ hloop
    have hpassed := loop_passed hloop
    have hlevel : level pass start = false := by
      rw [level, hdist, hstate]
      cases hreading : reading pass with
      | none => rfl
      | some distance =>
          exact not_near_of_wall_le (hempty pass hpass distance hreading)
    exact ⟨hpassed.distMax.trans hdist, hpassed.state.trans hlevel, by
      rw [hpassed.nbPeople, hstate, hnb]
      rfl⟩

/-- A cabin whose wall is 300 away, and a pass that sees the wall. -/
def wallPass : Pass :=
  { uploadPass with
    check := 50
    stored := 50
    sampled := 60 }

/-- The wall is seen before an upload and after it, and at the upload something
behind it. -/
def emptyPasses : List Pass :=
  [wallPass, { uploadPass with sounding := { quietSetup.sounding with finished := 19605 } },
    { wallPass with check := 60060, stored := 60060, sampled := 60070 }]

theorem emptyPasses_isSome :
    (run (loop .exact) emptyPasses
      (begun (calibrate quietSetup.sounding) .initial emptyCard)).isSome = true := by
  decide +kernel

theorem empty_cabin_wall : ∃ s,
    run (loop .exact) emptyPasses
        (begun (calibrate quietSetup.sounding) .initial emptyCard) = some s ∧
      s.uptime = 60002 ∧ s.state = false ∧ s.nbPeople = 0 := by
  have hrun := (Option.some_get emptyPasses_isSome).symm
  refine ⟨_, hrun, by decide +kernel, empty_cabin_uncounted .exact ?_ hrun⟩
  intro pass hpass distance hdistance
  have hfar : ∀ pass ∈ emptyPasses, ∃ distance, reading pass = some distance ∧
      max ((wall quietSetup.sounding).toNat : Int) 250 ≤ distance.toInt := by
    simp only [emptyPasses, List.forall_mem_cons, List.not_mem_nil]
    exact ⟨⟨300, by decide⟩, ⟨335, by decide⟩, ⟨300, by decide⟩, nofun⟩
  obtain ⟨other, hreading, hle⟩ := hfar pass hpass
  rw [hreading] at hdistance
  cases hdistance
  exact hle

/-- The echo of a wall 100 away, nearer than the floor of the threshold. -/
def nearWall : Sounding := { quietSetup.sounding with finished := 6205 }

theorem near_wall_counted :
    ¬ ∀ (fmt : Rounding) (sounding : Sounding) (bmp : BMP280) (card : Volume)
      (passes : List Pass) (s : State), 0 < wall sounding →
      (∀ pass ∈ passes, ∀ distance ∈ reading pass,
        ((wall sounding).toNat : Int) ≤ distance.toInt) →
      run (loop fmt) passes (begun (calibrate sounding) bmp card) = some s →
      s.state = false ∧ s.nbPeople = 0 := by
  intro hall
  have hfirst : ∀ pass ∈ [{ wallPass with sounding := nearWall }],
      pass.check ≤ 60000 := by
    simp [wallPass]
  obtain ⟨s, hrun, -⟩ := run_first_minute .exact hfirst (calibrate nearWall)
    .initial emptyCard
  have hstays := hall .exact nearWall .initial emptyCard _ s (by decide) ?_ hrun
  · rw [run_singleton] at hrun
    have hstate := (loop_passed hrun).state
    have hlevel : level { wallPass with sounding := nearWall }
        (begun (calibrate nearWall) .initial emptyCard) = true := by
      decide
    rw [hlevel, hstays.1] at hstate
    cases hstate
  · intro pass hpass distance hdistance
    obtain rfl := List.mem_singleton.mp hpass
    have hreading : reading { wallPass with sounding := nearWall } = some 100 := by
      decide
    rw [hreading] at hdistance
    cases hdistance
    decide

end SenseBox.FinalElavatorSD
