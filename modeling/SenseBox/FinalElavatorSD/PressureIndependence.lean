import SenseBox.FinalElavatorSD.Startup

namespace SenseBox.FinalElavatorSD

open SenseBox.Data
open SenseBox.Counter
open SenseBox.Device

/-! Two runs of the elevator that differ in what the pressure sensor does. -/

structure SameCounter (one two : State) : Prop where
  distMax : one.distMax = two.distMax
  state : one.state = two.state
  nbPeople : one.nbPeople = two.nbPeople

def StartsDiffer (pair : Pass × Pass) : Prop :=
  pair.1.started ≠ pair.2.started

theorem pass_same_iff {fmt : Rounding} (pair : Pass × Pass)
    {one two oneNext twoNext : State} (hsame : SameCounter one two)
    (hdistance : distance pair.1.sounding = distance pair.2.sounding)
    (hone : loop fmt pair.1 one = some oneNext)
    (htwo : loop fmt pair.2 two = some twoNext) :
    SameCounter oneNext twoNext ↔ (StartsDiffer pair →
      near one.distMax (distance pair.1.sounding) = one.state) := by
  have hfirst := loop_passed hone
  have hsecond := loop_passed htwo
  have hlevels : level pair.1 one = level pair.2 two ↔ (StartsDiffer pair →
      near one.distMax (distance pair.1.sounding) = one.state) := by
    rw [level_eq, level_eq, ← hsame.distMax, ← hsame.state, ← hdistance]
    unfold StartsDiffer
    cases pair.1.started <;> cases pair.2.started <;> simp [eq_comm]
  rw [← hlevels]
  constructor
  · intro hnext
    rw [← hfirst.state, ← hsecond.state]
    exact hnext.state
  · intro hlevel
    refine ⟨?_, ?_, ?_⟩
    · rw [hfirst.distMax, hsecond.distMax, hsame.distMax]
    · rw [hfirst.state, hsecond.state, hlevel]
    · rw [hfirst.nbPeople, hsecond.nbPeople, hsame.state, hsame.nbPeople, hlevel]

def CountsAgree (fmt : Rounding) (pairs : List (Pass × Pass))
    (first second : State) : Prop :=
  ∀ front one two, front <+: pairs →
    run (loop fmt) (front.map Prod.fst) first = some one →
    run (loop fmt) (front.map Prod.snd) second = some two →
    SameCounter one two

/-- Wherever just one of the runs takes a reading, the distance is on the side
of `dist_max` that the state is on already. -/
def Harmless (fmt : Rounding) (pairs : List (Pass × Pass)) (first : State) :
    Prop :=
  ∀ front pair back one, pairs = front ++ pair :: back →
    run (loop fmt) (front.map Prod.fst) first = some one →
    StartsDiffer pair →
    near one.distMax (distance pair.1.sounding) = one.state

theorem run_concat {fmt : Rounding} {passes : List Pass} {pass : Pass}
    {start finish : State}
    (hrun : run (loop fmt) (passes ++ [pass]) start = some finish) :
    ∃ middle, run (loop fmt) passes start = some middle ∧
      loop fmt pass middle = some finish := by
  obtain ⟨middle, hmiddle, hlast⟩ := run_append_some hrun
  rw [run_singleton] at hlast
  exact ⟨middle, hmiddle, hlast⟩

theorem counts_agree_of_harmless {fmt : Rounding} {pairs : List (Pass × Pass)}
    {first second : State} (hsame : SameCounter first second)
    (hdistance : ∀ pair ∈ pairs,
      distance pair.1.sounding = distance pair.2.sounding)
    (hharmless : Harmless fmt pairs first) :
    CountsAgree fmt pairs first second := by
  intro front
  induction front using List.reverseRecOn with
  | nil =>
      intro one two _ hone htwo
      cases hone
      cases htwo
      exact hsame
  | append_singleton front pair ih =>
      intro one two hprefix hone htwo
      rw [List.map_append] at hone htwo
      obtain ⟨oneBefore, honeBefore, honeLast⟩ := run_concat hone
      obtain ⟨twoBefore, htwoBefore, htwoLast⟩ := run_concat htwo
      obtain ⟨back, hsplit⟩ := hprefix
      have hbefore : SameCounter oneBefore twoBefore :=
        ih oneBefore twoBefore ⟨pair :: back, by simp [← hsplit]⟩
          honeBefore htwoBefore
      refine (pass_same_iff pair hbefore (hdistance pair ?_) honeLast htwoLast).mpr ?_
      · rw [← hsplit]
        simp
      · exact hharmless front pair back oneBefore (by simp [← hsplit]) honeBefore

/-- Two complete runs of the elevator with the same distances count the same
exactly when every reading that only one of them takes is harmless. -/
theorem counts_agree_iff (fmt : Rounding) (pairs : List (Pass × Pass))
    (first second finishFirst finishSecond : State)
    (hsame : SameCounter first second)
    (hdistance : ∀ pair ∈ pairs,
      distance pair.1.sounding = distance pair.2.sounding)
    (hfirst : run (loop fmt) (pairs.map Prod.fst) first = some finishFirst)
    (hsecond : run (loop fmt) (pairs.map Prod.snd) second = some finishSecond) :
    CountsAgree fmt pairs first second ↔ Harmless fmt pairs first := by
  refine ⟨?_, counts_agree_of_harmless hsame hdistance⟩
  intro hagree front pair back one hsplit hone
  rw [hsplit] at hagree hdistance hfirst hsecond
  rw [List.map_append, List.map_cons] at hfirst hsecond
  obtain ⟨oneBefore, honeBefore, honeRest⟩ := run_append_some hfirst
  obtain ⟨twoBefore, htwoBefore, htwoRest⟩ := run_append_some hsecond
  obtain ⟨oneNext, honeNext, -⟩ := run_cons_some honeRest
  obtain ⟨twoNext, htwoNext, -⟩ := run_cons_some htwoRest
  cases honeBefore.symm.trans hone
  have hbefore := hagree front _ twoBefore (List.prefix_append ..)
    honeBefore htwoBefore
  have hafter := hagree (front ++ [pair]) oneNext twoNext ⟨back, by simp⟩
    (by rw [List.map_append, run_append, honeBefore]; simpa using honeNext)
    (by rw [List.map_append, run_append, htwoBefore]; simpa using htwoNext)
  exact (pass_same_iff pair hbefore (hdistance pair (by simp)) honeNext
    htwoNext).mp hafter

/-! Someone passes while the sensor of one run does not answer. -/

def quickPass (started : Bool) (finished : UInt32) : Pass where
  check := 50
  stored := 50
  sampled := 60
  write := .ok
  readBack := ⟨fun _ => .ok, fun _ => .ok, 0, .ok⟩
  started := started
  data := none
  sounding := { quietSetup.sounding with finished := finished }

def start : State := begun 280 .initial SD.emptyCard

theorem run_quick {passes : List Pass}
    (hquick : ∀ pass ∈ passes, pass.check = 50) :
    ∃ s, run (loop .exact) passes start = some s := by
  obtain ⟨s, hrun, -⟩ := run_first_minute .exact
    (fun pass hpass => by rw [hquick pass hpass]; decide) 280 .initial SD.emptyCard
  exact ⟨s, hrun⟩

/-- An upload, and a reading that only one of the runs takes. -/
def latePass (started : Bool) : Pass :=
  { quickPass started 6205 with
    check := 60001
    stored := 60002
    sampled := 60003
    readBack := ⟨fun _ => .ok, fun _ => .ok, 2 ^ 32, .ok⟩ }

def visitPairs : List (Pass × Pass) :=
  [(quickPass true 6205, quickPass true 6205), (latePass true, latePass false),
    ({ quickPass true 17605 with check := 60060, stored := 60060, sampled := 60070 },
      { quickPass true 17605 with check := 60060, stored := 60060, sampled := 60070 })]

theorem visitPairs_isSome :
    (run (loop .exact) (visitPairs.map Prod.fst) start).isSome = true ∧
      (run (loop .exact) (visitPairs.map Prod.snd) start).isSome = true := by
  decide +kernel

/-- The reading that one run does not take falls into the middle of a visit. -/
theorem counts_agree_visit : CountsAgree .exact visitPairs start start := by
  refine (counts_agree_iff .exact visitPairs start start _ _ ⟨rfl, rfl, rfl⟩ ?_
    (Option.some_get visitPairs_isSome.1).symm
    (Option.some_get visitPairs_isSome.2).symm).mpr ?_
  · simp [visitPairs, latePass, quickPass]
  · rintro front pair back s hsplit hrun hdiffer
    rcases front with _ | ⟨first, _ | ⟨second, _ | ⟨third, rest⟩⟩⟩
    · cases hsplit
      exact absurd rfl hdiffer
    · cases hsplit
      rw [List.map_singleton, run_singleton] at hrun
      have hpassed := loop_passed hrun
      rw [hpassed.distMax, hpassed.state]
      decide
    · cases hsplit
      exact absurd rfl hdiffer
    · simp [visitPairs] at hsplit

theorem visit_missed :
    ¬ ∀ (fmt : Rounding) (pairs : List (Pass × Pass))
      (first second finishFirst finishSecond : State),
      SameCounter first second →
      (∀ pair ∈ pairs, distance pair.1.sounding = distance pair.2.sounding) →
      run (loop fmt) (pairs.map Prod.fst) first = some finishFirst →
      run (loop fmt) (pairs.map Prod.snd) second = some finishSecond →
      CountsAgree fmt pairs first second := by
  intro hagree
  have hfirst : ∀ pass ∈ [quickPass true 6205, quickPass true 17605],
      pass.check = 50 := by
    simp [quickPass]
  have hsecond : ∀ pass ∈ [quickPass true 6205, quickPass false 17605],
      pass.check = 50 := by
    simp [quickPass]
  obtain ⟨one, hone⟩ := run_quick hfirst
  obtain ⟨two, htwo⟩ := run_quick hsecond
  have hsame := hagree .exact
    [(quickPass true 6205, quickPass true 6205),
      (quickPass true 17605, quickPass false 17605)]
    start start one two ⟨rfl, rfl, rfl⟩ (by simp [quickPass]) hone htwo _
    one two (List.prefix_refl _) hone htwo
  obtain ⟨near, hnear, honeLast⟩ := run_cons_some hone
  obtain ⟨twoNear, htwoNear, htwoLast⟩ := run_cons_some htwo
  obtain rfl : near = twoNear := Option.some.inj (hnear.symm.trans htwoNear)
  rw [run_singleton] at honeLast htwoLast
  have hfar := (pass_same_iff (quickPass true 17605, quickPass false 17605)
    ⟨rfl, rfl, rfl⟩ rfl honeLast htwoLast).mp hsame
  have hpassed := loop_passed hnear
  have hstate : near.state = true := by
    rw [hpassed.state]
    decide
  have hdistMax : near.distMax = 280 := hpassed.distMax
  rw [hstate, hdistMax] at hfar
  exact absurd (hfar (by simp [StartsDiffer, quickPass])) (by decide)

end SenseBox.FinalElavatorSD
