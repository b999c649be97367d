import SenseBox.SDUltrasonSensor.Model

namespace SenseBox.SDUltrasonSensor

open SenseBox.Data
open SenseBox.SD

/-! The visits in the whole stream of distances, and those that are counted. -/

structure Visits where
  opened : Bool
  completed : Nat

namespace Visits

/-- A visit is opened by a reading strictly between 0 and 70, and completed by
the first later one above 70. -/
def observe (visits : Visits) (distance : Int16) : Visits :=
  if visits.opened then
    if distance > 70 then ⟨false, visits.completed + 1⟩ else visits
  else if distance < 70 && distance > 0 then { visits with opened := true }
  else visits

end Visits

def visits (stream : Nat → Int16) (taken : Nat) : Visits :=
  ((List.range taken).map stream).foldl Visits.observe ⟨false, 0⟩

theorem visits_succ (stream : Nat → Int16) (taken : Nat) :
    visits stream (taken + 1) = (visits stream taken).observe (stream taken) := by
  rw [visits, List.range_succ, List.map_append, List.foldl_append]
  rfl

def CountsVisits (stream : Nat → Int16) (base : Int16) (s : State) : Prop :=
  s.nbPeople = base + Int16.ofNat (visits stream s.taken).completed

/-- The first reading of a pass is dropped when somebody was already in front of
the sensor; it does no harm if the second is above 70 whenever the first is. -/
def SeenAgain (stream : Nat → Int16) (_ : WriteIo) (s : State) : Prop :=
  s.state = 1 → stream s.taken > 70 → stream (s.taken + 1) > 70

structure Matches (stream : Nat → Int16) (base : Int16) (s : State) : Prop where
  between : Between s
  opened : (visits stream s.taken).opened = (s.state == 1)
  counted : CountsVisits stream base s

variable {stream : Nat → Int16} {base : Int16} {io : WriteIo} {s next : State}

theorem matches_begun (stream : Nat → Int16) (base : Int16) (card : Volume) :
    Matches stream base (begun base card) where
  between := .inl rfl
  opened := rfl
  counted := (Int16.add_zero base).symm

/-- What the two readings of a pass do to the visits. -/
theorem visits_inFront (hmatches : Matches stream base s)
    (hfront : inFront stream s = true) :
    visits stream (s.taken + 2) =
      if s.state = 1 ∧ stream s.taken > 70 then
        Visits.observe ⟨false, (visits stream s.taken).completed + 1⟩
          (stream (s.taken + 1))
      else
        Visits.observe ⟨true, (visits stream s.taken).completed⟩
          (stream (s.taken + 1)) := by
  have hopened := hmatches.opened
  rw [visits_succ, visits_succ]
  generalize visits stream s.taken = before at hopened ⊢
  obtain ⟨opened, completed⟩ := before
  rcases hmatches.between with hzero | hone
  · have hnear : (stream s.taken < 70 && stream s.taken > 0) = true := by
      simpa [inFront, hzero] using hfront
    have hclosed : opened = false := by simpa [hzero] using hopened
    simp [Visits.observe, hclosed, hnear, hzero]
  · have hopen : opened = true := by simpa [hone] using hopened
    by_cases hfar : stream s.taken > 70
    · simp [Visits.observe, hopen, hone, hfar]
    · simp [Visits.observe, hopen, hone, hfar]

theorem visits_seen (hmatches : Matches stream base s)
    (hfront : inFront stream s = true) (hseen : SeenAgain stream io s) :
    visits stream (s.taken + 2) =
      if counts stream s then ⟨false, (visits stream s.taken).completed + 1⟩
      else ⟨true, (visits stream s.taken).completed⟩ := by
  rw [visits_inFront hmatches hfront, counts, hfront]
  by_cases hgone : s.state = 1 ∧ stream s.taken > 70
  · have hagain : stream (s.taken + 1) > 70 := hseen hgone.1 hgone.2
    have hnear : ¬ stream (s.taken + 1) < 70 := Int16.lt_asymm hagain
    simp [Visits.observe, hgone, hagain, hnear]
  · rw [if_neg hgone]
    by_cases hagain : stream (s.taken + 1) > 70
    · simp [Visits.observe, hagain]
    · simp [Visits.observe, hagain]

theorem visits_missed (hmatches : Matches stream base s)
    (hmissed : ¬ SeenAgain stream io s) :
    inFront stream s = true ∧ counts stream s = false ∧
      (visits stream (s.taken + 2)).completed =
        (visits stream s.taken).completed + 1 := by
  simp only [SeenAgain, Classical.not_imp] at hmissed
  obtain ⟨hone, hgone, hagain⟩ := hmissed
  have hfront : inFront stream s = true := by simp [inFront, hone]
  refine ⟨hfront, by simp [counts, hagain], ?_⟩
  rw [visits_inFront hmatches hfront, if_pos ⟨hone, hgone⟩]
  simp only [Visits.observe, Bool.false_eq_true, if_false]
  split <;> rfl

theorem visits_away (hmatches : Matches stream base s)
    (haway : inFront stream s = false) :
    visits stream (s.taken + 1) = visits stream s.taken := by
  rw [inFront, Bool.or_eq_false_iff] at haway
  have hclosed := hmatches.opened.trans haway.1
  rw [visits_succ, Visits.observe, hclosed, haway.2]
  rfl

theorem loop_matches (hmatches : Matches stream base s)
    (hseen : SeenAgain stream io s) (hloop : loop stream io s = some next) :
    Matches stream base next := by
  have hbetween := hmatches.between
  have hcounted := hmatches.counted
  rw [CountsVisits] at hcounted
  cases hfront : inFront stream s with
  | false =>
      have hsame := visits_away hmatches hfront
      rw [loop_away hbetween hfront] at hloop
      cases hloop
      exact ⟨hbetween, by rw [hsame, hmatches.opened],
        by rw [CountsVisits, hsame, hcounted]⟩
  | true =>
      have hvisits := visits_seen hmatches hfront hseen
      rw [loop_inFront hbetween hfront] at hloop
      cases hloop
      cases hcounts : counts stream s with
      | true =>
          rw [hcounts] at hvisits
          refine ⟨.inl rfl, by rw [if_pos rfl, hvisits]; rfl, ?_⟩
          rw [CountsVisits, if_pos rfl, hvisits, if_pos rfl, Int16.ofNat_add,
            ← Int16.add_assoc, ← hcounted]
          rfl
      | false =>
          rw [hcounts] at hvisits
          refine ⟨.inr rfl, by rw [if_neg (by simp), hvisits]; rfl, ?_⟩
          rw [CountsVisits, if_neg (by simp), hvisits, if_neg (by simp)]
          exact hcounted

theorem loop_misses (hmatches : Matches stream base s)
    (hmissed : ¬ SeenAgain stream io s) :
    ∃ next, loop stream io s = some next ∧ ¬ CountsVisits stream base next := by
  obtain ⟨hfront, hcounts, hcompleted⟩ := visits_missed hmatches hmissed
  have hcounted := hmatches.counted
  rw [CountsVisits] at hcounted
  refine ⟨_, loop_inFront hmatches.between hfront, ?_⟩
  rw [hcounts, if_neg (by simp), CountsVisits, hcompleted, hcounted,
    Int16.ofNat_add, Int16.add_right_inj]
  intro hsame
  have hzero : Int16.ofNat 1 = 0 := by
    rw [← Int16.add_right_inj (Int16.ofNat (visits stream s.taken).completed),
      ← hsame, Int16.add_zero]
  exact absurd hzero (by decide)

/-- After every pass of a run `nb_people` has counted the completed visits just
when no pass finds somebody gone in the reading that it drops and back in the
next. -/
theorem visits_counted_iff (stream : Nat → Int16) (base : Int16)
    (card : Volume) (passes : List WriteIo) :
    (∀ front back s, passes = front ++ back →
      run (loop stream) front (begun base card) = some s →
      CountsVisits stream base s) ↔
    Along (loop stream) (SeenAgain stream) passes (begun base card) :=
  always_iff_along (Matches stream base) (fun _ hmatches => hmatches.counted)
    (fun _ _ _ => loop_matches) (fun _ _ => loop_misses)
    (matches_begun stream base card)

/-- Somebody comes, is gone for one reading and is followed by another. -/
def shortGap (index : Nat) : Int16 := if index = 2 then 100 else 50

theorem short_gap_missed :
    ¬ ∀ (stream : Nat → Int16) (base : Int16) (card : Volume)
      (passes : List WriteIo) (s : State),
      run (loop stream) passes (begun base card) = some s →
      CountsVisits stream base s := by
  intro hall
  have hcounted := hall shortGap 0 emptyCard [.ok, .ok] _ rfl
  exact absurd hcounted (by unfold CountsVisits; decide)

end SenseBox.SDUltrasonSensor
