import SenseBox.Data.Failing

namespace SenseBox.Data

/-! Computations that ask an oracle at numbered places, one after the other. -/

section Local

variable {Query State Value Other : Type}

abbrev Oracle (Query : Type) := Nat → Query → Bool

/-- The answers at these places, and good ones at all others. -/
def Oracle.within (oracle : Oracle Query) (first last : Nat) : Oracle Query :=
  fun place query => oracle place query || !(first ≤ place && place < last)

theorem Oracle.within_inside (oracle : Oracle Query) {first last place : Nat}
    (hfirst : first ≤ place) (hlast : place < last) :
    oracle.within first last place = oracle place := by
  funext query
  simp [within, hfirst, hlast]

theorem Oracle.within_false_iff {oracle : Oracle Query} {first last place : Nat}
    {query : Query} : oracle.within first last place query = false ↔
      first ≤ place ∧ place < last ∧ oracle place query = false := by
  simp only [within, Bool.or_eq_false_iff, Bool.not_eq_false', Bool.and_eq_true,
    decide_eq_true_eq]
  exact ⟨fun ⟨hbad, hfirst, hlast⟩ => ⟨hfirst, hlast, hbad⟩,
    fun ⟨hfirst, hlast, hbad⟩ => ⟨hbad, hfirst, hlast⟩⟩

/-- The state counts the questions, and the computation depends on the answers to those
that it asks only. -/
def Local (count : State → Nat) (program : Oracle Query → Failing State Value) : Prop :=
  ∀ oracle start value finish, (program oracle).run.run start = (value, finish) →
    count start ≤ count finish ∧ ∀ oracle' : Oracle Query,
      (∀ place, count start ≤ place → place < count finish →
        oracle' place = oracle place) →
      (program oracle').run.run start = (value, finish)

variable {count : State → Nat}

/-- What is asked outside of a run does not matter for it. -/
theorem Local.within {program : Oracle Query → Failing State Value}
    (hlocal : Local count program) {oracle : Oracle Query} {start finish : State}
    {value : Option Value} (hrun : (program oracle).run.run start = (value, finish)) :
    (program (oracle.within (count start) (count finish))).run.run start =
      (value, finish) :=
  (hlocal oracle start value finish hrun).2 _ fun _ hfirst hlast =>
    oracle.within_inside hfirst hlast

/-- A computation that does not ask. -/
theorem Local.of_counted {program : Failing State Value}
    (hcounted : ∀ start, count start ≤ count (program.run.run start).2) :
    Local count fun _ : Oracle Query => program := by
  intro _ start value finish hrun
  refine ⟨?_, fun _ _ => hrun⟩
  have hcount := hcounted start
  rwa [hrun] at hcount

theorem local_pure (value : Value) :
    Local count fun _ : Oracle Query => (pure value : Failing State Value) :=
  .of_counted fun _ => Nat.le_refl _

theorem local_failure : Local count fun _ : Oracle Query => (failure : Failing State Value) :=
  .of_counted fun _ => Nat.le_refl _

theorem local_get : Local count fun _ : Oracle Query => (get : Failing State State) :=
  .of_counted fun _ => Nat.le_refl _

theorem local_modify {change : State → State}
    (hchange : ∀ state, count (change state) = count state) :
    Local count fun _ : Oracle Query => (modify change : Failing State PUnit) :=
  .of_counted fun start => Nat.le_of_eq (hchange start).symm

theorem run_bind_none {program : Failing State Value} {rest : Value → Failing State Other}
    {start finish : State} (hrun : program.run.run start = (none, finish)) :
    (program >>= rest).run.run start = (none, finish) := by
  simp only [OptionT.run_bind, Option.elimM, StateT.run_bind]
  rw [hrun]
  rfl

theorem run_bind_pure {program : Failing State Value} (change : Value → Other) (start : State) :
    (program >>= fun value => pure (change value)).run.run start =
      ((program.run.run start).1.map change, (program.run.run start).2) := by
  simp only [OptionT.run_bind, Option.elimM, StateT.run_bind]
  rcases program.run.run start with ⟨value, finish⟩
  cases value with
  | none => rfl
  | some value => rfl

theorem run_bind_some {program : Failing State Value} {rest : Value → Failing State Other}
    {start middle : State} {value : Value}
    (hrun : program.run.run start = (some value, middle)) :
    (program >>= rest).run.run start = (rest value).run.run middle := by
  simp only [OptionT.run_bind, Option.elimM, StateT.run_bind]
  rw [hrun]
  rfl

theorem Local.bind {program : Oracle Query → Failing State Value}
    {rest : Oracle Query → Value → Failing State Other} (hprogram : Local count program)
    (hrest : ∀ value, Local count fun oracle => rest oracle value) :
    Local count fun oracle => program oracle >>= rest oracle := by
  intro oracle start result finish hrun
  obtain ⟨value, middle, hfirst⟩ :
      ∃ value middle, (program oracle).run.run start = (value, middle) := ⟨_, _, rfl⟩
  obtain ⟨hcount, hsame⟩ := hprogram oracle start value middle hfirst
  cases value with
  | none =>
      rw [run_bind_none hfirst] at hrun
      cases hrun
      exact ⟨hcount, fun oracle' hagree => run_bind_none (hsame oracle' hagree)⟩
  | some value =>
      rw [run_bind_some hfirst] at hrun
      obtain ⟨hcount', hsame'⟩ := hrest value oracle middle result finish hrun
      refine ⟨Nat.le_trans hcount hcount', fun oracle' hagree => ?_⟩
      rw [run_bind_some (hsame oracle' fun place hfrom hto =>
        hagree place hfrom (Nat.lt_of_lt_of_le hto hcount'))]
      exact hsame' oracle' fun place hfrom hto =>
        hagree place (Nat.le_trans hcount hfrom) hto

theorem Local.ite {condition : Prop} [Decidable condition]
    {first second : Oracle Query → Failing State Value} (hfirst : Local count first)
    (hsecond : Local count second) :
    Local count fun oracle => if condition then first oracle else second oracle := by
  by_cases hcondition : condition
  · simpa only [if_pos hcondition] using hfirst
  · simpa only [if_neg hcondition] using hsecond

theorem Local.onPart {Whole : Type} {total : Whole → Nat} {part : Whole → State}
    {put : Whole → State → Whole} (htotal : ∀ whole, total whole = count (part whole))
    (hput : ∀ whole state, count (part (put whole state)) = count state)
    {program : Oracle Query → Failing State Value} (hprogram : Local count program) :
    Local total fun oracle => onPart part put (program oracle) := by
  intro oracle whole value finish hrun
  have hrun' : ∀ oracle, (Data.onPart part put (program oracle)).run.run whole =
      (((program oracle).run.run (part whole)).1,
        put whole ((program oracle).run.run (part whole)).2) := fun _ => rfl
  rw [hrun'] at hrun
  cases hpart : (program oracle).run.run (part whole) with
  | mk value' state =>
    rw [hpart] at hrun
    cases hrun
    obtain ⟨hcount, hsame⟩ := hprogram oracle (part whole) value' state hpart
    rw [htotal, htotal, hput]
    refine ⟨hcount, fun oracle' hagree => ?_⟩
    rw [hrun', hsame oracle' hagree]

end Local

end SenseBox.Data
