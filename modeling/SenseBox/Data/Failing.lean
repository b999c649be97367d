import Mathlib.Control.Monad.Basic
import Mathlib.Tactic.Common

namespace SenseBox.Data

/-! Computations on a state that may fail, and then leave what they have done so
far, with the rules of what holds when they end. -/

abbrev Failing (State Value : Type) := OptionT (StateM State) Value

/-- From the start the computation returns a value and a state with the first
property, or fails in a state with the second. -/
def Ends {State Value : Type} (program : Failing State Value) (start : State)
    (returned : Value → State → Prop) (failed : State → Prop) : Prop :=
  match program.run.run start with
  | (some value, finish) => returned value finish
  | (none, finish) => failed finish

section Rules

variable {State Value Other : Type} {start : State}

@[simp] theorem ends_pure (value : Value) {returned : Value → State → Prop}
    {failed : State → Prop} :
    Ends (pure value) start returned failed ↔ returned value start := Iff.rfl

@[simp] theorem ends_failure {returned : Value → State → Prop}
    {failed : State → Prop} :
    Ends failure start returned failed ↔ failed start := Iff.rfl

@[simp] theorem ends_get {returned : State → State → Prop}
    {failed : State → Prop} :
    Ends get start returned failed ↔ returned start start := Iff.rfl

@[simp] theorem ends_set (next : State) {returned : PUnit → State → Prop}
    {failed : State → Prop} :
    Ends (set next) start returned failed ↔ returned ⟨⟩ next := Iff.rfl

@[simp] theorem ends_modify (change : State → State)
    {returned : PUnit → State → Prop} {failed : State → Prop} :
    Ends (modify change) start returned failed ↔ returned ⟨⟩ (change start) :=
  Iff.rfl

theorem ends_bind {program : Failing State Value}
    {rest : Value → Failing State Other} {returned : Other → State → Prop}
    {failed : State → Prop} :
    Ends (program >>= rest) start returned failed ↔
      Ends program start
        (fun value finish => Ends (rest value) finish returned failed) failed := by
  unfold Ends
  simp only [OptionT.run_bind, Option.elimM, StateT.run_bind]
  cases h : program.run.run start with
  | mk value finish =>
    cases value with
    | none => rfl
    | some value => rfl

theorem Ends.imp {program : Failing State Value}
    {returned returned' : Value → State → Prop} {failed failed' : State → Prop}
    (hends : Ends program start returned failed)
    (hreturned : ∀ value finish, returned value finish → returned' value finish)
    (hfailed : ∀ finish, failed finish → failed' finish) :
    Ends program start returned' failed' := by
  unfold Ends at hends ⊢
  cases h : program.run.run start with
  | mk value finish =>
    rw [h] at hends
    cases value with
    | none => exact hfailed finish hends
    | some value => exact hreturned value finish hends

/-- The rest of a computation starts where its first part has ended. -/
theorem Ends.bind {program : Failing State Value}
    {rest : Value → Failing State Other} {middle : Value → State → Prop}
    {returned : Other → State → Prop} {failed failed' : State → Prop}
    (hends : Ends program start middle failed)
    (hrest : ∀ value finish, middle value finish →
      Ends (rest value) finish returned failed')
    (hfailed : ∀ finish, failed finish → failed' finish) :
    Ends (program >>= rest) start returned failed' :=
  ends_bind.mpr (hends.imp hrest hfailed)

/-- However it ends, something holds of it that holds in general. -/
theorem Ends.of_forall (program : Failing State Value) {returned : Value → State → Prop}
    {failed : State → Prop} (hreturned : ∀ value finish, returned value finish)
    (hfailed : ∀ finish, failed finish) : Ends program start returned failed := by
  unfold Ends
  cases h : program.run.run start with
  | mk value finish =>
    cases value with
    | none => exact hfailed finish
    | some value => exact hreturned value finish

/-- Two specifications of one computation. -/
theorem Ends.and {program : Failing State Value}
    {returned returned' : Value → State → Prop} {failed failed' : State → Prop}
    (hends : Ends program start returned failed)
    (hends' : Ends program start returned' failed') :
    Ends program start (fun value finish => returned value finish ∧ returned' value finish)
      (fun finish => failed finish ∧ failed' finish) := by
  unfold Ends at hends hends' ⊢
  cases h : program.run.run start with
  | mk value finish =>
    rw [h] at hends hends'
    cases value with
    | none => exact ⟨hends, hends'⟩
    | some value => exact ⟨hends, hends'⟩

theorem Ends.run_returned {program : Failing State Value} {returned : Value → State → Prop}
    (hends : Ends program start returned fun _ => False) :
    ∃ value finish, program.run.run start = (some value, finish) ∧ returned value finish := by
  unfold Ends at hends
  cases h : program.run.run start with
  | mk value finish =>
    rw [h] at hends
    cases value with
    | none => exact hends.elim
    | some value => exact ⟨value, finish, rfl, hends⟩

theorem Ends.run_failed {program : Failing State Value} {failed : State → Prop}
    (hends : Ends program start (fun _ _ => False) failed) :
    ∃ finish, program.run.run start = (none, finish) ∧ failed finish := by
  unfold Ends at hends
  cases h : program.run.run start with
  | mk value finish =>
    rw [h] at hends
    cases value with
    | none => exact ⟨finish, rfl, hends⟩
    | some value => exact hends.elim

/-- A computation leads from every state to one with this relation to it, however it
ends. -/
def Relates (relation : State → State → Prop) (program : Failing State Value) : Prop :=
  ∀ start, Ends program start (fun _ finish => relation start finish) (relation start)

section Relation

variable {relation : State → State → Prop}

theorem relates_pure (hrefl : ∀ state, relation state state) (value : Value) :
    Relates relation (pure value : Failing State Value) := hrefl

theorem relates_failure (hrefl : ∀ state, relation state state) :
    Relates relation (failure : Failing State Value) := hrefl

theorem Relates.bind (htrans : ∀ {first second third}, relation first second →
      relation second third → relation first third)
    {program : Failing State Value} {rest : Value → Failing State Other}
    (hprogram : Relates relation program) (hrest : ∀ value, Relates relation (rest value)) :
    Relates relation (program >>= rest) := by
  intro start
  apply (hprogram start).bind
  · intro value middle hmiddle
    apply (hrest value middle).imp
    · exact fun _ _ hfinish => htrans hmiddle hfinish
    · exact fun _ hfinish => htrans hmiddle hfinish
  · exact fun _ hfailed => hfailed

end Relation

/-- A computation on a part of the state. -/
def onPart {Whole Part Value : Type} (part : Whole → Part)
    (put : Whole → Part → Whole) (program : Failing Part Value) :
    Failing Whole Value :=
  OptionT.mk fun whole =>
    let (value, finish) := program.run.run (part whole)
    (value, put whole finish)

theorem run_onPart {Whole Part Value : Type} (part : Whole → Part)
    (put : Whole → Part → Whole) (program : Failing Part Value) (whole : Whole) :
    (onPart part put program).run.run whole =
      ((program.run.run (part whole)).1, put whole (program.run.run (part whole)).2) := rfl

theorem ends_onPart {Whole Part : Type} {part : Whole → Part}
    {put : Whole → Part → Whole} {program : Failing Part Value} {whole : Whole}
    {returned : Value → Whole → Prop} {failed : Whole → Prop} :
    Ends (onPart part put program) whole returned failed ↔
      Ends program (part whole) (fun value finish => returned value (put whole finish))
        (fun finish => failed (put whole finish)) := by
  unfold Ends
  cases h : program.run.run (part whole) with
  | mk value finish =>
    rw [run_onPart, h]
    cases value with
    | none => rfl
    | some value => rfl

/-! A computation as the step of a system, seen by its answer. -/

/-- The state that the computation leaves, where it ends with this answer. -/
def observe [DecidableEq Value] (program : Failing State Value) (answer : Option Value)
    (start : State) : Option State :=
  let (value, finish) := program.run.run start
  if value = answer then some finish else none

theorem observe_some_iff [DecidableEq Value] {program : Failing State Value}
    {answer : Option Value} {finish : State} :
    observe program answer start = some finish ↔
      program.run.run start = (answer, finish) := by
  unfold observe
  cases h : program.run.run start with
  | mk value last =>
    dsimp only
    rw [Prod.mk.injEq]
    split
    · next hvalue => exact ⟨fun hlast => ⟨hvalue, Option.some.inj hlast⟩,
        fun hboth => congrArg some hboth.2⟩
    · next hvalue => exact ⟨nofun, fun hboth => absurd hboth.1 hvalue⟩

theorem Ends.observed [DecidableEq Value] {program : Failing State Value}
    {returned : Value → State → Prop} {failed : State → Prop} {answer : Option Value}
    {finish : State} (hends : Ends program start returned failed)
    (hobserved : observe program answer start = some finish) :
    (∀ value, answer = some value → returned value finish) ∧
      (answer = none → failed finish) := by
  rw [observe_some_iff] at hobserved
  unfold Ends at hends
  rw [hobserved] at hends
  cases answer with
  | none => exact ⟨nofun, fun _ => hends⟩
  | some value =>
      refine ⟨fun other hother => ?_, nofun⟩
      cases hother
      exact hends

end Rules

end SenseBox.Data
