import Mathlib.Data.List.Infix

namespace SenseBox.Data

universe u v w x y

variable {State : Type u} {Input : Type v} {Model : Type w} {View : Type x}
  {Output : Type y}

/-! Runs of a partial step function: a run stops at the first input on which
the step is undefined. -/

def run (step : Input → State → Option State) :
    List Input → State → Option State
  | [], state => some state
  | input :: rest, state => (step input state).bind (run step rest)

theorem run_cons (step : Input → State → Option State)
    (input : Input) (rest : List Input) (state : State) :
    run step (input :: rest) state =
      (step input state).bind (run step rest) := rfl

@[simp] theorem run_singleton (step : Input → State → Option State)
    (input : Input) (state : State) :
    run step [input] state = step input state := by
  rw [run_cons]
  cases step input state <;> rfl

theorem run_append (step : Input → State → Option State)
    (first second : List Input) (state : State) :
    run step (first ++ second) state =
      (run step first state).bind (run step second) := by
  induction first generalizing state with
  | nil => rfl
  | cons input rest ih =>
      simp only [List.cons_append, run_cons, Option.bind_assoc]
      congr
      funext next
      exact ih next

theorem run_cons_some {step : Input → State → Option State}
    {input : Input} {rest : List Input} {start finish : State}
    (hrun : run step (input :: rest) start = some finish) :
    ∃ middle, step input start = some middle ∧
      run step rest middle = some finish :=
  Option.bind_eq_some_iff.mp hrun

theorem run_append_some {step : Input → State → Option State}
    {first second : List Input} {start finish : State}
    (hrun : run step (first ++ second) start = some finish) :
    ∃ middle, run step first start = some middle ∧
      run step second middle = some finish := by
  rw [run_append] at hrun
  exact Option.bind_eq_some_iff.mp hrun

/-! An invariant that every step keeps holds at the end of every run, and a
step that is defined wherever the invariant holds is defined along the run. -/

theorem run_invariant {step : Input → State → Option State}
    (Inv : State → Prop) {inputs : List Input}
    (hstep : ∀ input ∈ inputs, ∀ start finish,
      Inv start → step input start = some finish → Inv finish)
    {start finish : State} (hstart : Inv start)
    (hrun : run step inputs start = some finish) : Inv finish := by
  induction inputs generalizing start with
  | nil =>
      cases hrun
      exact hstart
  | cons input rest ih =>
      obtain ⟨middle, hfirst, hrest⟩ := run_cons_some hrun
      refine ih ?_ (hstep input (by simp) start middle hstart hfirst) hrest
      intro other member
      exact hstep other (by simp [member])

theorem run_defined {step : Input → State → Option State}
    (Inv : State → Prop) {inputs : List Input}
    (hstep : ∀ input ∈ inputs, ∀ start, Inv start →
      ∃ finish, step input start = some finish ∧ Inv finish)
    {start : State} (hstart : Inv start) :
    ∃ finish, run step inputs start = some finish ∧ Inv finish := by
  induction inputs generalizing start with
  | nil => exact ⟨start, rfl, hstart⟩
  | cons input rest ih =>
      obtain ⟨middle, hfirst, hmiddle⟩ :=
        hstep input (by simp) start hstart
      obtain ⟨finish, hrest, hfinish⟩ :=
        ih (fun other member => hstep other (by simp [member])) hmiddle
      refine ⟨finish, ?_, hfinish⟩
      rw [run_cons, hfirst]
      exact hrest

/-- Forward simulation: where every defined concrete step is matched by the
abstract step on the viewed input, so is every defined run. -/
theorem run_simulates {step : Input → State → Option State}
    (abstract : View → Model → Option Model)
    (Rel : State → Model → Prop) (view : Input → View)
    {inputs : List Input}
    (hstep : ∀ input ∈ inputs, ∀ start model finish, Rel start model →
      step input start = some finish →
      ∃ next, abstract (view input) model = some next ∧ Rel finish next)
    {start finish : State} {model : Model} (hstart : Rel start model)
    (hrun : run step inputs start = some finish) :
    ∃ next, run abstract (inputs.map view) model = some next ∧
      Rel finish next := by
  induction inputs generalizing start model with
  | nil =>
      cases hrun
      exact ⟨model, rfl, hstart⟩
  | cons input rest ih =>
      obtain ⟨middle, hfirst, hrest⟩ := run_cons_some hrun
      obtain ⟨next, habstract, hmiddle⟩ :=
        hstep input (by simp) start model middle hstart hfirst
      obtain ⟨last, hlast, hfinish⟩ :=
        ih (fun other member => hstep other (by simp [member])) hmiddle hrest
      refine ⟨last, ?_, hfinish⟩
      rw [List.map_cons, run_cons, habstract]
      exact hlast

theorem run_refines {step : Input → State → Option State}
    (next : Model → View → Model) (Rel : State → Model → Prop)
    (view : Input → View)
    (hstep : ∀ input start model, Rel start model →
      ∃ finish, step input start = some finish ∧
        Rel finish (next model (view input)))
    (inputs : List Input) {start : State} {model : Model}
    (hstart : Rel start model) :
    ∃ finish, run step inputs start = some finish ∧
      Rel finish ((inputs.map view).foldl next model) := by
  induction inputs generalizing start model with
  | nil => exact ⟨start, rfl, hstart⟩
  | cons input rest ih =>
      obtain ⟨middle, hfirst, hmiddle⟩ := hstep input start model hstart
      obtain ⟨finish, hrest, hfinish⟩ := ih hmiddle
      refine ⟨finish, ?_, hfinish⟩
      rw [run_cons, hfirst]
      exact hrest

/-! What the steps of a run put out.  A run that stops puts out no more. -/

def emitted (step : Input → State → Option State)
    (emit : Input → State → List Output) : List Input → State → List Output
  | [], _ => []
  | input :: rest, state =>
      emit input state ++
        ((step input state).map (emitted step emit rest)).getD []

@[simp] theorem emitted_nil (step : Input → State → Option State)
    (emit : Input → State → List Output) (state : State) :
    emitted step emit [] state = [] := rfl

theorem emitted_cons {step : Input → State → Option State}
    (emit : Input → State → List Output) {input : Input}
    {state next : State} (hstep : step input state = some next)
    (rest : List Input) :
    emitted step emit (input :: rest) state =
      emit input state ++ emitted step emit rest next := by
  rw [emitted, hstep]
  rfl

theorem emitted_append {step : Input → State → Option State}
    (emit : Input → State → List Output) {first : List Input}
    {start middle : State} (hrun : run step first start = some middle)
    (second : List Input) :
    emitted step emit (first ++ second) start =
      emitted step emit first start ++ emitted step emit second middle := by
  induction first generalizing start with
  | nil =>
      cases hrun
      rfl
  | cons input rest ih =>
      obtain ⟨next, hfirst, hrest⟩ := run_cons_some hrun
      rw [List.cons_append, emitted_cons emit hfirst, emitted_cons emit hfirst,
        ih hrest, List.append_assoc]

/-! What holds at every step of a run. -/

def Along (step : Input → State → Option State)
    (good : Input → State → Prop) : List Input → State → Prop
  | [], _ => True
  | input :: rest, state =>
      good input state ∧
        ∀ next, step input state = some next → Along step good rest next

theorem along_iff {step : Input → State → Option State}
    {good : Input → State → Prop} {inputs : List Input} {start : State} :
    Along step good inputs start ↔
      ∀ front input back state, inputs = front ++ input :: back →
        run step front start = some state → good input state := by
  induction inputs generalizing start with
  | nil => simp [Along]
  | cons head tail ih =>
      simp only [Along, ih]
      constructor
      · rintro ⟨hhead, htail⟩ front input back state hsplit hrun
        cases front with
        | nil =>
            cases hsplit
            cases hrun
            exact hhead
        | cons first front =>
            cases hsplit
            obtain ⟨middle, hfirst, hrest⟩ := run_cons_some hrun
            exact htail middle hfirst front input back state rfl hrest
      · intro hall
        refine ⟨hall [] head tail start rfl rfl, ?_⟩
        intro next hnext front input back state hsplit hrun
        refine hall (head :: front) input back state (by rw [hsplit]; rfl) ?_
        rw [run_cons, hnext]
        exact hrun

theorem Along.imp {step : Input → State → Option State} (Inv : State → Prop)
    {good other : Input → State → Prop}
    (hkeep : ∀ input state next, Inv state → step input state = some next →
      Inv next)
    (himp : ∀ input state, Inv state → good input state → other input state)
    {inputs : List Input} {start : State} (hstart : Inv start)
    (hgood : Along step good inputs start) : Along step other inputs start := by
  induction inputs generalizing start with
  | nil => trivial
  | cons input rest ih =>
      refine ⟨himp input start hstart hgood.1, ?_⟩
      intro next hnext
      exact ih (hkeep input start next hstart hnext) (hgood.2 next hnext)

theorem along_of_invariant {step : Input → State → Option State}
    (Inv : State → Prop) {good : Input → State → Prop}
    (hkeep : ∀ input state next, Inv state → step input state = some next →
      Inv next)
    (hgood : ∀ input state, Inv state → good input state)
    {inputs : List Input} {start : State} (hstart : Inv start) :
    Along step good inputs start := by
  have hnothing : Along step (fun _ _ => True) inputs start :=
    along_iff.mpr fun _ _ _ _ _ _ => trivial
  exact hnothing.imp Inv hkeep (fun input state hinv _ => hgood input state hinv)
    hstart

theorem along_congr {step : Input → State → Option State}
    (Inv : State → Prop) {good other : Input → State → Prop}
    (hkeep : ∀ input state next, Inv state → step input state = some next →
      Inv next)
    (hiff : ∀ input state, Inv state → (good input state ↔ other input state))
    {inputs : List Input} {start : State} (hstart : Inv start) :
    Along step good inputs start ↔ Along step other inputs start := by
  constructor
  · exact Along.imp Inv hkeep (fun input state hinv => (hiff input state hinv).mp)
      hstart
  · exact Along.imp Inv hkeep (fun input state hinv => (hiff input state hinv).mpr)
      hstart

/-- A law that the invariant gives holds at the end of every prefix exactly when
every step is one that keeps the invariant, if any other breaks the law. -/
theorem always_iff_along {step : Input → State → Option State}
    (Inv : State → Prop) {law : State → Prop} {good : Input → State → Prop}
    (hlaw : ∀ state, Inv state → law state)
    (hkeep : ∀ input state next, Inv state → good input state →
      step input state = some next → Inv next)
    (hbreak : ∀ input state, Inv state → ¬ good input state →
      ∃ next, step input state = some next ∧ ¬ law next)
    {inputs : List Input} {start : State} (hstart : Inv start) :
    (∀ front back state, inputs = front ++ back →
      run step front start = some state → law state) ↔
      Along step good inputs start := by
  induction inputs generalizing start with
  | nil =>
      refine ⟨fun _ => trivial, ?_⟩
      intro _ front back state hsplit hrun
      obtain rfl := (List.append_eq_nil_iff.mp hsplit.symm).1
      cases hrun
      exact hlaw start hstart
  | cons input rest ih =>
      constructor
      · intro hall
        have hgood : good input start := by
          by_contra hbad
          obtain ⟨next, hstep, hbroken⟩ := hbreak input start hstart hbad
          refine hbroken (hall [input] rest next rfl ?_)
          rw [run_singleton]
          exact hstep
        refine ⟨hgood, ?_⟩
        intro next hstep
        refine (ih (hkeep input start next hstart hgood hstep)).mp ?_
        intro front back state hsplit hrun
        refine hall (input :: front) back state (by rw [hsplit]; rfl) ?_
        rw [run_cons, hstep]
        exact hrun
      · rintro ⟨hgood, halong⟩ front back state hsplit hrun
        cases front with
        | nil =>
            cases hrun
            exact hlaw start hstart
        | cons first front =>
            cases hsplit
            obtain ⟨middle, hstep, hrest⟩ := run_cons_some hrun
            exact (ih (hkeep _ start middle hstart hgood hstep)).mpr
              (halong middle hstep) front back state rfl hrest

end SenseBox.Data
