import SenseBox.Counter.Timeline
import Mathlib.Data.List.Chain

namespace SenseBox.Counter

open SenseBox.Data

/-! Sketches that upload when their last upload is more than a minute old, on a
clock that rolls over any number of times. -/

/-- The times of one evaluation of the upload condition and, if it held, of the
end of the upload. -/
structure Evaluation where
  check : Nat
  stored : Nat

/-- The end of the last of the uploads, or the start. -/
def lastEnd (uploads : List Evaluation) : Nat :=
  (uploads.getLast?.map Evaluation.stored).getD 0

@[simp] theorem lastEnd_nil : lastEnd [] = 0 := rfl

@[simp] theorem lastEnd_concat (uploads : List Evaluation)
    (upload : Evaluation) : lastEnd (uploads ++ [upload]) = upload.stored := by
  simp [lastEnd]

namespace Evaluation

def InOrder : Nat → List Evaluation → Prop
  | _, [] => True
  | now, evaluation :: rest =>
      (now ≤ evaluation.check ∧ evaluation.check ≤ evaluation.stored) ∧
        InOrder evaluation.stored rest

def Close (previous next : Evaluation) : Prop :=
  next.check < previous.check + (2 ^ 32 - 60001)

/-- The clock has not rolled over before the first evaluation. -/
def Prompt (evaluations : List Evaluation) : Prop :=
  ∀ first ∈ evaluations.head?, first.check < 2 ^ 32

def Apart (earlier later : Evaluation) : Prop :=
  earlier.stored + 60000 < later.check

/-- The first evaluation is before the limit, and each limits the next. -/
def Within : Nat → List Evaluation → Prop
  | _, [] => True
  | limit, evaluation :: rest =>
      evaluation.check < limit ∧
        Within (evaluation.check + (2 ^ 32 - 60001)) rest

theorem InOrder.mono {earlier later : Nat} (hle : earlier ≤ later)
    {evaluations : List Evaluation} (horder : InOrder later evaluations) :
    InOrder earlier evaluations := by
  cases evaluations with
  | nil => trivial
  | cons evaluation rest =>
      exact ⟨⟨hle.trans horder.1.1, horder.1.2⟩, horder.2⟩

theorem Within.mono {limit higher : Nat} (hle : limit ≤ higher)
    {evaluations : List Evaluation} (hwithin : Within limit evaluations) :
    Within higher evaluations := by
  cases evaluations with
  | nil => trivial
  | cons evaluation rest => exact ⟨hwithin.1.trans_le hle, hwithin.2⟩

theorem within_of_close {limit : Nat} {evaluations : List Evaluation}
    (hfirst : ∀ first ∈ evaluations.head?, first.check < limit)
    (hclose : evaluations.IsChain Close) : Within limit evaluations := by
  induction evaluations generalizing limit with
  | nil => trivial
  | cons evaluation rest ih =>
      refine ⟨hfirst evaluation rfl, ih ?_ hclose.tail⟩
      intro next hnext
      exact hclose.rel_head? hnext

end Evaluation

theorem due_iff {ended check : Nat} (hle : ended ≤ check)
    (hfits : check < ended + 2 ^ 32) :
    millis check - millis ended > 60000 ↔ ended + 60000 < check := by
  show (60000 : UInt32) < _ ↔ _
  rw [UInt32.lt_iff_toNat_lt, millis_sub hle hfits]
  show 60000 < check - ended ↔ _
  omega

/-- The uploads after one more evaluation: there is one more if the last ended
more than a minute before. -/
def schedule (uploads : List Evaluation) (evaluation : Evaluation) :
    List Evaluation :=
  if lastEnd uploads + 60000 < evaluation.check then uploads ++ [evaluation]
  else uploads

/-- The evaluations at which an upload is to be made. -/
def scheduled (evaluations : List Evaluation) : List Evaluation :=
  evaluations.foldl schedule []

/-- The last upload is the latest. -/
structure Latest (uploads : List Evaluation) : Prop where
  past : ∀ upload ∈ uploads, upload.stored ≤ lastEnd uploads
  apart : uploads.Pairwise Evaluation.Apart

theorem Latest.nil : Latest [] := ⟨by simp, .nil⟩

theorem Latest.schedule {uploads rest : List Evaluation} {evaluation : Evaluation}
    (hlatest : Latest uploads)
    (hordered : Evaluation.InOrder (lastEnd uploads) (evaluation :: rest)) :
    Latest (schedule uploads evaluation) ∧
      Evaluation.InOrder (lastEnd (schedule uploads evaluation)) rest := by
  obtain ⟨⟨hafter, hstored⟩, hrest⟩ := hordered
  unfold Counter.schedule
  split
  · next hlate =>
    rw [lastEnd_concat]
    refine ⟨⟨?_, ?_⟩, hrest⟩
    · intro upload hmem
      rw [lastEnd_concat]
      rcases List.mem_append.mp hmem with hold | hnew
      · have := hlatest.past upload hold
        omega
      · rw [List.mem_singleton.mp hnew]
    · rw [List.pairwise_append]
      refine ⟨hlatest.apart, List.pairwise_singleton .., ?_⟩
      intro earlier hearlier later hlater
      have := hlatest.past earlier hearlier
      rw [List.mem_singleton.mp hlater]
      show earlier.stored + 60000 < evaluation.check
      omega
  · exact ⟨hlatest, hrest.mono (by omega)⟩

theorem Latest.foldl {uploads evaluations : List Evaluation}
    (hlatest : Latest uploads)
    (hordered : Evaluation.InOrder (lastEnd uploads) evaluations) :
    Latest (evaluations.foldl Counter.schedule uploads) := by
  induction evaluations generalizing uploads with
  | nil => exact hlatest
  | cons evaluation rest ih =>
      obtain ⟨hnext, hrest⟩ := hlatest.schedule hordered
      exact ih hnext hrest

section Uploading

variable {Pass State Row : Type*}

/-- A sketch whose state carries the end of its last upload as `uptime`, and
what its passes do that upload and those that do not. -/
structure Uploading (step : Pass → State → Option State)
    (due : Pass → State → Bool) (uploading idling : Pass → State → Option State)
    (clock : Pass → Evaluation) (Inv : State → Prop) (uptime : State → UInt32) :
    Prop where
  due_eq : ∀ pass s, due pass s =
    decide (millis (clock pass).check - uptime s > 60000)
  step_eq : ∀ pass s, step pass s =
    if due pass s then uploading pass s else idling pass s
  keeps : ∀ pass s next, Inv s → step pass s = some next → Inv next
  uptime_eq : ∀ pass s next, Inv s → step pass s = some next → uptime next =
    if due pass s then millis (clock pass).stored else uptime s

/-- Every pass of a run uploads when the last upload ended more than a minute
before, and only then. -/
structure KeepsSchedule (step uploading idling : Pass → State → Option State)
    (clock : Pass → Evaluation) (rows : List Pass → State → List Row)
    (passes : List Pass) (start : State) : Prop where
  uploads : ∀ front pass back s, passes = front ++ pass :: back →
    run step front start = some s →
    lastEnd (scheduled (front.map clock)) + 60000 < (clock pass).check →
    step pass s = uploading pass s
  idles : ∀ front pass back s, passes = front ++ pass :: back →
    run step front start = some s →
    (clock pass).check ≤ lastEnd (scheduled (front.map clock)) + 60000 →
    step pass s = idling pass s
  rows : ∀ front s, front <+: passes → run step front start = some s →
    (rows front start).length = (scheduled (front.map clock)).length
  apart : (scheduled (passes.map clock)).Pairwise Evaluation.Apart

structure OnSchedule (Inv : State → Prop) (uptime : State → UInt32)
    (uploads : List Evaluation) (s : State) (rest : List Evaluation) :
    Prop where
  inv : Inv s
  uptime : uptime s = millis (lastEnd uploads)
  ordered : Evaluation.InOrder (lastEnd uploads) rest
  within : Evaluation.Within (lastEnd uploads + 2 ^ 32) rest

namespace Uploading

variable {step : Pass → State → Option State} {due : Pass → State → Bool}
  {uploading idling : Pass → State → Option State} {clock : Pass → Evaluation}
  {Inv : State → Prop} {uptime : State → UInt32}

theorem due_iff (hsketch : Uploading step due uploading idling clock Inv uptime)
    {uploads rest : List Evaluation} {pass : Pass} {s : State}
    (hschedule : OnSchedule Inv uptime uploads s (clock pass :: rest)) :
    due pass s = true ↔ lastEnd uploads + 60000 < (clock pass).check := by
  rw [hsketch.due_eq, hschedule.uptime, decide_eq_true_eq]
  exact Counter.due_iff hschedule.ordered.1.1 hschedule.within.1

theorem step_onSchedule
    (hsketch : Uploading step due uploading idling clock Inv uptime)
    {uploads rest : List Evaluation} {pass : Pass} {s next : State}
    (hschedule : OnSchedule Inv uptime uploads s (clock pass :: rest))
    (hstep : step pass s = some next) :
    OnSchedule Inv uptime (schedule uploads (clock pass)) next rest := by
  have hdue := hsketch.due_iff hschedule
  have huptime := hsketch.uptime_eq pass s next hschedule.inv hstep
  have hinv := hsketch.keeps pass s next hschedule.inv hstep
  obtain ⟨⟨hafter, hstored⟩, hordered⟩ := hschedule.ordered
  obtain ⟨-, hwithin⟩ := hschedule.within
  unfold schedule
  split
  · next hlate =>
    rw [if_pos (hdue.mpr hlate)] at huptime
    refine ⟨hinv, ?_, ?_, ?_⟩
    · rw [huptime, lastEnd_concat]
    · rw [lastEnd_concat]
      exact hordered
    · rw [lastEnd_concat]
      exact hwithin.mono (by omega)
  · next hearly =>
    rw [if_neg (mt hdue.mp hearly)] at huptime
    exact ⟨hinv, huptime.trans hschedule.uptime, hordered.mono (by omega),
      hwithin.mono (by omega)⟩

theorem run_onSchedule
    (hsketch : Uploading step due uploading idling clock Inv uptime)
    {front : List Pass} {rest uploads : List Evaluation} {start finish : State}
    (hschedule : OnSchedule Inv uptime uploads start (front.map clock ++ rest))
    (hrun : run step front start = some finish) :
    OnSchedule Inv uptime ((front.map clock).foldl schedule uploads) finish
      rest := by
  induction front generalizing start uploads with
  | nil =>
      cases hrun
      exact hschedule
  | cons pass front ih =>
      obtain ⟨middle, hstep, hrest⟩ := run_cons_some hrun
      exact ih (hsketch.step_onSchedule hschedule hstep) hrest

theorem length_rows
    (hsketch : Uploading step due uploading idling clock Inv uptime)
    (row : State → Row) {front : List Pass} {rest uploads : List Evaluation}
    {start finish : State}
    (hschedule : OnSchedule Inv uptime uploads start (front.map clock ++ rest))
    (hrun : run step front start = some finish) :
    uploads.length + (emitted step
        (fun pass s => if due pass s then [row s] else []) front start).length =
      ((front.map clock).foldl schedule uploads).length := by
  induction front generalizing start uploads with
  | nil => rfl
  | cons pass front ih =>
      obtain ⟨middle, hstep, hrest⟩ := run_cons_some hrun
      have hnext := ih (hsketch.step_onSchedule hschedule hstep) hrest
      have hdue := hsketch.due_iff hschedule
      rw [emitted_cons _ hstep, List.length_append, List.map_cons,
        List.foldl_cons, ← hnext]
      unfold schedule
      by_cases hlate : lastEnd uploads + 60000 < (clock pass).check
      · rw [if_pos hlate, if_pos (hdue.mpr hlate), List.length_append,
          List.length_singleton, List.length_singleton, Nat.add_assoc]
      · rw [if_neg hlate, if_neg (mt hdue.mp hlate), List.length_nil, Nat.zero_add]

theorem start_onSchedule {start : State} (hinv : Inv start)
    (huptime : uptime start = 0) {passes : List Pass}
    (hordered : Evaluation.InOrder 0 (passes.map clock))
    (hclose : (passes.map clock).IsChain Evaluation.Close)
    (hprompt : Evaluation.Prompt (passes.map clock)) :
    OnSchedule Inv uptime [] start (passes.map clock) where
  inv := hinv
  uptime := huptime
  ordered := hordered
  within := by
    apply Evaluation.within_of_close _ hclose
    simpa [Evaluation.Prompt] using hprompt

theorem keepsSchedule
    (hsketch : Uploading step due uploading idling clock Inv uptime)
    (row : State → Row) {start : State} (hinv : Inv start)
    (huptime : uptime start = 0) {passes : List Pass}
    (hordered : Evaluation.InOrder 0 (passes.map clock))
    (hclose : (passes.map clock).IsChain Evaluation.Close)
    (hprompt : Evaluation.Prompt (passes.map clock)) :
    KeepsSchedule step uploading idling clock
      (emitted step fun pass s => if due pass s then [row s] else []) passes
      start := by
  have hstart := start_onSchedule hinv huptime hordered hclose hprompt
  have hdue : ∀ front pass back s, passes = front ++ pass :: back →
      run step front start = some s →
      (due pass s = true ↔
        lastEnd (scheduled (front.map clock)) + 60000 < (clock pass).check) := by
    rintro front pass back s rfl hrun
    rw [List.map_append, List.map_cons] at hstart
    exact hsketch.due_iff (hsketch.run_onSchedule hstart hrun)
  constructor
  · intro front pass back s hsplit hrun hlate
    rw [hsketch.step_eq, if_pos ((hdue front pass back s hsplit hrun).mpr hlate)]
  · intro front pass back s hsplit hrun hearly
    rw [hsketch.step_eq, if_neg]
    exact mt (hdue front pass back s hsplit hrun).mp (Nat.not_lt.mpr hearly)
  · rintro front s ⟨back, rfl⟩ hrun
    rw [List.map_append] at hstart
    have hlength := hsketch.length_rows row hstart hrun
    rwa [List.length_nil, Nat.zero_add] at hlength
  · exact (Latest.nil.foldl hordered).apart

end Uploading

end Uploading

end SenseBox.Counter
