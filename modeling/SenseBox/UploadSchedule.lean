import SenseBox.Counter.Schedule
import SenseBox.FinalDoorSD.Log
import SenseBox.TruthfulRows

namespace SenseBox

open SenseBox.Data
open SenseBox.Counter

/-! When the two loops upload, in true time. -/

namespace FinalDoorSD

def clock (pass : Pass) : Evaluation where
  check := pass.check
  stored := pass.stored

/-- A pass that uploads: `write_file` is called with a row, the file is read back,
and then `uptime` is set. -/
def uploadingPass (fmt : Rounding) (pass : Pass) (s : State) : Option State :=
  (SD.readBack pass.readBack fileName
      (SD.writeTo pass.write fileName (handed s).texts s.volume)).bind
    fun result =>
      measure fmt pass { s with uptime := millis pass.stored, volume := result.2 }

theorem uploading (fmt : Rounding) :
    Uploading (loop fmt) due (uploadingPass fmt) (measure fmt) clock Ready
      State.uptime where
  due_eq _ _ := rfl
  step_eq pass s := by
    rw [loop, upload_eq, Option.bind_map]
    rfl
  keeps _ _ _ hready hloop := (loop_passed hready hloop).ready
  uptime_eq _ _ _ hready hloop := (loop_passed hready hloop).uptime

end FinalDoorSD

namespace FinalElavatorSD

def clock (pass : Pass) : Evaluation where
  check := pass.check
  stored := pass.stored

def uploadingPass (fmt : Rounding) (pass : Pass) (s : State) : Option State :=
  (SD.readBack pass.readBack fileName
      (SD.writeTo pass.write fileName
        (rowTexts s.uptime s.nbPeople s.pressure.toInt16 s.temperature.toInt16)
        s.volume)).bind
    fun result =>
      measure fmt pass { s with uptime := millis pass.stored, volume := result.2 }

theorem uploading (fmt : Rounding) :
    Uploading (loop fmt) due (uploadingPass fmt) (measure fmt) clock
      (fun _ => True) State.uptime where
  due_eq _ _ := rfl
  step_eq pass s := by
    rw [loop, upload, Option.bind_map]
    rfl
  keeps _ _ _ _ _ := trivial
  uptime_eq _ _ _ _ hloop := (loop_passed hloop).uptime

end FinalElavatorSD

/-- The clock may roll over at any time but before the first pass. -/
theorem uploads_every_minute (fmt : Rounding) (card : SD.Volume) :
    (∀ passes : List FinalDoorSD.Pass,
      Evaluation.InOrder 0 (passes.map FinalDoorSD.clock) →
      (passes.map FinalDoorSD.clock).IsChain Evaluation.Close →
      Evaluation.Prompt (passes.map FinalDoorSD.clock) →
      KeepsSchedule (FinalDoorSD.loop fmt) (FinalDoorSD.uploadingPass fmt)
        (FinalDoorSD.measure fmt) FinalDoorSD.clock (FinalDoorSD.uploads fmt)
        passes (FinalDoorSD.begun card)) ∧
    (∀ (distMax : Int16) (bmp : Device.BMP280)
      (passes : List FinalElavatorSD.Pass),
      Evaluation.InOrder 0 (passes.map FinalElavatorSD.clock) →
      (passes.map FinalElavatorSD.clock).IsChain Evaluation.Close →
      Evaluation.Prompt (passes.map FinalElavatorSD.clock) →
      KeepsSchedule (FinalElavatorSD.loop fmt) (FinalElavatorSD.uploadingPass fmt)
        (FinalElavatorSD.measure fmt) FinalElavatorSD.clock
        (FinalElavatorSD.uploads fmt) passes
        (FinalElavatorSD.begun distMax bmp card)) :=
  ⟨fun _ => (FinalDoorSD.uploading fmt).keepsSchedule FinalDoorSD.handed
      (FinalDoorSD.begun_ready card) rfl,
    fun _ _ _ => (FinalElavatorSD.uploading fmt).keepsSchedule
      FinalElavatorSD.handed trivial rfl⟩

/-- The clock rolls over between the end of the upload of the first pass and
the condition of the second, which uploads again; the third is too early. -/
def FinalDoorSD.rollover : List FinalDoorSD.Pass :=
  [{ uploadPass with check := 4294900000, stored := 4294907295 },
    { uploadPass with check := 4294967296 + 1, stored := 4294967296 + 2 },
    { uploadPass with check := 4294967296 + 1000, stored := 4294967296 + 2000 }]

def FinalElavatorSD.rollover : List FinalElavatorSD.Pass :=
  [{ uploadPass with check := 4294900000, stored := 4294907295 },
    { uploadPass with check := 4294967296 + 1, stored := 4294967296 + 2 },
    { uploadPass with check := 4294967296 + 1000, stored := 4294967296 + 2000 }]

theorem uploads_every_minute_rollover :
    KeepsSchedule (FinalDoorSD.loop .exact) (FinalDoorSD.uploadingPass .exact)
        (FinalDoorSD.measure .exact) FinalDoorSD.clock
        (FinalDoorSD.uploads .exact) FinalDoorSD.rollover
        (FinalDoorSD.begun SD.emptyCard) ∧
      KeepsSchedule (FinalElavatorSD.loop .exact)
        (FinalElavatorSD.uploadingPass .exact) (FinalElavatorSD.measure .exact)
        FinalElavatorSD.clock (FinalElavatorSD.uploads .exact)
        FinalElavatorSD.rollover (FinalElavatorSD.begun 280 .initial SD.emptyCard) ∧
      (FinalDoorSD.uploads .exact FinalDoorSD.rollover
        (FinalDoorSD.begun SD.emptyCard)).length = 2 := by
  obtain ⟨hdoor, helevator⟩ := uploads_every_minute .exact SD.emptyCard
  refine ⟨hdoor _ ?_ ?_ ?_, helevator _ _ _ ?_ ?_ ?_, by decide +kernel⟩
  all_goals
    simp [FinalDoorSD.rollover, FinalElavatorSD.rollover, FinalDoorSD.clock,
      FinalElavatorSD.clock, Evaluation.InOrder, Evaluation.Close,
      Evaluation.Prompt]

def FinalDoorSD.latePass : FinalDoorSD.Pass :=
  { uploadPass with check := 4294967296 + 50, stored := 4294967296 + 60 }

/-- After a start of more than one period of the clock the first pass is taken
for one of the first minute. -/
theorem late_start_postpones :
    ¬ ∀ (fmt : Rounding) (card : SD.Volume) (passes : List FinalDoorSD.Pass),
      Evaluation.InOrder 0 (passes.map FinalDoorSD.clock) →
      (passes.map FinalDoorSD.clock).IsChain Evaluation.Close →
      KeepsSchedule (FinalDoorSD.loop fmt) (FinalDoorSD.uploadingPass fmt)
        (FinalDoorSD.measure fmt) FinalDoorSD.clock (FinalDoorSD.uploads fmt)
        passes (FinalDoorSD.begun card) := by
  intro hall
  have hkept := hall .exact SD.emptyCard [FinalDoorSD.latePass]
    (by simp [Evaluation.InOrder, FinalDoorSD.clock, FinalDoorSD.latePass])
    (by simp)
  have huploads := hkept.uploads [] FinalDoorSD.latePass [] _ rfl rfl (by decide)
  have huptime := congrArg (Option.map FinalDoorSD.State.uptime) huploads
  exact absurd huptime (by decide +kernel)

end SenseBox
