import SenseBox.FinalElavatorSD.Model
import SenseBox.Data.Rows
import SenseBox.SD.InvalidName

namespace SenseBox.FinalElavatorSD

open SenseBox.Data
open SenseBox.Counter
open SenseBox.Device
open SenseBox.SD
open SdFile

/-! The log file of the elevator has a name that the SD library cannot open. -/

structure Row where
  uptime : UInt32
  nbPeople : Int16
  pressure : Int16
  temperature : Int16

def Row.fields (row : Row) : List Int :=
  [row.uptime.toNat, row.nbPeople.toInt, row.pressure.toInt,
    row.temperature.toInt]

def handed (s : State) : Row where
  uptime := s.uptime
  nbPeople := s.nbPeople
  pressure := s.pressure.toInt16
  temperature := s.temperature.toInt16

def uploads (fmt : Rounding) : List Pass → State → List Row :=
  emitted (loop fmt) fun pass s => if due pass s then [handed s] else []

def logBytes (rows : List Row) : List UInt8 := Rows.encode (rows.map Row.fields)

structure Pass.Quiet (pass : Pass) : Prop where
  write : pass.write = .ok
  readBack : pass.readBack.Ok

structure SetupIo.Quiet (io : SetupIo) : Prop where
  initialized : (BMP280.initial.start io.words).1 = true
  sdBegin : io.sdBegin = true
  create : io.create = .ok
  found : io.found = fun _ => .ok

/-- `setup` returns, and along every run in which no access fails the log file,
whatever its entry is called, has its earlier content and the rows. -/
def StartsAndLogs (io : SetupIo) (volume : Volume) : Prop :=
  ∃ start, setup io volume = some start ∧
    ∃ name earlier, Holds start.volume name earlier ∧
      ∀ (fmt : Rounding) (passes : List Pass) (finish : State),
        (∀ pass ∈ passes, pass.Quiet) →
        run (loop fmt) passes start = some finish →
        Holds finish.volume name
          (earlier ++ logBytes (uploads fmt passes start))

/-! The stem of the name has nine characters. -/

theorem make83Name_fileName : make83Name fileName = none := by decide

theorem make83Name_component :
    make83Name (getNextPathComponent fileName).1 = none := by decide

theorem sdOpen_fileName (io : Nat → Io) (mode : UInt8) (volume : Volume) :
    sdOpen io fileName mode volume = (none, volume) :=
  sdOpen_invalid (by decide) make83Name_fileName (by decide) io mode volume

/-- `SD.exists` asks for the first twelve characters of the name first. -/
theorem sdExists_fileName (io : Nat → Io) (volume : Volume) :
    sdExists io fileName volume = false := by
  have hopen := openIn_invalid make83Name_component (io 0) (openRoot volume)
    oRdonly volume
  rw [sdExists, walkPath]
  simp [callbackPathExists, hopen]

theorem setup_stops (io : SetupIo) (volume : Volume) :
    setup io volume = none := by
  simp only [setup, sdExists_fileName, Bool.not_false, if_true]
  split
  · rfl
  · split <;> rfl

/-- On no card does the logger start, whatever its accesses do. -/
theorem elevator_never_starts (io : SetupIo) (volume : Volume) :
    ¬ StartsAndLogs io volume := by
  rintro ⟨start, hsetup, -⟩
  rw [setup_stops] at hsetup
  cases hsetup

def HasRoom (volume : Volume) : Prop :=
  (∃ slot ∈ volume.root, unused slot.name) ∨
    volume.fatType = .fat32 ∧ 0 < volume.entriesPerCluster

def quietSetup : SetupIo where
  words := fun _ => some 27504
  sdBegin := true
  create := .ok
  sounding := {
    pending := false
    triggered := 0
    waits := []
    started := 500
    polls := []
    finished := 17605 }
  found := fun _ => .ok

theorem empty_card_stops :
    ¬ ∀ (io : SetupIo) (volume : Volume), io.Quiet → HasRoom volume →
      StartsAndLogs io volume := by
  intro hstarts
  obtain ⟨start, hsetup, -⟩ := hstarts quietSetup emptyCard
    ⟨rfl, rfl, rfl, rfl⟩ (.inr ⟨rfl, by decide⟩)
  rw [setup_stops] at hsetup
  cases hsetup

end SenseBox.FinalElavatorSD
