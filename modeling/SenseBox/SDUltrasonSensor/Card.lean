import SenseBox.Data.Decimal
import SenseBox.SD.InvalidName
import SenseBox.SDUltrasonSensor.Model

namespace SenseBox.SDUltrasonSensor

open SenseBox.Data
open SenseBox.Device
open SenseBox.SD

/-! The card of the stand-alone counter.  The stem of the file's name has nine
characters, so the file is never opened. -/

theorem make83Name_fileName : make83Name fileName = none := by decide

theorem record_no_effect (io : WriteIo) (nbPeople : Int16) (volume : Volume) :
    record io nbPeople volume = volume := by
  have hopen := sdOpen_invalid (show slash ∉ fileName by decide)
    make83Name_fileName (by decide) io.opens fileRead volume
  simp only [record, hopen, printAll_none]
  rfl

/-- The bytes of the file a directory lists under a name, and none if it lists
no such file. -/
def fileBytes (volume : Volume) (name : Name) : List UInt8 :=
  ((volume.root.find? (·.name = name)).map DirEntry.content).getD []

/-- Between two contents of the card some file of the root directory has got
these numbers as further lines. -/
def Appended (before after : Volume) (numbers : List Int16) : Prop :=
  ∃ name, fileBytes after name = fileBytes before name ++
    Lines.encode (numbers.map fun number => Decimal.encode number.toInt)

/-- The values `nb_people` takes at the counted visits of a run. -/
def counted (stream : Nat → Int16) : List WriteIo → State → List Int16 :=
  emitted (loop stream) fun _ s =>
    if counts stream s then [s.nbPeople + 1] else []

def Uncounted (stream : Nat → Int16) (_ : WriteIo) (s : State) : Prop :=
  counts stream s = false

theorem appended_same_iff (card : Volume) (numbers : List Int16) :
    Appended card card numbers ↔ numbers = [] := by
  constructor
  · rintro ⟨name, hbytes⟩
    cases numbers with
    | nil => rfl
    | cons number rest =>
        have hlength := congrArg List.length hbytes
        rw [List.length_append, List.map_cons, Lines.encode, List.flatMap_cons,
          List.length_append, List.length_append] at hlength
        have hcrlf : Lines.crlf.length = 2 := rfl
        omega
  · rintro rfl
    exact ⟨Vector.replicate 11 blank, by simp [Lines.encode]⟩

variable {stream : Nat → Int16} {io : WriteIo} {s next : State}

theorem loop_between (hbetween : Between s) (hloop : loop stream io s = some next) :
    Between next := by
  cases hfront : inFront stream s with
  | false =>
      rw [loop_away hbetween hfront] at hloop
      cases hloop
      exact hbetween
  | true =>
      rw [loop_inFront hbetween hfront] at hloop
      cases hloop
      split
      · exact .inl rfl
      · exact .inr rfl

theorem loop_volume (hbetween : Between s) (hloop : loop stream io s = some next) :
    next.volume = s.volume := by
  cases hfront : inFront stream s with
  | false =>
      rw [loop_away hbetween hfront] at hloop
      cases hloop
      rfl
  | true =>
      rw [loop_inFront hbetween hfront] at hloop
      cases hloop
      split
      · exact record_no_effect ..
      · rfl

theorem counted_eq_nil_iff (stream : Nat → Int16) (passes : List WriteIo)
    (s : State) :
    counted stream passes s = [] ↔
      Along (loop stream) (Uncounted stream) passes s := by
  induction passes generalizing s with
  | nil => simp [counted, Along]
  | cons io rest ih =>
      rw [counted, emitted, Along, List.append_eq_nil_iff]
      show _ ∧ counted stream rest _ = [] ↔ _
      rw [ih, Uncounted]
      simp [loop]

theorem run_volume {base : Int16} {card : Volume} {passes : List WriteIo}
    (hrun : run (loop stream) passes (begun base card) = some s) :
    s.volume = card := by
  have hkept := run_invariant (fun s : State => Between s ∧ s.volume = card) ?_
    ⟨.inl rfl, rfl⟩ hrun
  · exact hkept.2
  · rintro io - start finish ⟨hbetween, hvolume⟩ hloop
    exact ⟨loop_between hbetween hloop,
      (loop_volume hbetween hloop).trans hvolume⟩

/-- After every pass of a run the file has the counted values as lines just when
there are none. -/
theorem visits_recorded_iff (stream : Nat → Int16) (base : Int16)
    (card : Volume) (passes : List WriteIo) :
    (∀ front back s, passes = front ++ back →
      run (loop stream) front (begun base card) = some s →
      Appended card s.volume (counted stream front (begun base card))) ↔
    Along (loop stream) (Uncounted stream) passes (begun base card) := by
  rw [← counted_eq_nil_iff]
  constructor
  · intro hall
    obtain ⟨s, hrun, -⟩ :
        ∃ s, run (loop stream) passes (begun base card) = some s ∧ True :=
      run_defined (fun _ => True) (fun _ _ _ _ => ⟨_, rfl, trivial⟩) trivial
    have happended := hall passes [] s (List.append_nil passes).symm hrun
    rw [run_volume hrun] at happended
    exact (appended_same_iff card _).mp happended
  · rintro hnone front back s rfl hrun
    rw [counted, emitted_append _ hrun, List.append_eq_nil_iff] at hnone
    rw [run_volume hrun]
    exact (appended_same_iff card _).mpr hnone.1

/-- Somebody in front of the sensor, and nobody at the second reading. -/
def oneVisit (index : Nat) : Int16 := if index = 0 then 50 else 100

/-- The visit is counted, and nothing is written to an empty card that can
grow. -/
theorem visit_not_recorded : ∃ s,
    run (loop oneVisit) [.ok] (begun 0 emptyCard) = some s ∧
      counted oneVisit [.ok] (begun 0 emptyCard) = [1] ∧
      ¬ Appended emptyCard s.volume
        (counted oneVisit [.ok] (begun 0 emptyCard)) := by
  have hcounted : counted oneVisit [.ok] (begun 0 emptyCard) = [1] := rfl
  obtain ⟨s, hrun, -⟩ : ∃ s,
      run (loop oneVisit) [.ok] (begun 0 emptyCard) = some s ∧ True :=
    ⟨_, rfl, trivial⟩
  refine ⟨s, hrun, hcounted, ?_⟩
  rw [run_volume hrun, appended_same_iff, hcounted]
  simp

end SenseBox.SDUltrasonSensor
