import SenseBox.FinalDoorSD.Counting
import SenseBox.Data.Rows

namespace SenseBox.FinalDoorSD

open SenseBox.Data
open SenseBox.Counter
open SenseBox.Device
open SenseBox.SD

/-! The log of the door over whole runs in which no card access fails. -/

structure Row where
  uptime : UInt32
  nbPeople : Int16
  humidity : Int16
  temperature : Int16
  sndLvl : Int16

namespace Row

def fields (row : Row) : List Int :=
  [row.uptime.toNat, row.nbPeople.toInt, row.humidity.toInt,
    row.temperature.toInt, row.sndLvl.toInt]

def texts (row : Row) : List Text :=
  rowTexts row.uptime row.nbPeople row.humidity row.temperature row.sndLvl

theorem flatten_texts (row : Row) :
    row.texts.flatten = Rows.encodeRow row.fields ++ Lines.crlf := by
  simp [texts, rowTexts, fields, Rows.encodeRow, printText, printlnText,
    semicolon, Rows.separator]

end Row

def handed (s : State) : Row where
  uptime := s.uptime
  nbPeople := s.nbPeople
  humidity := s.humidity.toInt16
  temperature := s.temperature.toInt16
  sndLvl := s.soundLvl.toInt16

def uploads (fmt : Rounding) : List Pass → State → List Row :=
  emitted (loop fmt) fun pass s => if due pass s then [handed s] else []

theorem uploads_cons (fmt : Rounding) (pass : Pass) (rest : List Pass)
    (s : State) :
    uploads fmt (pass :: rest) s =
      (if due pass s then [handed s] else []) ++
        ((loop fmt pass s).map (uploads fmt rest)).getD [] := rfl

def logBytes (rows : List Row) : List UInt8 := Rows.encode (rows.map Row.fields)

theorem written_eq (pass : Pass) (s : State) :
    written pass s = writeTo pass.write fileName (handed s).texts s.volume := rfl

structure Pass.Quiet (pass : Pass) : Prop where
  write : pass.write = .ok
  readBack : pass.readBack.Ok

structure SetupIo.Quiet (io : SetupIo) : Prop where
  sdBegin : io.sdBegin = true
  create : io.create = .ok
  found : io.found = fun _ => .ok

def entryName : Name := ⟨(text "DODATRE CSV").toArray, by decide⟩

theorem rootPath : RootPath fileName entryName where
  noSlash := by decide
  nonempty := by decide
  oneComponent := by decide
  short := by decide
  used := by unfold unused; decide

theorem setup_holds {io : SetupIo} (hio : io.Quiet) {volume : Volume}
    {earlier : List UInt8} (husable : Usable volume entryName earlier) :
    ∃ start, setup io volume = some start ∧
      Holds start.volume entryName earlier := by
  have hfits : earlier.length + ([] : List Text).flatten.length < 2 ^ 32 := by
    rcases husable with hholds | ⟨rfl, -⟩
    · exact hholds.length_lt
    · decide
  have hcreated := husable.writeTo rootPath hfits
  rw [List.flatten_nil, List.append_nil] at hcreated
  have hexists := hcreated.exists rootPath
  unfold setup
  simp only [hio.sdBegin, hio.create, hio.found, hexists]
  exact ⟨_, rfl, hcreated⟩

theorem loop_logs (fmt : Rounding) {pass : Pass} (hquiet : pass.Quiet)
    {s : State} (hready : Ready s) {content : List UInt8}
    (hholds : Holds s.volume entryName content)
    (hfits : due pass s → content.length +
      (handed s).texts.flatten.length < 2 ^ 32) :
    ∃ next, loop fmt pass s = some next ∧ Passed pass s next ∧
      Holds next.volume entryName (content ++
        if due pass s then (handed s).texts.flatten else []) := by
  have hafter (hdue : due pass s = true) : Holds (written pass s) entryName
      (content ++ (handed s).texts.flatten) := by
    rw [written_eq, hquiet.write]
    exact Usable.writeTo rootPath (.inl hholds) (hfits hdue)
  have hecho (hdue : due pass s = true) := (hafter hdue).readBack rootPath
    hquiet.readBack
  obtain ⟨next, hloop⟩ := loop_defined fmt hready
    fun hdue => by rw [hecho hdue]; rfl
  have hpassed := loop_passed hready hloop
  refine ⟨next, hloop, hpassed, ?_⟩
  have hvolume := hpassed.volume
  by_cases hdue : due pass s = true
  · rw [if_pos hdue, hecho hdue] at hvolume
    obtain ⟨echoed, hsame⟩ := hvolume
    have hwritten : written pass s = next.volume :=
      congrArg Prod.snd (Option.some.inj hsame)
    rw [← hwritten, if_pos hdue]
    exact hafter hdue
  · rw [if_neg hdue] at hvolume
    simpa [hdue, hvolume] using hholds

theorem logBytes_cons (row : Row) (rows : List Row) :
    logBytes (row :: rows) = row.texts.flatten ++ logBytes rows := by
  rw [logBytes, List.map_cons, Rows.encode_cons, ← Row.flatten_texts]
  rfl

/-- The bytes of the rows of a run begin with what its first pass appends. -/
theorem logBytes_uploads_cons {fmt : Rounding} {pass : Pass} {s next : State}
    (hloop : loop fmt pass s = some next) (rest : List Pass) :
    logBytes (uploads fmt (pass :: rest) s) =
      (if due pass s then (handed s).texts.flatten else []) ++
        logBytes (uploads fmt rest next) := by
  have hsplit : uploads fmt (pass :: rest) s =
      (if due pass s then [handed s] else []) ++ uploads fmt rest next :=
    emitted_cons _ hloop rest
  rw [hsplit]
  split
  · rw [List.singleton_append, logBytes_cons]
  · rfl

theorem run_loop_logs (fmt : Rounding) {passes : List Pass}
    (hquiet : ∀ pass ∈ passes, pass.Quiet) {start : State}
    (hready : Ready start) {earlier : List UInt8}
    (hholds : Holds start.volume entryName earlier)
    (hfits : earlier.length + (logBytes (uploads fmt passes start)).length
      < 2 ^ 32) :
    ∃ finish, run (loop fmt) passes start = some finish ∧
      Holds finish.volume entryName
        (earlier ++ logBytes (uploads fmt passes start)) := by
  induction passes generalizing start earlier with
  | nil =>
      refine ⟨start, rfl, ?_⟩
      simpa [uploads, logBytes, Rows.encode, Lines.encode] using hholds
  | cons pass rest ih =>
      have hfirst : due pass start → earlier.length +
          (handed start).texts.flatten.length < 2 ^ 32 := by
        intro hdue
        simp only [uploads_cons, hdue, if_true, List.singleton_append,
          logBytes_cons, List.length_append] at hfits
        omega
      obtain ⟨next, hloop, hpassed, hnext⟩ :=
        loop_logs fmt (hquiet pass (by simp)) hready hholds hfirst
      rw [logBytes_uploads_cons hloop, ← List.append_assoc]
      rw [logBytes_uploads_cons hloop, List.length_append, ← Nat.add_assoc,
        ← List.length_append] at hfits
      obtain ⟨finish, hrun, hfinish⟩ :=
        ih (fun other member => hquiet other (by simp [member]))
          hpassed.ready hnext hfits
      refine ⟨finish, ?_, hfinish⟩
      rw [run_cons, hloop]
      exact hrun

/-! The people column: what it holds at each upload, and that it never falls. -/

structure Climbs (base : Int) (rows : List Row) : Prop where
  sorted : rows.Pairwise fun first second =>
    first.nbPeople.toInt ≤ second.nbPeople.toInt
  least : ∀ row ∈ rows, base ≤ row.nbPeople.toInt

theorem Climbs.nil (base : Int) : Climbs base [] := ⟨.nil, by simp⟩

theorem Climbs.mono {base other : Int} {rows : List Row}
    (hclimbs : Climbs other rows) (hle : base ≤ other) : Climbs base rows :=
  ⟨hclimbs.sorted, fun row hrow => hle.trans (hclimbs.least row hrow)⟩

theorem Climbs.cons {base : Int} {rows : List Row} {row : Row}
    (hclimbs : Climbs base rows) (hrow : row.nbPeople.toInt = base) :
    Climbs base (row :: rows) where
  sorted := List.pairwise_cons.mpr
    ⟨fun later hlater => hrow ▸ hclimbs.least later hlater, hclimbs.sorted⟩
  least := by
    intro other hother
    rcases List.mem_cons.mp hother with rfl | hother
    · exact hrow.ge
    · exact hclimbs.least other hother

theorem Passed.counts {pass : Pass} {s next : State}
    (hpassed : Passed pass s next) {base : Nat}
    (hbase : s.nbPeople = Int16.ofNat base) :
    next.state = near distToPpl (distance pass) ∧
      next.nbPeople = Int16.ofNat (base +
        if s.state && !near distToPpl (distance pass) then 1 else 0) := by
  obtain ⟨hstate, hnb⟩ := hpassed.counter
  refine ⟨hstate, ?_⟩
  rw [hnb, hbase]
  split
  · rw [Int16.ofNat_add]
    rfl
  · rfl

theorem uploads_climb (fmt : Rounding) {passes : List Pass} {start : State}
    (base : Nat) (hready : Ready start)
    (hbase : start.nbPeople = Int16.ofNat base)
    (hfits : base + falls (start.state ::
      (passes.map distance).map (near distToPpl)) ≤ 32767) :
    Climbs base (uploads fmt passes start) := by
  induction passes generalizing start base with
  | nil => exact .nil base
  | cons pass rest ih =>
      simp only [List.map_cons, falls_cons_cons] at hfits
      have hhanded : (handed start).nbPeople.toInt = base := by
        rw [handed, hbase]
        exact Int16.toInt_ofNat_of_lt (by omega)
      have hlater : Climbs base
          (((loop fmt pass start).map (uploads fmt rest)).getD []) := by
        cases hloop : loop fmt pass start with
        | none => exact .nil base
        | some next =>
            have hpassed := loop_passed hready hloop
            obtain ⟨hstate, hnb⟩ := hpassed.counts hbase
            refine (ih _ hpassed.ready hnb ?_).mono (by omega)
            rw [hstate]
            omega
      rw [uploads_cons]
      cases due pass start with
      | true => exact hlater.cons hhanded
      | false => exact hlater

/-- After a run the file is its earlier content and the rows of the uploads,
the rows decode to what was handed to `write_file`, and the people column holds
the visits so far and never falls. -/
structure LogLaw (fmt : Rounding) (earlier : List UInt8) (passes : List Pass)
    (start : State) : Prop where
  file : ∃ finish, run (loop fmt) passes start = some finish ∧
    Holds finish.volume entryName
      (earlier ++ logBytes (uploads fmt passes start))
  decodes : Rows.decode (logBytes (uploads fmt passes start)) =
    some ((uploads fmt passes start).map Row.fields)
  counted : ∀ front pass back s, passes = front ++ pass :: back →
    run (loop fmt) front start = some s → due pass s = true →
    (handed s).nbPeople.toInt = crossings (front.map distance)
  climbs : (uploads fmt passes start).Pairwise fun first second =>
    first.nbPeople.toInt ≤ second.nbPeople.toInt

/-- The log is append-only and decodable as long as the file stays within the
32-bit size of a directory entry. -/
theorem door_log_law (fmt : Rounding) (io : SetupIo) (volume : Volume)
    (earlier : List UInt8) (passes : List Pass) (hio : io.Quiet)
    (husable : Usable volume entryName earlier)
    (hquiet : ∀ pass ∈ passes, pass.Quiet)
    (hpeople : crossings (passes.map distance) ≤ 32767) :
    ∃ start, setup io volume = some start ∧
      (earlier.length + (logBytes (uploads fmt passes start)).length < 2 ^ 32 →
        LogLaw fmt earlier passes start) := by
  obtain ⟨start, hsetup, hholds⟩ := setup_holds hio husable
  obtain ⟨card, rfl⟩ := setup_begun hsetup
  refine ⟨begun card, hsetup, fun hfits => ?_⟩
  refine ⟨run_loop_logs fmt hquiet (begun_ready card) hholds hfits,
    Rows.decode_encode _, ?_, ?_⟩
  · intro front pass back s hsplit hrun hdue
    have hle : crossings (front.map distance) ≤ 32767 := by
      refine Nat.le_trans ?_ hpeople
      simp only [crossings_eq_falls, hsplit, List.map_append]
      exact falls_le_append _ _
    exact (countingLaw_of_run hrun).exact.mpr hle
  · refine (uploads_climb fmt 0 (begun_ready card) rfl ?_).sorted
    rw [begun, falls_false_cons, ← crossings_eq_falls]
    omega

/-! A first upload onto an empty card, and onto a file of the largest size. -/

def uploadPass : Pass :=
  { idlePass with
    check := 60001
    stored := 60002
    sampled := 60003 }

def quietSetup : SetupIo where
  sdBegin := true
  create := .ok
  found := fun _ => .ok

theorem due_uploadPass {s : State} (huptime : s.uptime = 0) :
    due uploadPass s = true := by
  rw [due, huptime]
  show decide (millis 60001 - 0 > updateTime) = true
  decide

theorem uploadPass_quiet : ∀ pass ∈ [uploadPass], pass.Quiet := by
  intro pass hpass
  rw [List.mem_singleton.mp hpass]
  exact ⟨rfl, rfl, rfl, Nat.le_refl _, rfl⟩

theorem quietSetup_quiet : quietSetup.Quiet := ⟨rfl, rfl, rfl⟩

theorem uploads_uploadPass (fmt : Rounding) (card : Volume) :
    uploads fmt [uploadPass] (begun card) = [⟨0, 0, 0, 0, 0⟩] := by
  rw [uploads_cons, if_pos (due_uploadPass rfl)]
  cases loop fmt uploadPass (begun card) <;> rfl

/-- An upload in the middle of a visit, and another after it. -/
def twoUploads : List Pass :=
  visit ++ [{ idlePass with check := 120060, stored := 120070, sampled := 120080 }]

theorem twoUploads_quiet : ∀ pass ∈ twoUploads, pass.Quiet := by
  intro pass hpass
  simp only [twoUploads, visit, List.cons_append, List.nil_append, List.mem_cons,
    List.not_mem_nil, or_false] at hpass
  rcases hpass with rfl | rfl | rfl | rfl <;>
    exact ⟨rfl, rfl, rfl, Nat.le_refl _, rfl⟩

theorem setup_isSome : (setup quietSetup emptyCard).isSome = true := by
  decide +kernel

/-- The second row has the visit that the first one fell into. -/
theorem door_log_law_two_uploads : ∃ start,
    setup quietSetup emptyCard = some start ∧
      (uploads .exact twoUploads start).map (fun row => row.nbPeople) = [0, 1] ∧
      LogLaw .exact [] twoUploads start := by
  obtain ⟨start, hsetup, hlaw⟩ := door_log_law .exact quietSetup emptyCard []
    twoUploads quietSetup_quiet (.inr ⟨rfl, .cluster rfl rfl (by decide)⟩)
    twoUploads_quiet (by decide)
  obtain rfl : (setup quietSetup emptyCard).get setup_isSome = start :=
    Option.some.inj ((Option.some_get setup_isSome).trans hsetup)
  exact ⟨_, hsetup, by decide +kernel, hlaw (by decide +kernel)⟩

def fullEntry : DirEntry :=
  { DirEntry.create entryName with fileSize := 0xFFFFFFFF }

def fullCard : Volume := { emptyCard with root := [fullEntry] }

theorem door_log_law_full_file :
    ¬ ∀ (fmt : Rounding) (io : SetupIo) (volume : Volume)
      (earlier : List UInt8) (passes : List Pass), io.Quiet →
      Usable volume entryName earlier → (∀ pass ∈ passes, pass.Quiet) →
      crossings (passes.map distance) ≤ 32767 →
      ∃ start, setup io volume = some start ∧
        LogLaw fmt earlier passes start := by
  intro hlaw
  obtain ⟨start, hsetup, hlog⟩ := hlaw .exact quietSetup fullCard
    fullEntry.content [uploadPass] quietSetup_quiet
    (.inl ⟨0, fullEntry, by decide, rfl,
      ⟨(regular_create entryName).isFile, (regular_create entryName).writable⟩,
      rfl⟩) uploadPass_quiet (Nat.zero_le _)
  obtain ⟨card, rfl⟩ := setup_begun hsetup
  obtain ⟨finish, -, hholds⟩ := hlog.file
  have hlength := hholds.length_lt
  rw [uploads_uploadPass, List.length_append, DirEntry.length_content] at hlength
  have hsize : fullEntry.fileSize.toNat = 2 ^ 32 - 1 := by decide
  have hrow : (logBytes [⟨0, 0, 0, 0, 0⟩]).length = 12 := by decide
  omega

end SenseBox.FinalDoorSD
