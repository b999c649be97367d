import SenseBox.SD.OpenRoot
import SenseBox.SD.Requests

namespace SenseBox.SD

open SenseBox.Data
open SdVolume

/-! Sessions: runs of requests that open, use, close and remove the files of a directory. -/

def OnlySlot (layout : Layout) (extent : List UInt32) (type : FileType) (count : Nat)
    (volume : SdVolume) (name : Name) (slot : Nat) : Prop :=
  slot < count ∧ ∀ other < count, nameAt layout extent type volume other = name ↔ other = slot

/-- A file that is not open: its entry has the length of these bytes and the first cluster
of the chain, and the clusters of the chain hold them. -/
structure Filed (layout : Layout) (extent : List UInt32) (type : FileType) (count : Nat)
    (volume : SdVolume) (name : Name) (bytes : List UInt8) (locked : Bool) (site : Site) :
    Prop where
  only : OnlySlot layout extent type count volume name site.slot
  block : slotBlock layout extent type site.slot = site.block
  locked : lockedAt layout extent type volume site.slot = locked
  regular : dirAttributes (volume.memory site.block) (slotIndex site.slot) &&&
    attFileTypeMask = 0
  size : (dirFileSize (volume.memory site.block) (slotIndex site.slot)).toNat = bytes.length
  first : dirFirstCluster (volume.memory site.block) (slotIndex site.slot) =
    site.chain.headD 0
  chained : layout.Chained (volume.fat layout) site.chain
  room : bytes.length ≤ site.chain.length * layout.clusterBytes
  content : contentOf layout volume site.chain bytes.length = bytes

/-- The file of this name lies there on the volume. -/
def OnVolume (layout : Layout) (opening : FatFile.Opening) (name : Name)
    (bytes : List UInt8) (locked : Bool) (site : Site) : Prop :=
  ∃ extent count, Directory layout (opening.1.fat layout) extent opening.2.1 count ∧
    Filed layout extent opening.2.1.type count opening.1 name bytes locked site

/-- The handle is that of the file of this name, and shows its bytes. -/
def InUse (layout : Layout) (opening : FatFile.Opening) (name : Name) (bytes : List UInt8)
    (locked : Bool) (flags : UInt8) (place : Nat) : Prop :=
  ∃ extent count slot chain,
    Directory layout (opening.1.fat layout) extent opening.2.1 count ∧
    OnlySlot layout extent opening.2.1.type count opening.1 name slot ∧
    lockedAt layout extent opening.2.1.type opening.1 slot = locked ∧
    opening.2.2.AtSlot layout extent opening.2.1.type slot ∧
    SameFlags flags opening.2.2.flags ∧
    Shows layout opening.1 chain opening.2.2 ⟨bytes, place⟩

def Unlisted (layout : Layout) (opening : FatFile.Opening) (name : Name) : Prop :=
  ∃ extent count, Directory layout (opening.1.fat layout) extent opening.2.1 count ∧
    ∀ slot < count, nameAt layout extent opening.2.1.type opening.1 slot ≠ name

structure Files.OnVolume (layout : Layout) (files : Files) (opening : FatFile.Opening) :
    Prop where
  shut : ∀ {name bytes locked}, ¬ unused name → files.entry name = .file bytes locked →
    files.Shut name → ∃ site, SD.OnVolume layout opening name bytes locked site
  current : ∀ {name bytes locked flags place}, files.entry name = .file bytes locked →
    files.current = .file name flags place →
      InUse layout opening name bytes locked flags place
  absent : ∀ {name}, ¬ unused name → files.entry name = .absent →
    Unlisted layout opening name

def Follows (layout : Layout) (opening : FatFile.Opening) (known : Option Files) : Prop :=
  ∀ files, known = some files → Agreed layout opening files

variable {layout : Layout} {io : Accesses} {rounds : Nat} {start finish : FatFile.Opening}
  {files left : Files} {expected : Expected} {exchange : Exchange}
  {exchanges : List Exchange} {name : Name} {bytes : List UInt8} {locked : Bool}
  {sites : Name → Option Site}

theorem Unlisted.not_onVolume {site : Site} (hunlisted : Unlisted layout start name) :
    ¬ OnVolume layout start name bytes locked site := by
  rintro ⟨extent, count, hdirectory, hfiled⟩
  obtain ⟨extent', count', hdirectory', hnone⟩ := hunlisted
  obtain ⟨rfl, rfl⟩ := hdirectory.unique hdirectory'
  exact hnone site.slot hfiled.only.1 ((hfiled.only.2 site.slot hfiled.only.1).mpr rfl)

section Agrees

variable {flags : Nat → UInt8} {chains : Nat → List UInt32} {extent : List UInt32}
  {count : Nat} {handles : Nat → FatFile} {views : Views Nat}

theorem Agrees.onlySlot
    (hagrees : Agrees layout sites flags chains extent count handles views start files)
    (hused : ¬ unused name) {slot : Nat} (hslot : slot < count)
    (hat : nameAt layout extent start.2.1.type start.1 slot = name) :
    OnlySlot layout extent start.2.1.type count start.1 name slot := by
  refine ⟨hslot, fun other hother => ⟨hagrees.slot_unique hused hslot hat hother, ?_⟩⟩
  rintro rfl
  exact hat

theorem Agrees.lies
    (hagrees : Agrees layout sites flags chains extent count handles views start files)
    (hused : ¬ unused name) (hentry : files.entry name = .file bytes locked) :
    ∃ site, Lies layout extent start.2.1.type
      (marksAt layout extent start.2.1.type start.1) chains count views name site := by
  obtain ⟨slot, hslot, hmarks, hopen, -⟩ := hagrees.listed hused hentry
  exact ⟨⟨slot, slotBlock layout extent start.2.1.type slot, chains slot⟩, hslot,
    congrArg Prod.fst hmarks, hused, hopen, rfl, rfl⟩

theorem Agrees.filed
    (hagrees : Agrees layout sites flags chains extent count handles views start files)
    (hentry : files.entry name = .file bytes locked) (hshut : files.Shut name) {site : Site}
    (hlies : Lies layout extent start.2.1.type
      (marksAt layout extent start.2.1.type start.1) chains count views name site) :
    Filed layout extent start.2.1.type count start.1 name bytes locked site := by
  obtain ⟨slot, hslot, hmarks, hopen, place, hview⟩ := hagrees.listed hlies.used hentry
  obtain ⟨hat, hlocked⟩ := Prod.mk.inj hmarks
  obtain rfl : site.slot = slot :=
    hagrees.slot_unique hlies.used hslot hat hlies.inside hlies.named
  have hshows := hagrees.disk.shared.shows hview
  obtain ⟨-, -, hhandle⟩ := hagrees.disk.entry hopen
  have hclean := hagrees.holding.clean hopen hat hshut
  have hregular := hshows.regular
  have hrecorded := hshows.recorded hclean
  have hfirst := hshows.first
  have hsize := hshows.size
  have hlength := hshows.length
  have hbytes := hshows.bytes
  dsimp only at hhandle hregular hrecorded hfirst hsize hlength hbytes
  have hblock := hhandle.dirBlock.trans hlies.block
  rw [hblock, hhandle.dirIndex] at hregular
  rw [hblock] at hrecorded
  obtain ⟨hsize', hcluster⟩ := hrecorded
  rw [hhandle.dirIndex] at hsize' hcluster
  rw [← hlength, hlies.chain] at hsize hbytes
  refine ⟨hagrees.onlySlot hlies.used hslot hat, hlies.block, hlocked, hregular, ?_, ?_, ?_,
    hsize, hbytes⟩
  · rw [hsize', hlength]
  · rw [hcluster, hfirst, hlies.chain]
  · rw [← hlies.chain]
    exact hshows.toChained

theorem Agrees.onVolume
    (hagrees : Agrees layout sites flags chains extent count handles views start files) :
    files.OnVolume layout start where
  shut hused hentry hshut := by
    obtain ⟨site, hlies⟩ := hagrees.lies hused hentry
    exact ⟨site, extent, count, hagrees.disk.directory, hagrees.filed hentry hshut hlies⟩
  current := by
    intro name bytes locked flag place hentry hcurrent
    have hholding := hagrees.holding
    rw [hcurrent] at hholding
    obtain ⟨hused, slot, hslot, bytes', locked', hmarks, hentry', hview, hhandle, hflags, -⟩ :=
      hholding
    rw [hentry] at hentry'
    obtain ⟨rfl, rfl⟩ := Entry.file.inj hentry'
    obtain ⟨hat, hlocked⟩ := Prod.mk.inj hmarks
    obtain ⟨-, hshows, hslot'⟩ := hagrees.shows hview hhandle
    exact ⟨extent, count, slot, chains slot, hagrees.disk.directory,
      hagrees.onlySlot hused hslot hat, hlocked, hslot', hflags, hshows⟩
  absent hused hentry := by
    have hlisted := hagrees.lists _ hused
    rw [hentry] at hlisted
    exact ⟨extent, count, hagrees.disk.directory, hlisted⟩

end Agrees

theorem AgreedAt.answered (hsound : layout.Sound)
    (hrounds : layout.clusterCount.toNat ≤ rounds) (hagreed : AgreedAt layout sites start files)
    (hapart : ∀ name site, sites name = some site →
      exchange.request.Apart name ∧ files.Shut name)
    (hexpect : files.expect layout exchange.request = some expected)
    (hstep : FatFile.exchange io layout rounds exchange start = some finish) :
    ∃ left, Files.answered exchange.answer expected = some left ∧
      AgreedAt layout sites finish left := by
  obtain ⟨flags, chains, extent, count, handles, views, hagrees⟩ := hagreed
  obtain ⟨hdone, hfailed⟩ :=
    (hagrees.ends_perform hsound hrounds hapart hexpect).observed hstep
  cases hanswer : exchange.answer with
  | none => exact ⟨expected.failed, rfl, (hfailed hanswer).1⟩
  | some answer =>
      obtain ⟨bytes, left, hleft, rfl, hagreed⟩ := hdone answer hanswer
      refine ⟨left, ?_, hagreed⟩
      unfold Files.answered
      rw [hleft]
      exact if_pos rfl

theorem Agreed.answered (hsound : layout.Sound)
    (hrounds : layout.clusterCount.toNat ≤ rounds) (hagreed : Agreed layout start files)
    (hexpect : files.expect layout exchange.request = some expected)
    (hstep : FatFile.exchange io layout rounds exchange start = some finish) :
    ∃ left, Files.answered exchange.answer expected = some left ∧ Agreed layout finish left :=
  AgreedAt.answered hsound hrounds hagreed
    (fun _ _ hsite => absurd hsite.symm (Option.some_ne_none _)) hexpect hstep

/-- A request that is not refused fails only where something hinders it, unless its handle is
lost. -/
theorem Agreed.hindered (hsound : layout.Sound)
    (hrounds : layout.clusterCount.toNat ≤ rounds) (hagreed : Agreed layout start files)
    {request : Request} (hexpect : files.expect layout request = some expected)
    (hdone : expected.done ≠ none) (hcurrent : files.current ≠ .lost)
    (hfailed : FatFile.exchange io layout rounds ⟨request, none⟩ start = some finish) :
    Hindered (Broken io) layout start finish request := by
  obtain ⟨flags, chains, extent, count, handles, views, hagrees⟩ := hagreed
  obtain ⟨-, hreason⟩ := ((hagrees.ends_perform hsound hrounds
    (fun _ _ hsite => absurd hsite.symm (Option.some_ne_none _)) hexpect).observed
    hfailed).2 rfl
  exact (hreason.resolve_left hdone).resolve_left hcurrent

theorem Follows.nothing (opening : FatFile.Opening) : Follows layout opening none :=
  fun _ hnone => absurd hnone.symm (Option.some_ne_none _)

theorem Follows.step (hsound : layout.Sound) (hrounds : layout.clusterCount.toNat ≤ rounds)
    (exchange : Exchange) (known : Option Files) (hfollows : Follows layout start known)
    (hstep : FatFile.exchange io layout rounds exchange start = some finish) :
    ∃ next, Files.step layout exchange known = some next ∧ Follows layout finish next := by
  cases known with
  | none => exact ⟨none, rfl, .nothing finish⟩
  | some files =>
      rw [Files.step]
      cases hexpect : files.expect layout exchange.request with
      | none => exact ⟨none, rfl, .nothing finish⟩
      | some expected =>
          obtain ⟨left, hleft, hagreed⟩ :=
            Agreed.answered hsound hrounds (hfollows files rfl) hexpect hstep
          dsimp only
          rw [hleft]
          refine ⟨some left, rfl, fun next hnext => ?_⟩
          rw [← Option.some.inj hnext]
          exact hagreed

theorem Agreed.run (hsound : layout.Sound) (hrounds : layout.clusterCount.toNat ≤ rounds)
    (hagreed : Agreed layout start files)
    (hrun : run (FatFile.exchange io layout rounds) exchanges start = some finish) :
    ∃ known, run (Files.step layout) exchanges (some files) = some known ∧
      Follows layout finish known := by
  have hfollows : Follows layout start (some files) := by
    intro other hother
    rw [← Option.some.inj hother]
    exact hagreed
  have hsimulates := run_simulates (Files.step layout) (Follows layout) id
    (fun exchange _ state known next hrel hstep =>
      Follows.step hsound hrounds exchange known hrel hstep) hfollows hrun
  rwa [List.map_id] at hsimulates

/-- In every session each request is answered as the files by their names allow, and at its
end every file that is known is on the volume, with its entry, its chain and its bytes, and
no name that is known to be absent. -/
theorem sessions_follow_files (hsound : layout.Sound)
    (hrounds : layout.clusterCount.toNat ≤ rounds) (hagreed : Agreed layout start files)
    (hrun : run (FatFile.exchange io layout rounds) exchanges start = some finish) :
    ∃ known, run (Files.step layout) exchanges (some files) = some known ∧
      ∀ left, known = some left → left.OnVolume layout finish := by
  obtain ⟨known, hknown, hfollows⟩ := hagreed.run hsound hrounds hrun
  refine ⟨known, hknown, fun left hleft => ?_⟩
  obtain ⟨flags, chains, extent, count, handles, views, hagrees⟩ := hfollows left hleft
  exact hagrees.onVolume

def fileA : Text := text "A"

def nameA : Name := #v[65, 32, 32, 32, 32, 32, 32, 32, 32, 32, 32]

/-- A file is made, written and closed. -/
def firstSession : List Exchange :=
  [⟨.openIn fileA fileWrite, some (some [])⟩, ⟨.call (.write [1, 2, 3]), some (some [])⟩,
    ⟨.close, some (some [])⟩]

/-- Another file is made, and the card fails while it is written. -/
def secondSession : List Exchange :=
  [⟨.openIn (text "B") fileWrite, some (some [])⟩, ⟨.call (.write [4]), none⟩]

theorem firstSession_isSome :
    (run (FatFile.exchange (failingFrom 13) smallLayout 4085) firstSession
      newSession).isSome = true := by
  decide +kernel

/-- The volume with the first file. -/
def writtenSession : FatFile.Opening :=
  (run (FatFile.exchange (failingFrom 13) smallLayout 4085) firstSession newSession).get
    firstSession_isSome

theorem firstSession_run :
    run (FatFile.exchange (failingFrom 13) smallLayout 4085) firstSession newSession =
      some writtenSession := (Option.some_get firstSession_isSome).symm

theorem secondSession_isSome :
    (run (FatFile.exchange (failingFrom 13) smallLayout 4085) secondSession
      writtenSession).isSome = true := by
  decide +kernel

def brokenSession : FatFile.Opening :=
  (run (FatFile.exchange (failingFrom 13) smallLayout 4085) secondSession
    writtenSession).get secondSession_isSome

theorem secondSession_run :
    run (FatFile.exchange (failingFrom 13) smallLayout 4085) secondSession writtenSession =
      some brokenSession := (Option.some_get secondSession_isSome).symm

theorem sessions_follow_files_broken :
    ∃ known, run (Files.step smallLayout) (firstSession ++ secondSession) (some noFiles) =
        some known ∧
      ∀ left, known = some left → left.OnVolume smallLayout brokenSession := by
  apply sessions_follow_files smallLayout_sound (le_refl 4085) newSession_agreed
  rw [run_append, firstSession_run]
  exact secondSession_run

def writtenFiles : Files where
  entry := Function.update (Function.update noFiles.entry nameA (.file [] false)) nameA
    (.file [1, 2, 3] false)
  slots := 32
  spare := false
  current := .closed

theorem firstSession_files :
    run (Files.step smallLayout) firstSession (some noFiles) = some (some writtenFiles) := rfl

theorem writtenSession_agreed : Agreed smallLayout writtenSession writtenFiles := by
  obtain ⟨known, hknown, hfollows⟩ :=
    newSession_agreed.run smallLayout_sound (le_refl 4085) firstSession_run
  rw [firstSession_files] at hknown
  exact hfollows writtenFiles (Option.some.inj hknown).symm

/-! Files that a session does not name. -/

namespace Files

/-- The file is as it was, and not open. -/
def Idle (name : Name) (before after : Files) : Prop :=
  after.entry name = before.entry name ∧ after.Shut name

/-- However the request ends, the file is left as it was. -/
structure Spares (name : Name) (files : Files) (expected : Expected) : Prop where
  failed : files.Idle name expected.failed
  done : ∀ bytes next, expected.done = some (bytes, next) → files.Idle name next

variable {other : Name}

theorem Idle.setEntry (hother : name ≠ other) {entry : Entry} {current : Current}
    (hcurrent : ∀ flags place, current ≠ .file name flags place) :
    files.Idle name (files.setEntry other entry current) :=
  ⟨Function.update_of_ne hother _ _, hcurrent⟩

theorem Shut.refused (hshut : files.Shut name) : Spares name files files.refused :=
  ⟨⟨rfl, hshut⟩, nofun⟩

theorem file_ne (hother : name ≠ other) (flags : UInt8) (place : Nat) :
    ∀ flags' place', Current.file other flags place ≠ .file name flags' place' := by
  intro flags' place' hsame
  exact hother (Current.file.inj hsame).1.symm

theorem Shut.openFile (hshut : files.Shut name) (hother : name ≠ other)
    (bytes : List UInt8) (locked : Bool) (oflag : UInt8) :
    Spares name files (files.openFile other bytes locked oflag) := by
  unfold Files.openFile
  split
  · exact hshut.refused
  · constructor
    · dsimp only
      split
      · exact .setEntry hother (Current.lost_ne name)
      · exact ⟨rfl, hshut⟩
    · intro bytes' next hdone
      dsimp only at hdone
      split at hdone
      · cases hdone
      · cases hdone
        exact .setEntry hother (file_ne hother _ _)

theorem Shut.create (hshut : files.Shut name) (hother : name ≠ other) {oflag : UInt8}
    (hexpect : files.create layout other oflag = some expected) :
    Spares name files expected := by
  rw [Files.create] at hexpect
  split at hexpect
  · cases hexpect
    exact hshut.refused
  · split at hexpect
    · cases hexpect
    · cases hexpect
      refine ⟨⟨Function.update_of_ne hother _ _, hshut⟩, fun bytes next hdone => ?_⟩
      cases hdone
      exact ⟨Function.update_of_ne hother _ _, file_ne hother _ _⟩

theorem Shut.call (hshut : files.Shut name) {command : Command}
    (hexpect : files.call command = some expected) : Spares name files expected := by
  rw [Files.call] at hexpect
  cases hcurrent : files.current with
  | closed =>
      rw [hcurrent] at hexpect
      cases hexpect
      exact hshut.refused
  | lost =>
      rw [hcurrent] at hexpect
      cases hexpect
  | file other flags place =>
      have hother : name ≠ other := by
        rintro rfl
        exact hshut flags place hcurrent
      rw [hcurrent] at hexpect
      dsimp only at hexpect
      split at hexpect
      · split at hexpect
        · split at hexpect
          · cases hexpect
            exact hshut.refused
          · cases hexpect
            refine ⟨.setEntry hother (Current.lost_ne name), fun bytes next hdone => ?_⟩
            cases hdone
            exact .setEntry hother (file_ne hother _ _)
        · cases hexpect
      · cases hexpect

theorem Shut.close (hshut : files.Shut name) : Spares name files files.close := by
  unfold Files.close
  split
  · exact hshut.refused
  · refine ⟨⟨rfl, hshut⟩, fun bytes next hdone => ?_⟩
    cases hdone
    exact ⟨rfl, Current.closed_ne name⟩
  · next other flags place hcurrent =>
    have hother : name ≠ other := by
      rintro rfl
      exact hshut flags place hcurrent
    refine ⟨.setEntry hother (Current.lost_ne name), fun bytes next hdone => ?_⟩
    cases hdone
    exact ⟨rfl, Current.closed_ne name⟩

theorem Shut.unlink (hshut : files.Shut name) (hother : name ≠ other) (locked : Bool) :
    Spares name files (remove.unlink files other locked) := by
  unfold remove.unlink
  split
  · exact hshut.refused
  · refine ⟨.setEntry hother hshut, fun bytes next hdone => ?_⟩
    cases hdone
    exact .setEntry hother hshut

theorem Shut.remove (hshut : files.Shut name) (hother : name ≠ other) {locked : Bool}
    (hexpect : files.remove other locked = some expected) : Spares name files expected := by
  unfold Files.remove at hexpect
  split at hexpect
  · split at hexpect
    · cases hexpect
    · cases hexpect
      exact hshut.unlink hother locked
  · cases hexpect
    exact hshut.unlink hother locked

theorem Shut.expect (hshut : files.Shut name) {request : Request}
    (hapart : request.Apart name) (hexpect : files.expect layout request = some expected) :
    Spares name files expected := by
  cases request with
  | openIn fileName oflag =>
      unfold Files.expect at hexpect
      dsimp only at hexpect
      split at hexpect
      · cases hexpect
        exact hshut.refused
      · cases hexpect
        exact hshut.refused
      · next other hname _ =>
        have hother : name ≠ other := by
          rintro rfl
          exact hapart hname
        split at hexpect
        · exact hshut.create hother hexpect
        · cases hexpect
          exact hshut.openFile hother _ _ oflag
        · cases hexpect
  | call command => exact hshut.call hexpect
  | close =>
      cases hexpect
      exact hshut.close
  | removeIn fileName =>
      unfold Files.expect at hexpect
      dsimp only at hexpect
      split at hexpect
      · cases hexpect
        exact hshut.refused
      · next other hname =>
        have hother : name ≠ other := by
          rintro rfl
          exact hapart hname
        split at hexpect
        · cases hexpect
          exact hshut.refused
        · exact hshut.remove hother hexpect
        · cases hexpect

theorem Shut.answered (hshut : files.Shut name) (hapart : exchange.request.Apart name)
    (hexpect : files.expect layout exchange.request = some expected)
    (hanswered : answered exchange.answer expected = some left) : files.Idle name left := by
  have hspares := hshut.expect hapart hexpect
  unfold Files.answered at hanswered
  split at hanswered
  · cases hanswered
    exact hspares.failed
  · cases hanswered
  · next hdone =>
    split at hanswered
    · cases hanswered
      exact hspares.done _ _ hdone
    · cases hanswered

theorem run_nothing {known : Option Files}
    (hrun : run (step layout) exchanges none = some known) : known = none :=
  run_invariant (· = none) (fun _ _ start finish hstart hstep => by
    rw [hstart] at hstep
    exact (Option.some.inj hstep).symm) rfl hrun

theorem step_some (hstep : step layout exchange (some files) = some (some left)) :
    ∃ expected, files.expect layout exchange.request = some expected ∧
      answered exchange.answer expected = some left := by
  rw [step] at hstep
  split at hstep
  · cases hstep
  · next expected hexpect =>
    obtain ⟨next, hanswered, hnext⟩ := Option.map_eq_some_iff.mp hstep
    cases hnext
    exact ⟨expected, hexpect, hanswered⟩

theorem Shut.run (hshut : files.Shut name)
    (hapart : ∀ exchange ∈ exchanges, exchange.request.Apart name)
    (hrun : run (step layout) exchanges (some files) = some (some left)) :
    files.Idle name left := by
  induction exchanges generalizing files with
  | nil =>
      cases hrun
      exact ⟨rfl, hshut⟩
  | cons exchange rest ih =>
      obtain ⟨middle, hfirst, hrest⟩ := run_cons_some hrun
      cases middle with
      | none => cases run_nothing hrest
      | some middle =>
          obtain ⟨expected, hexpect, hanswered⟩ := step_some hfirst
          obtain ⟨hentry, hshut'⟩ :=
            hshut.answered (hapart exchange (.head rest)) hexpect hanswered
          obtain ⟨hentry', hshut''⟩ :=
            ih hshut' (fun other hin => hapart other (.tail exchange hin)) hrest
          exact ⟨hentry'.trans hentry, hshut''⟩

end Files

/-- A file that is not open and that no request names lies where it did after a session. -/
theorem AgreedAt.run (hsound : layout.Sound) (hrounds : layout.clusterCount.toNat ≤ rounds)
    (hagreed : AgreedAt layout sites start files)
    (hshut : ∀ name site, sites name = some site → files.Shut name)
    (hapart : ∀ exchange ∈ exchanges, ∀ name site, sites name = some site →
      exchange.request.Apart name)
    (hrun : run (FatFile.exchange io layout rounds) exchanges start = some finish)
    (hfiles : run (Files.step layout) exchanges (some files) = some (some left)) :
    AgreedAt layout sites finish left := by
  induction exchanges generalizing start files with
  | nil =>
      cases hrun
      cases hfiles
      exact hagreed
  | cons exchange rest ih =>
      obtain ⟨middle, hfirst, hrest⟩ := run_cons_some hrun
      obtain ⟨known, hfirst', hrest'⟩ := run_cons_some hfiles
      cases known with
      | none => cases Files.run_nothing hrest'
      | some next =>
          obtain ⟨expected, hexpect, hanswered⟩ := Files.step_some hfirst'
          obtain ⟨next', hanswered', hagreed'⟩ := hagreed.answered hsound hrounds
            (fun name site hsite =>
              ⟨hapart exchange (.head rest) name site hsite, hshut name site hsite⟩)
            hexpect hfirst
          obtain rfl : next = next' := Option.some.inj (hanswered.symm.trans hanswered')
          refine ih hagreed' (fun name site hsite => ?_)
            (fun other hin => hapart other (.tail exchange hin)) hrest hrest'
          exact ((hshut name site hsite).answered
            (hapart exchange (.head rest) name site hsite) hexpect hanswered).2

theorem local_request (layout : Layout) (rounds : Nat) (request : Request) :
    Local FatFile.madeIn fun io => request.perform io layout rounds := by
  cases request with
  | openIn fileName oflag =>
      exact (FatFile.local_openIn layout rounds fileName oflag).bind fun _ => local_pure _
  | call command => exact FatFile.local_onFile (FatFile.local_perform layout rounds command)
  | close => exact (FatFile.local_onFile FatFile.local_close).bind fun _ => local_pure _
  | removeIn fileName =>
      exact (FatFile.local_onDirFile (FatFile.local_removeIn layout rounds fileName)).bind
        fun _ => local_pure _

theorem removal_isSome :
    (FatFile.exchange (failingFrom 13) smallLayout 4085 ⟨.removeIn fileA, none⟩
      writtenSession).isSome = true := by
  decide +kernel

/-- The removal gets as far as the cluster of the file. -/
def cutSession : FatFile.Opening :=
  (FatFile.exchange (failingFrom 13) smallLayout 4085 ⟨.removeIn fileA, none⟩
    writtenSession).get removal_isSome

theorem secondSession_apart :
    ∀ exchange ∈ secondSession, exchange.request.Apart nameA := by
  intro exchange hin
  rcases List.mem_cons.mp hin with rfl | hin
  · exact (by decide : make83Name (text "B") ≠ some nameA)
  · rw [List.mem_singleton.mp hin]
    trivial

end SenseBox.SD
