import SenseBox.SD.Append

namespace SenseBox.SD

open SenseBox.Data
open SdFile

/-! Creating a missing file, asking for it, and reading it back. -/

/-- The name is free and the root directory has a slot for it or can grow. -/
inductive Vacant (volume : Volume) (name : Name) : Prop where
  | slot (index : Nat)
      (absent : search .ok name volume.root 0 none = .absent (some index))
  | cluster (absent : search .ok name volume.root 0 none = .absent none)
      (grows : volume.fatType = .fat32) (room : 0 < volume.entriesPerCluster)

def Usable (volume : Volume) (name : Name) (content : List UInt8) : Prop :=
  Holds volume name content ∨ content = [] ∧ Vacant volume name

theorem regular_create (name : Name) : (DirEntry.create name).Regular where
  isFile := show ((0 : UInt8) &&& attFileTypeMask == 0) = true by decide
  writable := show (0 : UInt8) &&& (attReadOnly ||| attDirectory) = 0 by decide

theorem openIn_absent {filepath : Text} {name : Name}
    (hpath : RootPath filepath name) {volume : Volume} {empty : Option Nat}
    (habsent : search .ok name volume.root 0 none = .absent empty) :
    openIn .ok (openRoot volume) filepath fileWrite volume =
      match empty with
      | some index => createAt .ok .root index fileWrite name volume
      | none =>
          if (openRoot volume).type = .root16 then (none, volume)
          else createAt .ok .root volume.root.length fileWrite name
            (volume.setDir .root (volume.root ++
              List.replicate volume.entriesPerCluster .zero)) := by
  have hmode : fileWrite &&& (oCreat ||| oWrite) = oCreat ||| oWrite := by decide
  simp only [openIn, hpath.short, isDir_openRoot, listed_openRoot, Volume.dir,
    habsent, hmode]
  cases empty <;> simp

theorem Vacant.create {filepath : Text} {name : Name}
    (hpath : RootPath filepath name) {volume : Volume}
    (hvacant : Vacant volume name) :
    ∃ after index, openIn .ok (openRoot volume) filepath fileWrite volume =
        openCachedEntry .ok .root index fileWrite (.create name) after ∧
      search .ok name after.root 0 none = .found index ∧
      after.root[index]? = some (.create name) := by
  cases hvacant with
  | slot index habsent =>
      obtain ⟨-, hlt, hfound⟩ :=
        search_created hpath.used (DirEntry.name_create name) habsent
      rw [Nat.sub_zero] at hlt hfound
      refine ⟨volume.setEntry .root index (.create name), index, ?_, ?_, ?_⟩
      · rw [openIn_absent hpath habsent]
        simp [createAt]
      · simpa [Volume.setEntry, Volume.setDir, Volume.dir] using hfound
      · simp [Volume.setEntry, Volume.setDir, Volume.dir, hlt]
  | cluster habsent hgrows hroom =>
      obtain ⟨more, hmore⟩ := Nat.exists_eq_succ_of_ne_zero hroom.ne'
      have htype : (openRoot volume).type ≠ .root16 := by
        simp [openRoot, hgrows]
      have hset : (volume.root ++
          List.replicate volume.entriesPerCluster DirEntry.zero).set
            volume.root.length (.create name) =
          volume.root ++ .create name :: List.replicate more .zero := by
        rw [hmore, List.replicate_succ, List.set_append_right _ _ (Nat.le_refl _),
          Nat.sub_self, List.set_cons_zero]
      refine ⟨(volume.setDir .root (volume.root ++
          List.replicate volume.entriesPerCluster .zero)).setEntry .root
            volume.root.length (.create name), volume.root.length, ?_, ?_, ?_⟩
      · rw [openIn_absent hpath habsent]
        simp [createAt, htype]
      · simp only [Volume.setEntry, Volume.setDir, Volume.dir, hset]
        simpa using search_appended hpath.used (DirEntry.name_create name)
          (List.replicate more .zero) habsent
      · simp [Volume.setEntry, Volume.setDir, Volume.dir, hset]

/-- `SD.open(name, FILE_WRITE)` gives a handle at the end of the file, which
is created when it is missing. -/
theorem Usable.open_write {filepath : Text} {name : Name}
    (hpath : RootPath filepath name) {volume : Volume}
    {content : List UInt8} (husable : Usable volume name content) :
    ∃ file after, sdOpen (fun _ => .ok) filepath fileWrite volume =
        (some file, after) ∧
      Attached after name file ∧ AtEnd after file content := by
  rcases husable with hholds | ⟨rfl, hvacant⟩
  · obtain ⟨file, hopen, hfile⟩ := hholds.open_write hpath
    exact ⟨file, volume, hopen, hfile⟩
  · obtain ⟨after, index, hopen, hfound, hentry⟩ := hvacant.create hpath
    exact ⟨_, after, sdOpen_write hpath (regular_create name) hopen,
      attached_rootHandle hfound hentry (regular_create name)⟩

theorem Holds.exists {filepath : Text} {name : Name}
    (hpath : RootPath filepath name) {volume : Volume}
    {content : List UInt8} (hholds : Holds volume name content) :
    sdExists (fun _ => .ok) filepath volume = true := by
  obtain ⟨index, entry, hfound, hentry, hregular, -⟩ := hholds
  have hopen := openIn_found hpath hfound hentry oRdonly (by decide)
  rw [openCachedEntry_regular hregular _ _ _ (by decide)] at hopen
  rw [sdExists, walkPath]
  simp [hpath.oneComponent, callbackPathExists, hopen]

/-! Reading: a handle opened with `FILE_READ` and the entry it reads. -/

structure Reading (volume : Volume) (entry : DirEntry)
    (file : SdFile) : Prop where
  stored : volume.root[file.dirIndex]? = some entry
  type : file.type = .normal
  flags : file.flags = oRead
  dir : file.dir = .root
  clean : file.dirty = false
  size : file.fileSize = entry.fileSize
  chainPos : file.chainPos = file.curPosition.toNat
  bounded : file.curPosition ≤ file.fileSize

theorem Holds.open_read {filepath : Text} {name : Name}
    (hpath : RootPath filepath name) {volume : Volume}
    {content : List UInt8} (hholds : Holds volume name content) :
    ∃ file entry, sdOpen (fun _ => .ok) filepath fileRead volume =
        (some file, volume) ∧
      Reading volume entry file ∧ file.curPosition = 0 ∧
      entry.content = content := by
  obtain ⟨index, entry, hfound, hentry, hregular, rfl⟩ := hholds
  exact ⟨rootHandle index entry oRead 0, entry,
    sdOpen_read hpath hregular
      (openIn_found hpath hfound hentry fileRead (by decide)),
    ⟨hentry, rfl, rfl, rfl, rfl, rfl, rfl, UInt32.zero_le⟩, rfl, rfl⟩

theorem Reading.left {volume : Volume} {entry : DirEntry} {file : SdFile}
    (hreading : Reading volume entry file) :
    (file.fileSize - file.curPosition).toNat =
      file.fileSize.toNat - file.curPosition.toNat :=
  UInt32.toNat_sub_of_le _ _ hreading.bounded

theorem Reading.length_content {volume : Volume} {entry : DirEntry}
    {file : SdFile} (hreading : Reading volume entry file) :
    entry.content.length = file.fileSize.toNat := by
  rw [DirEntry.length_content, hreading.size]

theorem Reading.read {volume : Volume} {entry : DirEntry} {file : SdFile}
    (hreading : Reading volume entry file)
    (hinside : file.curPosition < file.fileSize) :
    ∃ next, File.read .ok (some file) volume =
        (some (entry.chain file.curPosition.toNat), some next) ∧
      Reading volume entry next ∧
      next.curPosition.toNat = file.curPosition.toNat + 1 := by
  have hlt := UInt32.lt_iff_toNat_lt.mp hinside
  have hbound := file.fileSize.toNat_lt
  have hleft : ¬ file.fileSize - file.curPosition = 0 := by
    intro hzero
    have hcount := hreading.left
    rw [hzero] at hcount
    simp only [UInt32.toNat_zero] at hcount
    omega
  have hnext : (file.curPosition + 1).toNat = file.curPosition.toNat + 1 := by
    rw [UInt32.toNat_add]
    simp only [UInt32.reduceToNat]
    omega
  have hread : ¬ oRead = 0 := by decide
  refine ⟨{ file with
    curPosition := file.curPosition + 1
    chainPos := file.chainPos + 1 }, ?_, ?_, hnext⟩
  · simp [File.read, SdFile.read, isOpen, Volume.entry?, Volume.dir,
      hreading.type, hreading.flags, hreading.dir, hreading.stored,
      hreading.chainPos, hleft, hread]
  · refine ⟨hreading.stored, hreading.type, hreading.flags, hreading.dir,
      hreading.clean, hreading.size, ?_, ?_⟩
    · simp only [hnext, hreading.chainPos]
    · rw [UInt32.le_iff_toNat_le, hnext]
      exact hlt

/-- A read that fails leaves the handle where it is. -/
theorem Reading.read_io {volume : Volume} {entry : DirEntry} {file : SdFile}
    (hreading : Reading volume entry file)
    (hinside : file.curPosition < file.fileSize) (io : Io) :
    File.read io (some file) volume =
      if io .readByte then File.read .ok (some file) volume
      else (none, some file) := by
  have hlt := UInt32.lt_iff_toNat_lt.mp hinside
  have hleft : ¬ file.fileSize - file.curPosition = 0 := by
    intro hzero
    have hcount := hreading.left
    rw [hzero] at hcount
    simp only [UInt32.toNat_zero] at hcount
    omega
  have hread : ¬ oRead = 0 := by decide
  cases hbyte : io .readByte <;>
    simp [File.read, SdFile.read, isOpen, hreading.type, hreading.flags, hleft,
      hread, hbyte]

theorem sub_eq_zero_iff (left right : UInt32) :
    left - right = 0 ↔ left = right := by
  constructor
  · intro hzero
    rw [← UInt32.sub_add_cancel left right, hzero, UInt32.zero_add]
  · rintro rfl
    exact UInt32.sub_self left

theorem clipped_eq_zero (left : UInt32) :
    (if left > 0x7FFF then 0x7FFF else left.toUInt16.toInt16 : Int16) = 0 ↔ left = 0 := by
  split
  · rename_i hlarge
    constructor
    · intro hzero
      exact absurd hzero (by decide)
    · rintro rfl
      exact absurd hlarge (by decide)
  · rename_i hsmall
    have hle : left.toNat ≤ 0x7FFF := by
      simpa [UInt32.lt_iff_toNat_lt] using hsmall
    constructor
    · intro hzero
      have hlow : left.toUInt16 = 0 := congrArg Int16.toUInt16 hzero
      have hnat : left.toNat % 2 ^ 16 = 0 := by
        simpa using congrArg UInt16.toNat hlow
      apply UInt32.toNat_inj.mp
      simp only [UInt32.toNat_zero]
      omega
    · rintro rfl
      decide

theorem available_eq_zero (file : SdFile) :
    File.available (some file) = 0 ↔ file.fileSize = file.curPosition := by
  rw [← sub_eq_zero_iff]
  exact clipped_eq_zero (file.fileSize - file.curPosition)

end SenseBox.SD
