import SenseBox.SD.Lookup
import Mathlib.Data.List.GetD

namespace SenseBox.SD

open SenseBox.Data
open SdFile

/-! Appending to a file of the root directory, when no access fails. -/

structure DirEntry.Regular (entry : DirEntry) : Prop where
  isFile : entry.isFile = true
  writable : entry.attributes &&& (attReadOnly ||| attDirectory) = 0

/-- The volume has, under a name of its root directory, a file that can be
written and has this content. -/
def Holds (volume : Volume) (name : Name) (content : List UInt8) : Prop :=
  ∃ index entry, search .ok name volume.root 0 none = .found index ∧
    volume.root[index]? = some entry ∧ entry.Regular ∧
    entry.content = content

structure RootPath (filepath : Text) (name : Name) : Prop where
  noSlash : slash ∉ filepath
  nonempty : filepath ≠ []
  oneComponent : getNextPathComponent filepath = (filepath, [])
  short : make83Name filepath = some name
  used : ¬ unused name

theorem Holds.length_lt {volume : Volume} {name : Name}
    {content : List UInt8} (hholds : Holds volume name content) :
    content.length < 2 ^ 32 := by
  obtain ⟨index, entry, -, -, -, rfl⟩ := hholds
  exact entry.content_length_lt

/-! Bytes in the cluster chain. -/

theorem overwrite_overwrite (chain : Nat → UInt8) (start : Nat)
    (first second : List UInt8) :
    overwrite (overwrite chain start first) (start + first.length) second =
      overwrite chain start (first ++ second) := by
  funext position
  unfold overwrite
  by_cases hstart : position < start
  · simp [hstart, Nat.lt_of_lt_of_le hstart (Nat.le_add_right _ _)]
  · simp only [hstart, if_false]
    by_cases hfirst : position < start + first.length
    · have hshort : position - start < first.length := by omega
      rw [if_pos hfirst, List.getD_append _ _ _ _ hshort]
    · have hlong : first.length ≤ position - start := by omega
      rw [if_neg hfirst, List.getD_append_right _ _ _ _ hlong,
        List.getD_eq_default _ _ hlong, Nat.sub_sub]

@[simp] theorem overwrite_nil (chain : Nat → UInt8) (start : Nat) :
    overwrite chain start [] = chain := by
  funext position
  simp [overwrite]

theorem map_range_overwrite (chain : Nat → UInt8) (size : Nat)
    (bytes : List UInt8) :
    (List.range (size + bytes.length)).map (overwrite chain size bytes) =
      (List.range size).map chain ++ bytes := by
  apply List.ext_getElem
  · simp
  · intro position hleft hright
    by_cases hsize : position < size
    · simp [overwrite, hsize]
    · have hbytes : position - size < bytes.length := by
        simp only [List.length_append, List.length_map, List.length_range]
          at hright
        omega
      simp [overwrite, hsize, List.getElem_append, hbytes]

theorem writeBlocks_ok (src : List UInt8) (file : SdFile)
    (chain : Nat → UInt8) :
    writeBlocks .ok src file chain =
      (true,
        { file with
          curPosition := file.curPosition + UInt32.ofNat src.length
          chainPos := file.chainPos + src.length },
        overwrite chain file.chainPos src) := by
  fun_induction writeBlocks Io.ok src file chain with
  | case1 file chain =>
      simp
  | case2 src file chain hdone hfail =>
      simp at hfail
  | case3 src file chain hdone n hok ih =>
      rw [ih]
      have hn : n ≤ src.length := Nat.min_le_right _ _
      have htake : (src.take n).length = n := by simp [hn]
      have hrest : (src.drop n).length = src.length - n := List.length_drop
      have hposition : file.curPosition + UInt32.ofNat n +
          UInt32.ofNat (src.drop n).length =
            file.curPosition + UInt32.ofNat src.length := by
        rw [UInt32.add_assoc, ← UInt32.ofNat_add, hrest,
          Nat.add_sub_cancel' hn]
      have hchain : file.chainPos + n + (src.drop n).length =
          file.chainPos + src.length := by omega
      have hbytes : overwrite (overwrite chain file.chainPos (src.take n))
          (file.chainPos + n) (src.drop n) =
            overwrite chain file.chainPos src := by
        have := overwrite_overwrite chain file.chainPos (src.take n)
          (src.drop n)
        rwa [htake, List.take_append_drop] at this
      rw [hposition, hchain, hbytes]

/-- What the block loop does to a handle and to its cluster chain, wherever it
stops: it moves forward, and changes bytes from the place it started at. -/
structure Advanced (file moved : SdFile) (chain written : Nat → UInt8) :
    Prop where
  handle : moved = { file with
    curPosition := moved.curPosition
    chainPos := moved.chainPos }
  forward : file.chainPos ≤ moved.chainPos
  kept : ∀ position, position < file.chainPos →
    written position = chain position

theorem writeBlocks_advanced (io : Io) (src : List UInt8) (file : SdFile)
    (chain : Nat → UInt8) :
    Advanced file (writeBlocks io src file chain).2.1 chain
      (writeBlocks io src file chain).2.2 := by
  fun_induction writeBlocks io src file chain with
  | case1 file chain => exact ⟨rfl, Nat.le_refl _, fun _ _ => rfl⟩
  | case2 src file chain hdone hfail =>
      exact ⟨rfl, Nat.le_refl _, fun _ _ => rfl⟩
  | case3 src file chain hdone n hok ih =>
      refine ⟨ih.handle, Nat.le_trans (Nat.le_add_right _ n) ih.forward, ?_⟩
      intro position hposition
      have hlater := ih.kept position
        (Nat.lt_of_lt_of_le hposition (Nat.le_add_right _ n))
      rw [hlater, overwrite, if_pos hposition]

/-! A handle on a regular file of the root directory, opened for writing. -/

structure Attached (volume : Volume) (name : Name) (file : SdFile) : Prop where
  found : search .ok name volume.root 0 none = .found file.dirIndex
  regular : ∃ entry, volume.root[file.dirIndex]? = some entry ∧ entry.Regular
  type : file.type = .normal
  flags : file.flags = oAccmode
  dir : file.dir = .root

structure AtEnd (volume : Volume) (file : SdFile)
    (content : List UInt8) : Prop where
  position : file.curPosition = file.fileSize
  chainPos : file.chainPos = file.fileSize.toNat
  stored : ∃ entry, volume.root[file.dirIndex]? = some entry ∧
    (List.range file.fileSize.toNat).map entry.chain = content ∧
    (file.dirty = true ∨ entry.fileSize = file.fileSize)

theorem getParentDir_root {filepath : Text} (hslash : slash ∉ filepath)
    (io : Nat → Io) (level : Nat) (parent : SdFile) (volume : Volume) :
    getParentDir io level parent filepath volume = (some parent, filepath) := by
  rw [getParentDir.eq_def, if_pos hslash]

@[simp] theorem isDir_openRoot (volume : Volume) :
    (openRoot volume).isDir = true := by
  cases hfat : volume.fatType <;> simp [openRoot, isDir, isRoot, hfat]

@[simp] theorem listed_openRoot (volume : Volume) :
    (openRoot volume).listed = .root := by
  cases hfat : volume.fatType <;> simp [openRoot, listed, isRoot, hfat]

theorem openIn_found {filepath : Text} {name : Name}
    (hpath : RootPath filepath name) {io : Io} {volume : Volume} {index : Nat}
    {entry : DirEntry}
    (hfound : search io name volume.root 0 none = .found index)
    (hentry : volume.root[index]? = some entry) (oflag : UInt8)
    (hexcl : oflag &&& (oCreat ||| oExcl) ≠ oCreat ||| oExcl) :
    openIn io (openRoot volume) filepath oflag volume =
      openCachedEntry io .root index oflag entry volume := by
  simp only [openIn, hpath.short, isDir_openRoot, listed_openRoot, Volume.dir,
    hfound, hentry, hexcl, Bool.not_true, Bool.false_eq_true, if_false]

def rootHandle (index : Nat) (entry : DirEntry) (flags : UInt8)
    (position : UInt32) : SdFile where
  type := .normal
  flags := flags
  dirty := false
  dir := .root
  dirIndex := index
  firstCluster := entry.firstCluster
  fileSize := entry.fileSize
  curPosition := position
  chainPos := position.toNat

theorem openCachedEntry_regular {entry : DirEntry} (hregular : entry.Regular)
    (io : Io) (index : Nat) (oflag : UInt8) (htrunc : oflag &&& oTrunc = 0)
    (volume : Volume) :
    openCachedEntry io .root index oflag entry volume =
      (some (rootHandle index entry
        (oflag &&& (oAccmode ||| oSync ||| oAppend)) 0), volume) := by
  simp [openCachedEntry, rootHandle, hregular.writable, hregular.isFile, htrunc]

theorem sdOpen_rootPath {filepath : Text} {name : Name}
    (hpath : RootPath filepath name) (io : Nat → Io) (volume : Volume) :
    sdOpen io filepath fileWrite volume =
      match openIn (io 0) (openRoot volume) filepath fileWrite volume with
      | (none, volume) => (none, volume)
      | (some file, volume) =>
          (some (file.seekSet (io 0) file.fileSize).2, volume) := by
  have hmode : fileWrite &&& (oAppend ||| oWrite) ≠ 0 := by decide
  have hparent := getParentDir_root hpath.noSlash (io ∘ (· + 1)) 0
    (openRoot volume) volume
  obtain ⟨head, tail, rfl⟩ := List.exists_cons_of_ne_nil hpath.nonempty
  rw [sdOpen, hparent]
  cases hopen : openIn (io 0) (openRoot volume) (head :: tail) fileWrite volume with
  | mk opened after =>
      cases opened with
      | none => simp only [hopen]
      | some file => simp only [hopen, hmode, ne_eq, not_false_eq_true, if_true]

/-- `SD.open(name, FILE_WRITE)` moves the handle to the end of the file, and
leaves it at the start when that fails. -/
theorem sdOpen_write {filepath : Text} {name : Name}
    (hpath : RootPath filepath name) {volume after : Volume} {index : Nat}
    {entry : DirEntry} (hregular : entry.Regular) {io : Nat → Io}
    (hopen : openIn (io 0) (openRoot volume) filepath fileWrite volume =
      openCachedEntry (io 0) .root index fileWrite entry after) :
    sdOpen io filepath fileWrite volume =
      (some (rootHandle index entry oAccmode
        (if io 0 .seek then entry.fileSize else 0)), after) := by
  have hflags : fileWrite &&& (oAccmode ||| oSync ||| oAppend) = oAccmode := by
    decide
  rw [openCachedEntry_regular hregular _ _ _ (by decide), hflags] at hopen
  rw [sdOpen_rootPath hpath, hopen]
  by_cases hsize : entry.fileSize = 0
  · simp [seekSet, isOpen, rootHandle, hsize]
  · cases hseek : io 0 .seek <;>
      simp [seekSet, isOpen, rootHandle, hsize, hseek]

theorem sdOpen_read {filepath : Text} {name : Name}
    (hpath : RootPath filepath name) {volume after : Volume} {index : Nat}
    {entry : DirEntry} (hregular : entry.Regular) {io : Nat → Io}
    (hopen : openIn (io 0) (openRoot volume) filepath fileRead volume =
      openCachedEntry (io 0) .root index fileRead entry after) :
    sdOpen io filepath fileRead volume =
      (some (rootHandle index entry oRead 0), after) := by
  rw [openCachedEntry_regular hregular _ _ _ (by decide)] at hopen
  obtain ⟨head, tail, rfl⟩ := List.exists_cons_of_ne_nil hpath.nonempty
  have hmode : fileRead &&& (oAppend ||| oWrite) = 0 := by decide
  have hflags : fileRead &&& (oAccmode ||| oSync ||| oAppend) = oRead := by
    decide
  simp [sdOpen, getParentDir_root hpath.noSlash, hopen, hmode, hflags]

theorem attached_rootHandle {volume : Volume} {name : Name} {index : Nat}
    {entry : DirEntry}
    (hfound : search .ok name volume.root 0 none = .found index)
    (hentry : volume.root[index]? = some entry) (hregular : entry.Regular) :
    let file := rootHandle index entry oAccmode entry.fileSize
    Attached volume name file ∧ AtEnd volume file entry.content :=
  ⟨⟨hfound, ⟨entry, hentry, hregular⟩, rfl, rfl, rfl⟩,
    ⟨rfl, rfl, entry, hentry, rfl, .inr rfl⟩⟩

theorem Holds.open_write {filepath : Text} {name : Name}
    (hpath : RootPath filepath name) {volume : Volume}
    {content : List UInt8} (hholds : Holds volume name content) :
    ∃ file, sdOpen (fun _ => .ok) filepath fileWrite volume =
        (some file, volume) ∧
      Attached volume name file ∧ AtEnd volume file content := by
  obtain ⟨index, entry, hfound, hentry, hregular, rfl⟩ := hholds
  exact ⟨_, sdOpen_write hpath hregular
      (openIn_found hpath hfound hentry fileWrite (by decide)),
    attached_rootHandle hfound hentry hregular⟩

/-! Changing the entry under a handle keeps the handle attached. -/

theorem Attached.entry {volume : Volume} {name : Name} {file : SdFile}
    (hattached : Attached volume name file) :
    ∃ entry, volume.root[file.dirIndex]? = some entry ∧ entry.Regular ∧
      entry.name = name := by
  obtain ⟨entry, hentry, hregular⟩ := hattached.regular
  obtain ⟨-, found, hfound, hname, -⟩ := search_found hattached.found
  rw [Nat.sub_zero, hentry] at hfound
  cases hfound
  exact ⟨entry, hentry, hregular, hname⟩

theorem root_setEntry_self {volume : Volume} {index : Nat} {entry : DirEntry}
    (hentry : volume.root[index]? = some entry) (other : DirEntry) :
    (volume.setEntry .root index other).root[index]? = some other := by
  have hlt : index < volume.root.length :=
    (List.getElem?_eq_some_iff.mp hentry).1
  simp [Volume.setEntry, Volume.setDir, Volume.dir, hlt]

theorem Attached.setEntry {volume : Volume} {name : Name} {file : SdFile}
    (hattached : Attached volume name file) {other : DirEntry}
    (hname : other.name = name) (hregular : other.Regular) :
    Attached (volume.setEntry .root file.dirIndex other) name file where
  found := by
    obtain ⟨-, entry, hentry, -, hset⟩ := search_found hattached.found
    simpa [Volume.setEntry, Volume.setDir, Volume.dir] using hset other hname
  regular := by
    obtain ⟨entry, hentry, -⟩ := hattached.regular
    exact ⟨other, root_setEntry_self hentry other, hregular⟩
  type := hattached.type
  flags := hattached.flags
  dir := hattached.dir

theorem Attached.moved {volume : Volume} {name : Name} {file : SdFile}
    (hattached : Attached volume name file) (position : UInt32) (place : Nat) :
    Attached volume name
      { file with curPosition := position, chainPos := place } :=
  ⟨hattached.found, hattached.regular, hattached.type, hattached.flags,
    hattached.dir⟩

theorem Attached.growTo {volume : Volume} {name : Name} {file : SdFile}
    (hattached : Attached volume name file) :
    Attached volume name file.growTo := by
  unfold SdFile.growTo
  split
  · exact ⟨hattached.found, hattached.regular, hattached.type, hattached.flags,
      hattached.dir⟩
  · exact hattached

@[simp] theorem growTo_flags (file : SdFile) :
    file.growTo.flags = file.flags := by
  unfold growTo
  split <;> rfl

@[simp] theorem growTo_dirIndex (file : SdFile) :
    file.growTo.dirIndex = file.dirIndex := by
  unfold growTo
  split <;> rfl

@[simp] theorem growTo_curPosition (file : SdFile) :
    file.growTo.curPosition = file.curPosition := by
  unfold growTo
  split <;> rfl

@[simp] theorem growTo_chainPos (file : SdFile) :
    file.growTo.chainPos = file.chainPos := by
  unfold growTo
  split <;> rfl

theorem Attached.write_io {volume : Volume} {name : Name} {file : SdFile}
    (hattached : Attached volume name file) {entry : DirEntry}
    (hentry : volume.root[file.dirIndex]? = some entry) (io : Io)
    (buf : List UInt8) :
    file.write io buf volume =
      let blocks := writeBlocks io buf file entry.chain
      (if blocks.1 then buf.length else 0,
        if blocks.1 then blocks.2.1.growTo else blocks.2.1,
        volume.setEntry .root file.dirIndex
          { entry with chain := blocks.2.2 }) := by
  have hwrite : ¬ oAccmode &&& oWrite = 0 := by decide
  have happend : oAccmode &&& oAppend = 0 := by decide
  have hsync : oAccmode &&& oSync = 0 := by decide
  have hhandle := (writeBlocks_advanced io buf file entry.chain).handle
  have hflags : (writeBlocks io buf file entry.chain).2.1.flags = oAccmode := by
    rw [hhandle]
    exact hattached.flags
  have hdir : (writeBlocks io buf file entry.chain).2.1.dir = .root := by
    rw [hhandle]
    exact hattached.dir
  have hindex : (writeBlocks io buf file entry.chain).2.1.dirIndex =
      file.dirIndex := by
    rw [hhandle]
  cases hdone : (writeBlocks io buf file entry.chain).1 <;>
    simp [SdFile.write, isFile, seekToAppend, Volume.entry?, Volume.dir,
      hattached.type, hattached.flags, hattached.dir, hentry, hwrite, happend,
      hsync, hflags, hdir, hindex, hdone]

theorem Attached.write_eq {volume : Volume} {name : Name} {file : SdFile}
    (hattached : Attached volume name file) {entry : DirEntry}
    (hentry : volume.root[file.dirIndex]? = some entry) (buf : List UInt8) :
    file.write .ok buf volume =
      (buf.length,
        { file with
          curPosition := file.curPosition + UInt32.ofNat buf.length
          chainPos := file.chainPos + buf.length }.growTo,
        volume.setEntry .root file.dirIndex
          { entry with chain := overwrite entry.chain file.chainPos buf }) := by
  rw [hattached.write_io hentry, writeBlocks_ok]
  rfl

theorem growTo_moved {file : SdFile} {count : Nat}
    (hmoved : file.curPosition = file.fileSize + UInt32.ofNat count)
    (hfits : file.fileSize.toNat + count < 2 ^ 32) :
    file.growTo.fileSize = file.curPosition ∧
      file.curPosition.toNat = file.fileSize.toNat + count ∧
      (file.growTo.dirty = true ∨
        file.growTo.dirty = file.dirty ∧ file.curPosition = file.fileSize) := by
  have hsum : file.curPosition.toNat = file.fileSize.toNat + count := by
    rw [hmoved, UInt32.toNat_add, UInt32.toNat_ofNat']
    omega
  rcases Nat.eq_zero_or_pos count with rfl | hpos
  · have hsame : file.curPosition = file.fileSize := by
      rw [hmoved]
      exact UInt32.add_zero _
    simp [growTo, hsame]
  · have hgrows : file.fileSize < file.curPosition := by
      rw [UInt32.lt_iff_toNat_lt, hsum]
      omega
    simp [growTo, hgrows, hsum]

/-- `print` on an attached handle appends what it prints, as long as the file
stays below the 2^32 bytes its size can count. -/
theorem Attached.write {volume : Volume} {name : Name} {file : SdFile}
    (hattached : Attached volume name file) (buf : List UInt8) :
    ∃ next after, File.write .ok buf (some file) volume =
        (buf.length, some next, after) ∧
      Attached after name next ∧
      ∀ content, AtEnd volume file content →
        content.length + buf.length < 2 ^ 32 →
        AtEnd after next (content ++ buf) := by
  obtain ⟨entry, hentry, hregular, hname⟩ := hattached.entry
  set stored : DirEntry :=
    { entry with chain := overwrite entry.chain file.chainPos buf } with hstored
  set moved : SdFile :=
    { file with
      curPosition := file.curPosition + UInt32.ofNat buf.length
      chainPos := file.chainPos + buf.length } with hmoved
  have hset : Attached (volume.setEntry .root file.dirIndex stored) name file :=
    hattached.setEntry hname ⟨hregular.isFile, hregular.writable⟩
  refine ⟨moved.growTo, volume.setEntry .root file.dirIndex stored, ?_, ?_, ?_⟩
  · simp only [File.write, hattached.write_eq hentry, hstored, hmoved]
  · exact (hset.moved _ _).growTo
  · intro content hend hfits
    obtain ⟨found, hfound, hcontent, hsynced⟩ := hend.stored
    rw [hentry] at hfound
    cases hfound
    have hlength : content.length = file.fileSize.toNat := by
      simp [← hcontent]
    obtain ⟨hsize, hcount, hdirty⟩ : moved.growTo.fileSize = moved.curPosition ∧
        moved.curPosition.toNat = file.fileSize.toNat + buf.length ∧
        (moved.growTo.dirty = true ∨ moved.growTo.dirty = file.dirty ∧
          moved.curPosition = file.fileSize) :=
      growTo_moved (by rw [hmoved, hend.position]) (by rw [← hlength]; exact hfits)
    refine ⟨by rw [growTo_curPosition, hsize], ?_, stored, ?_, ?_, ?_⟩
    · rw [growTo_chainPos, hsize, hcount, hmoved]
      simp only [hend.chainPos]
    · rw [growTo_dirIndex]
      exact root_setEntry_self hentry stored
    · rw [hsize, hcount, hstored, hend.chainPos, map_range_overwrite, hcontent]
    · rw [hsize]
      rcases hdirty with hdirty | ⟨hdirty, hsame⟩
      · exact .inl hdirty
      · rw [hdirty, hsame]
        exact hsynced

theorem Attached.printAll {volume : Volume} {name : Name} {file : SdFile}
    (hattached : Attached volume name file) (chunks : List Text) :
    ∃ next after, File.printAll (fun _ => .ok) chunks (some file) volume =
        (some next, after) ∧
      Attached after name next ∧
      ∀ content, AtEnd volume file content →
        content.length + chunks.flatten.length < 2 ^ 32 →
        AtEnd after next (content ++ chunks.flatten) := by
  induction chunks generalizing volume file with
  | nil =>
      refine ⟨file, volume, rfl, hattached, ?_⟩
      intro content hend _
      simpa using hend
  | cons buf rest ih =>
      obtain ⟨middle, between, hwrite, hmiddle, hend⟩ := hattached.write buf
      obtain ⟨next, after, hrest, hnext, hlast⟩ := ih hmiddle
      refine ⟨next, after, ?_, hnext, ?_⟩
      · rw [File.printAll, hwrite]
        exact hrest
      · intro content hcontent hfits
        simp only [List.flatten_cons, List.length_append] at hfits
        have hbuf := hend content hcontent (by omega)
        have hall := hlast (content ++ buf) hbuf
          (by rw [List.length_append]; omega)
        simpa [List.append_assoc] using hall

theorem Attached.close {volume : Volume} {name : Name} {file : SdFile}
    (hattached : Attached volume name file) :
    ∃ after, File.close .ok (some file) volume = (none, after) ∧
      (∃ content, Holds after name content) ∧
      ∀ content, AtEnd volume file content → Holds after name content := by
  obtain ⟨entry, hentry, hregular, hname⟩ := hattached.entry
  by_cases hdirty : file.dirty = true
  · set stored : DirEntry := { entry with fileSize := file.fileSize } with hstored
    have hset : Attached (volume.setEntry .root file.dirIndex stored) name file :=
      hattached.setEntry hname ⟨hregular.isFile, hregular.writable⟩
    have hroot := root_setEntry_self hentry stored
    have hregular' : stored.Regular := ⟨hregular.isFile, hregular.writable⟩
    refine ⟨volume.setEntry .root file.dirIndex stored, ?_,
      ⟨_, file.dirIndex, stored, hset.found, hroot, hregular', rfl⟩, ?_⟩
    · simp [File.close, SdFile.close, sync, isOpen, isDir, isRoot, hdirty,
        hattached.type, hattached.dir, Volume.entry?, Volume.dir, hentry, hstored]
    · intro content hend
      obtain ⟨found, hfound, hcontent, -⟩ := hend.stored
      rw [hentry] at hfound
      cases hfound
      exact ⟨file.dirIndex, stored, hset.found, hroot, hregular', hcontent⟩
  · refine ⟨volume, ?_,
      ⟨_, file.dirIndex, entry, hattached.found, hentry, hregular, rfl⟩, ?_⟩
    · simp [File.close, SdFile.close, sync, isOpen, hdirty, hattached.type]
    · intro content hend
      obtain ⟨found, hfound, hcontent, hsynced⟩ := hend.stored
      rw [hentry] at hfound
      cases hfound
      refine ⟨file.dirIndex, entry, hattached.found, hentry, hregular, ?_⟩
      rw [← hcontent, DirEntry.content, hsynced.resolve_left hdirty]

end SenseBox.SD
