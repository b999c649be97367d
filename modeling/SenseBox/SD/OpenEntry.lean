import SenseBox.SD.Disk
import SenseBox.SD.EntryHandle

namespace SenseBox.SD

open SenseBox.Data
open SdVolume

/-! Opening, creating and removing the entries of a directory. -/

/-! The bytes of a new entry. -/

section Entries

variable {dname : Name} {index : UInt8} {block : Block} {place : Nat}

theorem createEntry_unstamped
    (hplace : place < 14 ∨ 20 ≤ place ∧ place < 22 ∨ 26 ≤ place) :
    createEntry dname index block (dirEntrySize * index.toNat + place) =
      SdFile.overwrite
        (fun position =>
          if dirEntrySize * index.toNat ≤ position ∧
            position < dirEntrySize * index.toNat + dirEntrySize then 0
          else block position)
        (dirEntrySize * index.toNat) dname.toList
        (dirEntrySize * index.toNat + place) := by
  rw [createEntry, store_apart (by omega), store_apart (by omega), store_apart (by omega),
    store_apart (by omega), store_apart (by omega)]

theorem createEntry_name (hplace : place < 11) :
    createEntry dname index block (dirEntrySize * index.toNat + place) =
      dname[place] := by
  rw [createEntry_unstamped (by omega), SdFile.overwrite, if_neg (by omega),
    Nat.add_sub_cancel_left, List.getD_eq_getElem _ _ (by simpa using hplace)]
  exact Vector.getElem_toList _

theorem createEntry_zero (hname : 11 ≤ place) (hsize : place < dirEntrySize)
    (hplace : place < 14 ∨ 20 ≤ place ∧ place < 22 ∨ 26 ≤ place) :
    createEntry dname index block (dirEntrySize * index.toNat + place) = 0 := by
  rw [createEntry_unstamped hplace, SdFile.overwrite, if_neg (by omega),
    Nat.add_sub_cancel_left, List.getD_eq_default _ _ (by simpa using hname),
    if_pos (by omega)]

theorem createEntry_other
    (hother : place < dirEntrySize * index.toNat ∨
      dirEntrySize * index.toNat + dirEntrySize ≤ place) :
    createEntry dname index block place = block place := by
  have hentry : dirEntrySize = 32 := rfl
  rw [createEntry, store_apart (by omega), store_apart (by omega), store_apart (by omega),
    store_apart (by omega), store_apart (by omega), SdFile.overwrite]
  by_cases hbefore : place < dirEntrySize * index.toNat
  · rw [if_pos hbefore, if_neg (by omega)]
  · have hlength : dname.toList.length = 11 := by simp
    rw [if_neg hbefore, List.getD_eq_default _ _ (by omega), if_neg (by omega)]

theorem slotName_createEntry : slotName (createEntry dname index block) index = dname := by
  ext place hplace
  rw [slotName, Vector.getElem_ofFn]
  exact congrArg UInt8.toNat (createEntry_name hplace)

/-- A number in a part of a new entry that is zero. -/
theorem load_createEntry {size : Nat} (hplace : 20 ≤ place ∧ place + size ≤ 22 ∨
    26 ≤ place ∧ place + size ≤ dirEntrySize) :
    load (createEntry dname index block) (dirEntrySize * index.toNat + place) size = 0 := by
  have hentry : dirEntrySize = 32 := rfl
  rw [← load_zero (dirEntrySize * index.toNat + place) size]
  apply load_congr
  intro position hfrom hto
  obtain ⟨offset, rfl⟩ := Nat.exists_eq_add_of_le
    (Nat.le_trans (Nat.le_add_right _ place) hfrom)
  exact createEntry_zero (by omega) (by omega) (by omega)

theorem created_empty : dirAttributes (createEntry dname index block) index = 0 ∧
    dirFileSize (createEntry dname index block) index = 0 ∧
    dirFirstCluster (createEntry dname index block) index = 0 := by
  refine ⟨?_, ?_, ?_⟩
  · exact createEntry_zero (by decide) (by decide) (by decide)
  · rw [dirFileSize, load_createEntry (by decide)]
    rfl
  · rw [dirFirstCluster, load_createEntry (by decide), load_createEntry (by decide)]
    rfl

theorem deleteEntry_other (hother : place ≠ dirEntrySize * index.toNat) :
    deleteEntry index block place = block place := by
  rw [deleteEntry, Function.update_of_ne hother]

theorem firstByte_deleteEntry :
    firstByte (slotName (deleteEntry index block) index) = nameDeleted := by
  rw [firstByte, slotName, Vector.getElem_ofFn, deleteEntry]
  exact Function.update_self _ _ _

end Entries

/-! Opening the file of an entry that is in the cache. -/

def dirLocked (block : Block) (index : UInt8) : Bool :=
  dirAttributes block index &&& (attReadOnly ||| attDirectory) ≠ 0

def openFlags (oflag : UInt8) : UInt8 := oflag &&& (oAccmode ||| oSync ||| oAppend)

theorem openFlags_clean (oflag : UInt8) : openFlags oflag &&& fFileDirDirty = 0 := by
  rw [openFlags, UInt8.and_assoc]
  exact UInt8.and_zero

variable {layout : Layout} {io : Accesses} {table : UInt32 → UInt32}
  {chain extent : List UInt32} {dir file handle : FatFile} {count slot rounds : Nat}
  {volume after : SdVolume} {oflag : UInt8} {view : FileView}

namespace FatFile

def reopened (oflag : UInt8) (file : FatFile) : FatFile :=
  { file with
    flags := openFlags oflag
    curCluster := 0
    curPosition := 0 }

theorem ends_openCachedEntry {index : UInt8} (hblock : handle.dirBlock = volume.cacheBlockNumber)
    (hindex : handle.dirIndex = index) (htype : handle.type = .normal)
    (hregular : dirAttributes volume.cacheBuffer index &&& attFileTypeMask = 0)
    (hrecorded : handle.Recorded volume.cacheBuffer)
    {returned : Option Unit → Opened → Prop} {failed : Opened → Prop} :
    Ends (openCachedEntry io layout rounds index oflag) (volume, file) returned failed ↔
      if dirLocked volume.cacheBuffer index = true ∧ oflag &&& (oWrite ||| oTrunc) ≠ 0 then
        failed (volume, file)
      else if oflag &&& oTrunc ≠ 0 then
        Ends (truncate io layout rounds 0) (volume, reopened oflag handle) returned failed
      else returned (some ()) (volume, reopened oflag handle) := by
  have hlocked : dirLocked volume.cacheBuffer index = true ↔
      dirAttributes volume.cacheBuffer index &&& (attReadOnly ||| attDirectory) ≠ 0 :=
    decide_eq_true_iff
  have hopened : reopened oflag handle =
      { file with
        flags := openFlags oflag
        type := .normal
        curCluster := 0
        curPosition := 0
        dirBlock := volume.cacheBlockNumber
        dirIndex := index
        fileSize := dirFileSize volume.cacheBuffer index
        firstCluster := dirFirstCluster volume.cacheBuffer index } := by
    obtain ⟨hsize, hcluster⟩ := hrecorded
    rw [hindex] at hsize hcluster
    rw [reopened, hsize, hcluster, ← hblock, ← hindex, ← htype]
  rw [openCachedEntry, ends_bind, ends_get]
  dsimp only
  by_cases hrefused : dirAttributes volume.cacheBuffer index &&&
      (attReadOnly ||| attDirectory) ≠ 0 ∧ oflag &&& (oWrite ||| oTrunc) ≠ 0
  · rw [if_pos hrefused, if_pos (hrefused.imp_left hlocked.mpr), ends_failure]
  · rw [if_neg hrefused, if_neg (mt (And.imp_left hlocked.mp) hrefused), ends_bind,
      ends_modifyFile, ends_bind, openKind, if_pos hregular, ends_bind,
      ends_modifyFile, ends_pure, hopened]
    dsimp only
    rw [ends_bind, ends_modifyFile]
    by_cases htrunc : oflag &&& oTrunc ≠ 0
    · rw [if_pos htrunc, if_pos htrunc]
      rfl
    · rw [if_neg htrunc, if_neg htrunc, ends_pure]
      rfl

theorem ends_truncate_empty (htype : file.type = .normal) (hwrite : file.flags &&& oWrite ≠ 0)
    (hsize : file.fileSize = 0) {returned : Option Unit → Opened → Prop}
    {failed : Opened → Prop} :
    Ends (truncate io layout rounds 0) (volume, file) returned failed ↔
      returned (some ()) (volume, file) := by
  have hopen : ¬ (file.type ≠ .normal ∨ file.flags &&& oWrite = 0) :=
    not_or.mpr ⟨not_not_intro htype, hwrite⟩
  rw [truncate, ends_bind, ends_getFile]
  dsimp only
  rw [if_neg hopen, hsize, if_neg (by decide), if_pos rfl, ends_pure]

end FatFile

/-- A file that has been recorded is opened again at its start. -/
theorem Shows.reopened (hshows : Shows layout volume chain file view)
    (hclean : file.flags &&& fFileDirDirty = 0) (oflag : UInt8) :
    Shows layout volume chain (file.reopened oflag) { view with place := 0 } where
  toChained := hshows.toChained
  first := hshows.first
  reached := Nat.zero_le _
  cluster := rfl
  type := hshows.type
  position := Nat.zero_le _
  size := hshows.size
  plain := hshows.plain
  apart := hshows.apart
  regular := hshows.regular
  recorded _ := ⟨(hshows.recorded hclean).size, (hshows.recorded hclean).cluster⟩
  bytes := hshows.bytes
  place := rfl

/-! Changing one entry of a directory. -/

def slotBytes (layout : Layout) (chain : List UInt32) (type : FileType) (slot : Nat)
    (block : UInt32) (place : Nat) : Prop :=
  block = slotBlock layout chain type slot ∧
    dirEntrySize * (slotIndex slot).toNat ≤ place ∧
    place < dirEntrySize * (slotIndex slot).toNat + dirEntrySize

/-- A block of a directory has been changed in one entry. -/
structure Entered (layout : Layout) (chain : List UInt32) (type : FileType) (slot : Nat)
    (data : Block) (before after : SdVolume) : Prop where
  stored : Stored layout (slotBlock layout chain type slot) data before after
  others : ∀ place, ¬ slotBytes layout chain type slot (slotBlock layout chain type slot) place →
    data place = before.memory (slotBlock layout chain type slot) place

namespace Entered

variable {data : Block}

theorem within (hsound : layout.Sound)
    (hentered : Entered layout chain dir.type slot data volume after)
    (hdirectory : Directory layout table chain dir count) (hslot : slot < count)
    (hstartable : Startable layout volume) :
    Within layout (fun _ => False) (slotBytes layout chain dir.type slot) volume after :=
  hentered.stored.within hsound (hdirectory.plain hsound hslot) hstartable hentered.others

theorem memory (hsound : layout.Sound)
    (hentered : Entered layout chain dir.type slot data volume after)
    (hdirectory : Directory layout table chain dir count) (hslot : slot < count) :
    after.memory (slotBlock layout chain dir.type slot) = data := by
  rw [hentered.stored.memory _ (hdirectory.plain hsound hslot).1, Function.update_self]

theorem nameAt (hsound : layout.Sound)
    (hentered : Entered layout chain dir.type slot data volume after)
    (hdirectory : Directory layout table chain dir count) (hslot : slot < count) :
    nameAt layout chain dir.type after slot = slotName data (slotIndex slot) := by
  rw [SD.nameAt, hentered.memory hsound hdirectory hslot]

theorem slotKept (hsound : layout.Sound)
    (hentered : Entered layout chain dir.type slot data volume after)
    (hdirectory : Directory layout table chain dir count) (hslot : slot < count)
    {other : Nat} (hother : other < count) (hdiffer : other ≠ slot) :
    SlotKept layout chain dir.type other volume after := by
  intro place hplace
  rw [hentered.stored.memory _ (hdirectory.plain hsound hother).1]
  by_cases hsame : slotBlock layout chain dir.type other = slotBlock layout chain dir.type slot
  · have hapart := hdirectory.slots_apart hsound hother hslot hdiffer hsame
    rw [hsame, Function.update_self]
    apply hentered.others
    rintro ⟨-, hfrom, hto⟩
    unfold dirEntrySize at hfrom hto
    omega
  · rw [Function.update_of_ne hsame]

theorem namesOf (hsound : layout.Sound)
    (hentered : Entered layout chain dir.type slot data volume after)
    (hdirectory : Directory layout table chain dir count) (hslot : slot < count) :
    namesOf layout chain dir.type after count =
      (namesOf layout chain dir.type volume count).set slot
        (slotName data (slotIndex slot)) := by
  apply List.ext_getElem?
  intro other
  rw [List.getElem?_set, length_namesOf, if_pos hslot]
  by_cases hlt : other < count
  · rw [getElem?_namesOf hlt, getElem?_namesOf hlt]
    by_cases hsame : slot = other
    · subst hsame
      rw [if_pos rfl, hentered.nameAt hsound hdirectory hslot]
    · rw [if_neg hsame,
        (hentered.slotKept hsound hdirectory hslot hlt (Ne.symm hsame)).nameAt]
  · rw [if_neg (by omega), List.getElem?_eq_none (by rw [length_namesOf]; omega),
      List.getElem?_eq_none (by rw [length_namesOf]; omega)]

end Entered

namespace Disk

variable {flags : Nat → UInt8} {chains : Nat → List UInt32} {state : Handles Nat}
  {views : Views Nat}

theorem entered (hsound : layout.Sound)
    (hdisk : Disk layout flags chains extent count state dir views) (hslot : slot < count)
    {data : Block} (hentered : Entered layout extent dir.type slot data state.1 after)
    (htidy : Tidy ((namesOf layout extent dir.type state.1 count).set slot
      (slotName data (slotIndex slot))))
    {left : Option FileView} {flag : UInt8}
    (hleft : ∀ view, left = some view → Shows layout after [] file view ∧
      SameFlags flag file.flags ∧ ¬ unused (slotName data (slotIndex slot)) ∧
      file.AtSlot layout extent dir.type slot) :
    Disk layout (Function.update flags slot flag) (Function.update chains slot []) extent
      count (after, Function.update state.2 slot file) dir
      (Function.update views slot left) := by
  have hwithin := hentered.within hsound hdisk.directory hslot hdisk.shared.startable
  apply hdisk.replaced hsound rfl hwithin.coherent hwithin.startable
  · exact hdisk.directory.within hwithin fun _ _ => not_false
  · intro other view hother hview
    have hopen : views other ≠ none := by
      rw [hview]
      exact nofun
    obtain ⟨hlt, -, hhandle⟩ := hdisk.entry hopen
    have hshows := hdisk.shared.shows hview
    refine ⟨hshows.frame hsound hwithin (fun _ _ => not_false) (fun _ _ => False.elim) ?_ ?_,
      (hentered.slotKept hsound hdisk.directory hslot hlt hother).nameAt⟩
    · rintro place ⟨-, hfrom, hto⟩ ⟨hblock, hfrom', hto'⟩
      rw [hhandle.dirBlock] at hblock
      have hapart := hdisk.directory.slots_apart hsound hlt hslot hother hblock
      rw [hhandle.dirIndex] at hfrom hto
      unfold dirEntrySize at hfrom hto hfrom' hto'
      omega
    · rintro cluster hcluster block place hin ⟨rfl, -⟩
      exact hdisk.apart hopen hcluster
        (hdisk.directory.cluster_mem hsound hslot (hshows.clusters cluster hcluster) hin)
  · rw [hentered.namesOf hsound hdisk.directory hslot]
    exact htidy
  · intro view hview
    obtain ⟨hshows, hflags, hused, hhandle⟩ := hleft view hview
    refine ⟨hshows, hflags, List.disjoint_nil_left _, fun _ _ _ => List.disjoint_nil_left _,
      hslot, ?_, hhandle⟩
    rw [hentered.nameAt hsound hdisk.directory hslot]
    exact hused

theorem reopened (hsound : layout.Sound)
    (hdisk : Disk layout flags chains extent count state dir views)
    (hview : views slot = some view)
    (hclean : (state.2 slot).flags &&& fFileDirDirty = 0) (oflag : UInt8) :
    Disk layout (Function.update flags slot (openFlags oflag)) chains extent count
      (state.1, Function.update state.2 slot ((state.2 slot).reopened oflag)) dir
      (Function.update views slot (some { view with place := 0 })) := by
  have hopen : views slot ≠ none := by
    rw [hview]
    exact nofun
  obtain ⟨hlt, hused, hhandle⟩ := hdisk.entry hopen
  have hreplaced : Disk layout (Function.update flags slot (openFlags oflag))
      (Function.update chains slot (chains slot)) extent count
      (state.1, Function.update state.2 slot ((state.2 slot).reopened oflag)) dir
      (Function.update views slot (some { view with place := 0 })) := by
    apply hdisk.replaced hsound rfl hdisk.shared.coherent hdisk.shared.startable
      hdisk.directory
    · exact fun _ hother => ⟨hdisk.shared.shows hother, rfl⟩
    · exact hdisk.tidy
    · intro view' hview'
      cases hview'
      refine ⟨(hdisk.shared.shows hview).reopened hclean oflag, rfl, hdisk.apart hopen,
        fun other hother hin => hdisk.shared.disjoint hother.symm hopen hin, hlt, hused,
        hhandle.dirBlock, hhandle.dirIndex⟩
  rwa [Function.update_eq_self] at hreplaced

end Disk

/-! Opening the file of an entry. -/

def lockedAt (layout : Layout) (chain : List UInt32) (type : FileType) (volume : SdVolume)
    (slot : Nat) : Bool :=
  dirLocked (volume.memory (slotBlock layout chain type slot)) (slotIndex slot)

theorem SlotKept.lockedAt {type : FileType}
    (hkept : SlotKept layout chain type slot volume after) :
    lockedAt layout chain type after slot = lockedAt layout chain type volume slot := by
  rw [SD.lockedAt, SD.lockedAt, dirLocked, dirLocked, dirAttributes, dirAttributes,
    hkept 11 (by decide)]

/-- An entry that is not to be written to is not opened for that. -/
def Refuses (locked : Bool) (oflag : UInt8) : Prop :=
  locked = true ∧ oflag &&& (oWrite ||| oTrunc) ≠ 0

instance (locked : Bool) (oflag : UInt8) : Decidable (Refuses locked oflag) :=
  inferInstanceAs (Decidable (_ ∧ _))

def FileView.opened (oflag : UInt8) (view : FileView) : FileView :=
  if oflag &&& oTrunc ≠ 0 then ⟨[], 0⟩ else { view with place := 0 }

theorem openFlags_write (oflag : UInt8) : openFlags oflag &&& oWrite = oflag &&& oWrite := by
  rw [openFlags, UInt8.and_assoc]
  rfl

namespace Disk

variable {flags : Nat → UInt8} {chains : Nat → List UInt32} {state : Handles Nat}
  {views : Views Nat}

/-- The file of the entry in the cache is opened, or refused, or lost where it cannot be
cut. -/
theorem ends_openCachedEntry (hsound : layout.Sound)
    (hdisk : Disk layout flags chains extent count state dir views)
    (hview : views slot = some view)
    (hclean : (state.2 slot).flags &&& fFileDirDirty = 0)
    (hrounds : layout.clusterCount.toNat ≤ rounds)
    (hcached : state.1.cacheBlockNumber = slotBlock layout extent dir.type slot)
    (oflag : UInt8) (file : FatFile) :
    Ends (FatFile.openCachedEntry io layout rounds (slotIndex slot) oflag) (state.1, file)
      (fun done after => done = some () ∧
        ¬ Refuses (lockedAt layout extent dir.type state.1 slot) oflag ∧
        (oflag &&& oTrunc ≠ 0 → oflag &&& oWrite ≠ 0) ∧
        (∃ chain, Disk layout (Function.update flags slot (openFlags oflag))
          (Function.update chains slot chain) extent count
          (after.1, Function.update state.2 slot after.2) dir
          (Function.update views slot (some (view.opened oflag)))) ∧
        ∀ other < count, SlotKept layout extent dir.type other state.1 after.1)
      (fun after =>
        Refuses (lockedAt layout extent dir.type state.1 slot) oflag ∧
          after = (state.1, file) ∨
        ¬ Refuses (lockedAt layout extent dir.type state.1 slot) oflag ∧
          oflag &&& oTrunc ≠ 0 ∧ (oflag &&& oWrite = 0 ∨ Broken io) ∧
          after.2.type = .normal ∧ after.2.AtSlot layout extent dir.type slot ∧
          Disk layout flags chains extent count (after.1, state.2) dir
            (Function.update views slot none) ∧
          ∀ other < count, SlotKept layout extent dir.type other state.1 after.1) := by
  have hopen : views slot ≠ none := by
    rw [hview]
    exact nofun
  have hshows := hdisk.shared.shows hview
  obtain ⟨hlt, hused, hhandle⟩ := hdisk.entry hopen
  have hbuffer : state.1.cacheBuffer =
      state.1.memory (slotBlock layout extent dir.type slot) := (memory_cached hcached).symm
  have hregular := hshows.regular
  have hrecorded := hshows.recorded hclean
  rw [hhandle.dirBlock, hhandle.dirIndex, ← hbuffer] at hregular
  rw [hhandle.dirBlock, ← hbuffer] at hrecorded
  have hopened := hdisk.reopened hsound hview hclean oflag
  have hkept : ∀ other < count, SlotKept layout extent dir.type other state.1 state.1 :=
    fun _ _ _ _ => rfl
  have hself : Function.update views slot (some { view with place := 0 }) slot ≠ none := by
    rw [Function.update_self]
    exact nofun
  -- Where the file is not cut, its handle is the one that it is opened with.
  have hforgotten : ∀ {after : SdVolume}, Disk layout
      (Function.update flags slot (openFlags oflag)) chains extent count
      (after, Function.update state.2 slot ((state.2 slot).reopened oflag)) dir
      (Function.update (Function.update views slot (some { view with place := 0 })) slot
        none) →
      Disk layout flags chains extent count (after, state.2) dir
        (Function.update views slot none) := by
    intro after hdisk'
    have hlost : Disk layout (Function.update flags slot (openFlags oflag))
        (Function.update chains slot (chains slot)) extent count
        (after, Function.update state.2 slot ((state.2 slot).reopened oflag)) dir
        (Function.update views slot none) := by
      rw [Function.update_eq_self]
      rwa [Function.update_idem] at hdisk'
    exact hlost.unhandled.unchained
  rw [FatFile.ends_openCachedEntry (hhandle.dirBlock.trans hcached.symm) hhandle.dirIndex
    hshows.type hregular hrecorded, hbuffer]
  unfold FileView.opened Refuses
  rw [lockedAt]
  split
  · next hlocked => exact .inl ⟨hlocked, rfl⟩
  · next hlocked =>
    split
    · next htrunc =>
      by_cases hwrite : oflag &&& oWrite = 0
      · have hnone : openFlags oflag &&& oWrite = 0 := by rw [openFlags_write, hwrite]
        rw [FatFile.truncate, ends_bind, ends_getFile, if_pos (.inr hnone), ends_failure]
        exact .inr ⟨hlocked, htrunc, .inl hwrite, hshows.type, ⟨hhandle.dirBlock, hhandle.dirIndex⟩,
          hforgotten (hopened.forgotten hsound hself), hkept⟩
      · have hsome : openFlags oflag &&& oWrite ≠ 0 := by rwa [openFlags_write]
        have hheld := (hshows.reopened hclean oflag).toHeld
        have hstays := FatFile.stays_truncate io layout rounds 0
          (state.1, (state.2 slot).reopened oflag)
        apply ((FatFile.ends_truncate hsound hdisk.shared.coherent hdisk.shared.startable
          hheld hsome (Nat.zero_le _) (hheld.toChained.length_le.trans hrounds)).and
          hstays).imp
        · rintro done after ⟨⟨rfl, kept, hserved, hposition⟩, -⟩
          have hanswered : Answered layout (chains slot) kept ⟨[], 0⟩
              (state.1, (state.2 slot).reopened oflag) after := by
            rw [UInt32.toNat_zero, List.take_zero] at hserved
            exact ⟨hserved, hposition.trans (Nat.zero_min _)⟩
          rw [← Function.update_self slot ((state.2 slot).reopened oflag) state.2] at hanswered
          obtain ⟨hdisk', hslots⟩ := hopened.answered hsound hself hanswered
          dsimp only at hdisk'
          rw [Function.update_idem, Function.update_idem] at hdisk'
          exact ⟨rfl, hlocked, fun _ => hwrite, ⟨_, hdisk'⟩, hslots⟩
        · rintro after ⟨⟨hwithin, hbroken⟩, hsame⟩
          rw [← Function.update_self slot ((state.2 slot).reopened oflag) state.2] at hwithin
          obtain ⟨hdisk', hslots⟩ := hopened.lost hsound hself hwithin
          exact .inr ⟨hlocked, htrunc, .inr hbroken, hsame.type.trans hshows.type,
            ⟨hsame.dirBlock.trans hhandle.dirBlock, hsame.dirIndex.trans hhandle.dirIndex⟩,
            hforgotten hdisk', hslots⟩
    · next htrunc =>
      rw [← Function.update_eq_self slot chains] at hopened
      exact ⟨rfl, hlocked, fun h => absurd h htrunc, ⟨_, hopened⟩, hkept⟩

end Disk

/-! Making an empty file of an entry. -/

def newHandle (layout : Layout) (chain : List UInt32) (type : FileType) (slot : Nat)
    (oflag : UInt8) : FatFile where
  flags := openFlags oflag
  type := .normal
  curCluster := 0
  curPosition := 0
  dirBlock := slotBlock layout chain type slot
  dirIndex := slotIndex slot
  fileSize := 0
  firstCluster := 0

theorem shows_newHandle (hsound : layout.Sound)
    (hdirectory : Directory layout (volume.fat layout) extent dir count)
    (hslot : slot < count) {dname : Name} {data : Block}
    (hdata : volume.memory (slotBlock layout extent dir.type slot) =
      createEntry dname (slotIndex slot) data) (oflag : UInt8) :
    Shows layout volume [] (newHandle layout extent dir.type slot oflag) ⟨[], 0⟩ := by
  obtain ⟨hattributes, hsize, hcluster⟩ := @created_empty dname (slotIndex slot) data
  refine ⟨⟨⟨⟨.nil _ _, rfl, Nat.zero_le _, rfl⟩, rfl, le_refl 0, Nat.zero_le _⟩,
    hdirectory.plain hsound hslot, ?_, ?_, ?_⟩, rfl, rfl⟩
  · rintro cluster hcluster (hin | hfree) hblock
    · cases hin
    · exact hdirectory.chained.used (hdirectory.cluster_mem hsound hslot hcluster hblock)
        hfree
  · change dirAttributes (volume.memory (slotBlock layout extent dir.type slot))
      (slotIndex slot) &&& attFileTypeMask = 0
    rw [hdata, hattributes]
    rfl
  · intro _
    change FatFile.Recorded (volume.memory (slotBlock layout extent dir.type slot)) _
    rw [hdata]
    exact ⟨hsize, hcluster⟩

namespace Disk

variable {flags : Nat → UInt8} {chains : Nat → List UInt32} {state : Handles Nat}
  {views : Views Nat}

/-- An empty file is made of the entry in the cache, or the entry is left without a
file where an access fails. -/
theorem ends_createCached (hsound : layout.Sound)
    (hdisk : Disk layout flags chains extent count state dir views)
    (hslot : slot < count) {dname : Name} (hused : ¬ unused dname)
    (htidy : Tidy ((namesOf layout extent dir.type state.1 count).set slot dname))
    (hcached : state.1.cacheBlockNumber = slotBlock layout extent dir.type slot)
    (hdirty : state.1.cacheDirty = true) (hindex : file.dirIndex = slotIndex slot)
    (hwrite : oflag &&& oWrite ≠ 0) :
    Ends (FatFile.createCached io layout rounds dname oflag) (state.1, file)
      (fun done after => done = some () ∧
        Disk layout (Function.update flags slot (openFlags oflag))
          (Function.update chains slot []) extent count
          (after.1, Function.update state.2 slot after.2) dir
          (Function.update views slot (some ⟨[], 0⟩)) ∧
        nameAt layout extent dir.type after.1 slot = dname ∧
        lockedAt layout extent dir.type after.1 slot = false ∧
        ∀ other < count, other ≠ slot →
          SlotKept layout extent dir.type other state.1 after.1)
      (fun after => Broken io ∧ after.2 = file ∧
        Disk layout flags chains extent count (after.1, state.2) dir
          (Function.update views slot none) ∧
        nameAt layout extent dir.type after.1 slot = dname ∧
        ∀ other < count, other ≠ slot →
          SlotKept layout extent dir.type other state.1 after.1) := by
  obtain ⟨data, hdata⟩ : ∃ data, data =
      createEntry dname (slotIndex slot) state.1.cacheBuffer := ⟨_, rfl⟩
  have hstored : Stored layout (slotBlock layout extent dir.type slot) data state.1
      { state.1 with cacheBuffer := data } :=
    hdisk.shared.coherent.stored hdirty hcached data
  have hentered : ∀ {after}, Kept layout { state.1 with cacheBuffer := data } after →
      Entered layout extent dir.type slot data state.1 after := by
    intro after hkept
    refine ⟨hstored.same hkept.same hkept.coherent, fun place hother => ?_⟩
    rw [hdata, memory_cached hcached]
    apply createEntry_other
    by_contra hin
    have := not_or.mp hin
    exact hother ⟨rfl, by omega, by omega⟩
  have hname : slotName data (slotIndex slot) = dname := by
    rw [hdata, slotName_createEntry]
  rw [← hname] at htidy
  rw [FatFile.createCached, ends_bind, ends_getFile, ends_bind, ends_onVolume, ends_modify,
    ends_bind, ends_onVolume, hindex, ← hdata]
  apply (ends_cacheFlush hsound hstored.coherent).imp
  · rintro - after ⟨hkept, -, hnumber, -⟩
    have hafter := hentered hkept
    have hmemory := hafter.memory hsound hdisk.directory hslot
    have hwithin := hafter.within hsound hdisk.directory hslot hdisk.shared.startable
    have hdirectory := hdisk.directory.within hwithin fun _ _ => not_false
    have hshows := shows_newHandle hsound hdirectory hslot (hmemory.trans hdata) oflag
    have hblock : (newHandle layout extent dir.type slot oflag).dirBlock =
        after.cacheBlockNumber := (hnumber.trans hcached).symm
    have hbuffer : after.cacheBuffer = data := by
      rw [← memory_cached (hnumber.trans hcached), hmemory]
    have hregular := hshows.regular
    have hrecorded := hshows.recorded (openFlags_clean oflag)
    rw [hblock, memory_cached rfl] at hregular hrecorded
    have hlocked : dirLocked data (slotIndex slot) = false := by
      rw [hdata, dirLocked, created_empty.1]
      rfl
    have hdone : Disk layout (Function.update flags slot (openFlags oflag))
          (Function.update chains slot []) extent count
          (after, Function.update state.2 slot
            (FatFile.reopened oflag (newHandle layout extent dir.type slot oflag))) dir
          (Function.update views slot (some ⟨[], 0⟩)) ∧
        nameAt layout extent dir.type after slot = dname ∧
        lockedAt layout extent dir.type after slot = false ∧
        ∀ other < count, other ≠ slot →
          SlotKept layout extent dir.type other state.1 after := by
      refine ⟨hdisk.entered hsound hslot hafter htidy ?_, ?_, ?_, ?_⟩
      · intro view hview
        cases hview
        rw [hname]
        exact ⟨hshows, rfl, hused, rfl, rfl⟩
      · rw [hafter.nameAt hsound hdisk.directory hslot, hname]
      · rw [lockedAt, hmemory, hlocked]
      · exact fun other hother hdiffer =>
          hafter.slotKept hsound hdisk.directory hslot hother hdiffer
    have hplace : (newHandle layout extent dir.type slot oflag).dirIndex = slotIndex slot :=
      rfl
    have hopen : openFlags oflag &&& oWrite ≠ 0 := by rwa [openFlags_write]
    rw [FatFile.ends_openCachedEntry hblock hplace rfl hregular hrecorded, hbuffer,
      if_neg fun hboth => Bool.false_ne_true (hlocked.symm.trans hboth.1)]
    split
    · exact (FatFile.ends_truncate_empty rfl hopen rfl).mpr ⟨rfl, hdone⟩
    · exact ⟨rfl, hdone⟩
  · rintro after ⟨hkept, hbroken⟩
    have hafter := hentered hkept
    have hlost : Disk layout (Function.update flags slot 0) (Function.update chains slot [])
        extent count (after, Function.update state.2 slot file) dir
        (Function.update views slot none) :=
      hdisk.entered hsound hslot hafter htidy nofun
    refine ⟨hbroken, rfl, hlost.unhandled.unchained, ?_, ?_⟩
    · rw [hafter.nameAt hsound hdisk.directory hslot, hname]
    · exact fun other hother hdiffer =>
        hafter.slotKept hsound hdisk.directory hslot hother hdiffer

/-- A file whose chain has been freed is gone once its entry, which the cache holds,
is marked. -/
theorem deleted (hsound : layout.Sound)
    (hdisk : Disk layout flags chains extent count state dir views)
    (hopen : views slot ≠ none)
    (hdirty : state.1.cacheDirty = true)
    (hnumber : state.1.cacheBlockNumber = slotBlock layout extent dir.type slot)
    (hkept : Kept layout
      { state.1 with cacheBuffer := deleteEntry (slotIndex slot) state.1.cacheBuffer }
      after) :
    Disk layout flags chains extent count (after, state.2) dir
        (Function.update views slot none) ∧
      unused (nameAt layout extent dir.type after slot) ∧
      ∀ other < count, other ≠ slot →
        SlotKept layout extent dir.type other state.1 after := by
  obtain ⟨hslot, hused, -⟩ := hdisk.entry hopen
  obtain ⟨data, hdata⟩ : ∃ data, data = deleteEntry (slotIndex slot) state.1.cacheBuffer :=
    ⟨_, rfl⟩
  have hdeleted : firstByte (slotName data (slotIndex slot)) = nameDeleted := by
    rw [hdata, firstByte_deleteEntry]
  rw [← hdata] at hkept
  have hstored : Stored layout (slotBlock layout extent dir.type slot) data state.1
      { state.1 with cacheBuffer := data } :=
    hdisk.shared.coherent.stored hdirty hnumber data
  have hentered : Entered layout extent dir.type slot data state.1 after := by
    refine ⟨hstored.same hkept.same hkept.coherent, fun place hother => ?_⟩
    rw [hdata, memory_cached hnumber]
    apply deleteEntry_other
    rintro rfl
    exact hother ⟨rfl, le_refl _, Nat.lt_add_of_pos_right (by decide)⟩
  have hremoved : Disk layout (Function.update flags slot 0) (Function.update chains slot [])
      extent count (after, Function.update state.2 slot FatFile.closedFile) dir
      (Function.update views slot none) :=
    hdisk.entered hsound hslot hentered
      (hdisk.tidy.deleted (getElem?_namesOf hslot) hused hdeleted) nofun
  refine ⟨hremoved.unhandled.unchained, ?_, ?_⟩
  · rw [hentered.nameAt hsound hdisk.directory hslot]
    exact .inr hdeleted
  · exact fun other hother hdiffer =>
      hentered.slotKept hsound hdisk.directory hslot hother hdiffer

/-- The file is removed, or lost where an access fails. -/
theorem ends_remove (hsound : layout.Sound)
    (hdisk : Disk layout flags chains extent count state dir views)
    (hview : views slot = some view) (hwrite : (state.2 slot).flags &&& oWrite ≠ 0)
    (hrounds : layout.clusterCount.toNat ≤ rounds) :
    Ends (FatFile.remove io layout rounds) (state.1, state.2 slot)
      (fun done after => done = some () ∧
        Disk layout flags chains extent count (after.1, state.2) dir
          (Function.update views slot none) ∧
        unused (nameAt layout extent dir.type after.1 slot) ∧
        ∀ other < count, other ≠ slot →
          SlotKept layout extent dir.type other state.1 after.1)
      (fun after => Broken io ∧
        Disk layout flags chains extent count (after.1, state.2) dir
          (Function.update views slot none) ∧
        (nameAt layout extent dir.type after.1 slot =
            nameAt layout extent dir.type state.1 slot ∨
          unused (nameAt layout extent dir.type after.1 slot)) ∧
        ∀ other < count, other ≠ slot →
          SlotKept layout extent dir.type other state.1 after.1) := by
  have hopen : views slot ≠ none := by
    rw [hview]
    exact nofun
  have hheld := (hdisk.shared.shows hview).toHeld
  have hslot := (hdisk.entry hopen).1
  have hplain := hdisk.directory.plain hsound hslot
  apply (FatFile.ends_truncate hsound hdisk.shared.coherent hdisk.shared.startable hheld hwrite
    (Nat.zero_le _) (hheld.toChained.length_le.trans hrounds)).bind
  · rintro done ⟨cut, file⟩ ⟨rfl, kept, hserved, hposition⟩
    have hanswered : Answered layout (chains slot) kept ⟨[], 0⟩ (state.1, state.2 slot)
        (cut, file) := by
      rw [UInt32.toNat_zero, List.take_zero] at hserved
      exact ⟨hserved, hposition.trans (Nat.min_zero _)⟩
    obtain ⟨hcut, hslots⟩ := hdisk.answered hsound hopen hanswered
    dsimp only at hcut hslots
    have hsome : Function.update views slot (some (⟨[], 0⟩ : FileView)) slot ≠ none := by
      rw [Function.update_self]
      exact nofun
    obtain ⟨-, -, hhandle⟩ := hcut.entry hsome
    dsimp only at hhandle
    rw [Function.update_self] at hhandle
    have hclosed : ∀ {volume}, Disk layout flags (Function.update chains slot kept) extent
          count (volume, Function.update state.2 slot file) dir
          (Function.update (Function.update views slot (some ⟨[], 0⟩)) slot none) →
        Disk layout flags chains extent count (volume, state.2) dir
          (Function.update views slot none) := by
      intro volume hgone
      rw [Function.update_idem, ← Function.update_eq_self slot flags] at hgone
      exact hgone.unhandled.unchained
    rw [ends_bind, ends_getFile, ends_bind, ends_onVolume]
    dsimp only
    rw [hhandle.dirBlock, hhandle.dirIndex]
    apply (ends_cacheRawBlock_write hsound hcut.shared.coherent hplain).imp
    · rintro - loaded ⟨hloaded, hdirty⟩
      obtain ⟨hdisk', hload⟩ := hcut.kept hsound hloaded.toKept (rfl : dir.Turned dir)
      have hcoherent := (hloaded.coherent.stored hdirty hloaded.number
        (deleteEntry (slotIndex slot) loaded.cacheBuffer)).coherent
      have hdone : ∀ {after}, Kept layout
            { loaded with cacheBuffer := deleteEntry (slotIndex slot) loaded.cacheBuffer }
            after →
          Disk layout flags chains extent count (after, state.2) dir
            (Function.update views slot none) ∧
          unused (nameAt layout extent dir.type after slot) ∧
          ∀ other < count, other ≠ slot →
            SlotKept layout extent dir.type other state.1 after := by
        intro after hkept
        obtain ⟨hremoved, hunused, hothers⟩ :=
          hdisk'.deleted hsound hsome hdirty hloaded.number hkept
        exact ⟨hclosed hremoved, hunused, fun other hother hdiffer =>
          (hslots other hother).trans
            ((hload other hother).trans (hothers other hother hdiffer))⟩
      rw [ends_bind, ends_onVolume, ends_modify, ends_bind, ends_modifyFile, ends_bind,
        ends_onVolume]
      apply (ends_cacheFlush hsound hcoherent).imp
      · rintro - after ⟨hkept, -⟩
        exact ⟨rfl, hdone hkept⟩
      · rintro after ⟨hkept, hbroken⟩
        obtain ⟨hremoved, hunused, hothers⟩ := hdone hkept
        exact ⟨hbroken, hremoved, .inr hunused, hothers⟩
    · rintro after ⟨hkept, hbroken⟩
      obtain ⟨hdisk', hload⟩ := hcut.kept hsound hkept (rfl : dir.Turned dir)
      refine ⟨hbroken, hclosed (hdisk'.forgotten hsound hsome), .inl ?_,
        fun other hother hdiffer => ?_⟩
      · exact ((hslots slot hslot).trans (hload slot hslot)).nameAt
      · exact (hslots other hother).trans (hload other hother)
  · rintro after ⟨hwithin, hbroken⟩
    obtain ⟨hlost, hslots⟩ := hdisk.lost hsound hopen hwithin
    exact ⟨hbroken, hlost, .inl (hslots slot hslot).nameAt,
      fun other hother _ => hslots other hother⟩

end Disk

end SenseBox.SD
