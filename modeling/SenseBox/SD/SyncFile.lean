import SenseBox.SD.WriteFile

namespace SenseBox.SD

open SenseBox.Data
open SdVolume

/-! Open files with their directory entries. -/

/-- The bytes of the directory entry of a file. -/
def FatFile.slotOf (file : FatFile) (block : UInt32) (place : Nat) : Prop :=
  block = file.dirBlock ∧ dirEntrySize * file.dirIndex.toNat ≤ place ∧
    place < dirEntrySize * file.dirIndex.toNat + dirEntrySize

/-- Those of them that `sync` writes, which are not its name and not its kind. -/
def FatFile.entryOf (file : FatFile) (block : UInt32) (place : Nat) : Prop :=
  block = file.dirBlock ∧ dirEntrySize * file.dirIndex.toNat + 20 ≤ place ∧
    place < dirEntrySize * file.dirIndex.toNat + dirEntrySize

/-- The directory entry says what the handle says. -/
structure FatFile.Recorded (block : Block) (file : FatFile) : Prop where
  size : dirFileSize block file.dirIndex = file.fileSize
  cluster : dirFirstCluster block file.dirIndex = file.firstCluster

/-- An open file whose directory entry is in none of the clusters that are its own
or free, and says what the handle says unless the handle is marked. -/
structure Held (layout : Layout) (volume : SdVolume) (chain : List UInt32)
    (file : FatFile) : Prop extends FileAt layout (volume.fat layout) chain file where
  plain : layout.Plain file.dirBlock
  apart : ∀ cluster, layout.Cluster cluster →
    cluster ∈ chain ∨ volume.fat layout cluster = 0 →
      ¬ layout.InCluster cluster file.dirBlock
  regular : dirAttributes (volume.memory file.dirBlock) file.dirIndex &&&
    attFileTypeMask = 0
  recorded : file.flags &&& fFileDirDirty = 0 →
    file.Recorded (volume.memory file.dirBlock)

/-! Flags. -/

theorem or_and_distrib (left right mask : UInt8) :
    (left ||| right) &&& mask = left &&& mask ||| right &&& mask := by
  apply UInt8.toBitVec_inj.mp
  ext place hplace
  simp [Bool.and_or_distrib_right]

theorem or_dirty_ne (flags : UInt8) : (flags ||| fFileDirDirty) &&& fFileDirDirty ≠ 0 := by
  rw [or_and_distrib]
  intro hzero
  exact absurd (UInt8.or_eq_zero_iff.mp hzero).2 (by decide)

/-- The mark is the only flag that the library changes. -/
def SameFlags (before after : UInt8) : Prop :=
  before ||| fFileDirDirty = after ||| fFileDirDirty

theorem SameFlags.mask {before after : UInt8} (hsame : SameFlags before after)
    {mask : UInt8} (hmask : fFileDirDirty &&& mask = 0) :
    after &&& mask = before &&& mask := by
  have hmasked := congrArg (· &&& mask) hsame
  rw [or_and_distrib, or_and_distrib, hmask, UInt8.or_zero, UInt8.or_zero] at hmasked
  exact hmasked.symm

theorem sameFlags_clear (flags : UInt8) :
    SameFlags flags (flags &&& ~~~fFileDirDirty) := by
  unfold SameFlags
  apply UInt8.toBitVec_inj.mp
  ext place hplace
  simp [Bool.or_and_distrib_right]

theorem sameFlags_dirty (flags : UInt8) : SameFlags flags (flags ||| fFileDirDirty) :=
  (FatFile.fFileDirDirty_twice flags).symm

theorem clear_eq {flags : UInt8} (hclean : flags &&& fFileDirDirty = 0) :
    flags &&& ~~~fFileDirDirty = flags := by
  apply UInt8.toBitVec_inj.mp
  ext place hplace
  have hbit := congrArg (fun value => value.toBitVec[place]) hclean
  simp at hbit ⊢
  intro hset
  simp [hbit hset]

/-! The fields of a directory entry. -/

theorem cluster_halves (cluster : UInt32) :
    UInt32.ofNat ((cluster >>> 16).toNat % 256 ^ 2) <<< 16 |||
      UInt32.ofNat ((cluster &&& 0xFFFF).toNat % 256 ^ 2) = cluster := by
  have hlt := cluster.toNat_lt
  have hhigh : (cluster >>> 16).toNat = cluster.toNat / 2 ^ 16 := by
    rw [UInt32.toNat_shiftRight, Nat.shiftRight_eq_div_pow]
    rfl
  have hlow : (cluster &&& 0xFFFF).toNat = cluster.toNat % 2 ^ 16 := by
    rw [UInt32.toNat_and]
    exact Nat.and_two_pow_sub_one_eq_mod _ 16
  apply UInt32.toNat_inj.mp
  rw [UInt32.toNat_or, UInt32.toNat_shiftLeft, UInt32.toNat_ofNat', UInt32.toNat_ofNat',
    hhigh, hlow]
  have hsixteen : (16 : UInt32).toNat % 32 = 16 := rfl
  have hroom : (cluster.toNat / 2 ^ 16 % 256 ^ 2 % 2 ^ 32) <<< 16 % 2 ^ 32 =
      (cluster.toNat / 2 ^ 16) <<< 16 := by
    rw [Nat.shiftLeft_eq, Nat.shiftLeft_eq]
    omega
  have hlow' : cluster.toNat % 2 ^ 16 % 256 ^ 2 % 2 ^ 32 = cluster.toNat % 2 ^ 16 := by
    omega
  rw [hsixteen, hroom, hlow', ← Nat.shiftLeft_add_eq_or_of_lt
    (Nat.mod_lt _ (Nat.two_pow_pos 16)), Nat.shiftLeft_eq]
  omega

namespace FatFile

variable {file : FatFile}

theorem recorded_storeDirEntry (hfile : file.isDir = false) (block : Block) :
    file.Recorded (storeDirEntry file block) := by
  have hsize : file.fileSize.toNat < 256 ^ 4 := file.fileSize.toNat_lt
  constructor
  · rw [dirFileSize, storeDirEntry, if_neg (by rw [hfile]; exact Bool.false_ne_true)]
    rw [load_store_apart (by omega), load_store_apart (by omega), load_store,
      Nat.mod_eq_of_lt hsize, UInt32.ofNat_toNat]
  · rw [dirFirstCluster, storeDirEntry]
    rw [load_store, load_store_apart (by omega), load_store]
    exact cluster_halves file.firstCluster

theorem storeDirEntry_other (block : Block) {place : Nat}
    (hother : place < dirEntrySize * file.dirIndex.toNat + 20 ∨
      dirEntrySize * file.dirIndex.toNat + dirEntrySize ≤ place) :
    storeDirEntry file block place = block place := by
  have hentry : dirEntrySize = 32 := rfl
  rw [storeDirEntry, store_apart (by omega), store_apart (by omega)]
  split
  · rfl
  · rw [store_apart (by omega)]

/-- The block of the directory entry after `sync`. -/
def syncedBlock (file : FatFile) (block : Block) : Block :=
  if file.flags &&& fFileDirDirty ≠ 0 then storeDirEntry file block else block

theorem syncedBlock_other (block : Block) {place : Nat}
    (hother : place < dirEntrySize * file.dirIndex.toNat + 20 ∨
      dirEntrySize * file.dirIndex.toNat + dirEntrySize ≤ place) :
    syncedBlock file block place = block place := by
  unfold syncedBlock
  split
  · exact storeDirEntry_other block hother
  · rfl

end FatFile

variable {layout : Layout} {io : Accesses} {chain : List UInt32} {file : FatFile}
  {volume after : SdVolume} {own : UInt32 → Prop}

theorem SdVolume.Stored.within (hsound : layout.Sound) {block : UInt32} {data : Block}
    {entry : UInt32 → Nat → Prop} (hplain : layout.Plain block)
    (hstartable : Startable layout volume)
    (hstored : Stored layout block data volume after)
    (hdata : ∀ place, ¬ entry block place → data place = volume.memory block place) :
    Within layout own entry volume after := by
  have hfat := hstored.fat hsound hplain
  refine ⟨hstored.coherent, hstartable.of_eq hstored.allocSearchStart, ?_, ?_, ?_⟩
  · exact fun cluster _ _ => congrFun hfat cluster
  · exact fun cluster _ hfree => .inr (congrFun hfat cluster ▸ hfree)
  · intro other place hother hentry _
    rw [hstored.memory other hother.1]
    by_cases hsame : other = block
    · subst hsame
      rw [Function.update_self, hdata place hentry]
    · rw [Function.update_of_ne hsame]

theorem SdVolume.Kept.stored {block : UInt32} (hkept : Kept layout volume after) :
    Stored layout block (volume.memory block) volume after where
  coherent := hkept.coherent
  memory other hlogical := by
    rw [Function.update_eq_self, hkept.same.memory other hlogical]
  allocSearchStart := hkept.same.allocSearchStart

theorem SdVolume.Stored.same {block : UInt32} {data : Block} {first second third : SdVolume}
    (hstored : Stored layout block data first second) (hsame : Same layout second third)
    (hcoherent : Coherent layout third) : Stored layout block data first third where
  coherent := hcoherent
  memory other hlogical :=
    (hsame.memory other hlogical).trans (hstored.memory other hlogical)
  allocSearchStart := hsame.allocSearchStart.trans hstored.allocSearchStart

namespace FatFile

structure Synced (layout : Layout) (file : FatFile) (volume : SdVolume)
    (after : Opened) : Prop where
  stored : Stored layout file.dirBlock
    (syncedBlock file (volume.memory file.dirBlock)) volume after.1
  clean : after.1.cacheDirty = false
  handle : after.2 = { file with flags := file.flags &&& ~~~fFileDirDirty }

theorem ends_sync (hsound : layout.Sound) (hcoherent : Coherent layout volume)
    (hstartable : Startable layout volume) (hplain : layout.Plain file.dirBlock)
    (hopen : ¬ file.type = .closed) :
    Ends (sync io) (volume, file)
      (fun _ after => Synced layout file volume after)
      (fun after => Within layout own file.entryOf volume after.1 ∧ Broken io) := by
  rw [sync, ends_bind, ends_getFile, if_neg hopen]
  by_cases hdirty : file.flags &&& fFileDirDirty = 0
  · rw [if_neg (not_not_intro hdirty), ends_onVolume]
    apply (ends_cacheFlush hsound hcoherent).imp
    · rintro - flushed ⟨hkept, hclean, -⟩
      refine ⟨?_, hclean, by rw [clear_eq hdirty]⟩
      rw [syncedBlock, if_neg (not_not_intro hdirty)]
      exact hkept.stored
    · rintro flushed ⟨hkept, hbroken⟩
      exact ⟨hkept.within hsound hstartable, hbroken⟩
  · rw [if_pos hdirty, ends_bind, ends_onVolume]
    apply (ends_cacheRawBlock_write hsound hcoherent hplain).imp
    · rintro - loaded ⟨hloaded, hcached⟩
      rw [ends_bind, ends_onVolume, ends_modify, ends_bind, ends_modifyFile, ends_onVolume]
      have hstored : Stored layout file.dirBlock
          (syncedBlock file (volume.memory file.dirBlock)) volume
          { loaded with cacheBuffer := storeDirEntry file loaded.cacheBuffer } := by
        rw [syncedBlock, if_pos hdirty, ← hloaded.buffer]
        exact hloaded.same.stored (hloaded.coherent.stored hcached hloaded.number _)
      have hwithin : Within layout own file.entryOf volume
          { loaded with cacheBuffer := storeDirEntry file loaded.cacheBuffer } :=
        hstored.within hsound hplain hstartable fun place hentry =>
          syncedBlock_other _ (by
            by_contra hin
            have := not_or.mp hin
            exact hentry ⟨rfl, by omega, by omega⟩)
      apply (ends_cacheFlush hsound hstored.coherent).imp
      · rintro - flushed ⟨hkept, hclean, -⟩
        exact ⟨hstored.same hkept.same hkept.coherent, hclean, rfl⟩
      · rintro flushed ⟨hkept, hbroken⟩
        exact ⟨hwithin.kept hsound hkept, hbroken⟩
    · rintro after ⟨hkept, hbroken⟩
      exact ⟨hkept.within hsound hstartable, hbroken⟩

end FatFile

/-! What the operations do to a file. -/

/-- Bytes that have been written into a content. -/
def put (content : List UInt8) (start : Nat) (bytes : List UInt8) : List UInt8 :=
  content.take start ++ bytes ++ content.drop (start + bytes.length)

theorem map_overwrite (chainBytes : Nat → UInt8) {size start : Nat} (bytes : List UInt8)
    (hstart : start ≤ size) :
    (List.range (max size (start + bytes.length))).map
        (SdFile.overwrite chainBytes start bytes) =
      put ((List.range size).map chainBytes) start bytes := by
  unfold put
  apply List.ext_getElem
  · simp only [List.length_map, List.length_range, List.length_append, List.length_take,
      List.length_drop]
    omega
  · intro place hleft hright
    simp only [List.length_map, List.length_range] at hleft
    rw [List.getElem_map, List.getElem_range]
    unfold SdFile.overwrite
    have htake : (((List.range size).map chainBytes).take start).length = start := by
      rw [List.length_take, List.length_map, List.length_range]
      omega
    by_cases hbefore : place < start
    · have hin : place < (((List.range size).map chainBytes).take start ++ bytes).length := by
        rw [List.length_append, htake]
        omega
      rw [if_pos hbefore, List.getElem_append_left hin,
        List.getElem_append_left (htake.symm ▸ hbefore), List.getElem_take,
        List.getElem_map, List.getElem_range]
    · rw [if_neg hbefore]
      by_cases hin : place - start < bytes.length
      · have hin' : place <
            (((List.range size).map chainBytes).take start ++ bytes).length := by
          rw [List.length_append, htake]
          omega
        rw [List.getD_eq_getElem _ _ hin, List.getElem_append_left hin',
          List.getElem_append_right (by rw [htake]; omega)]
        simp only [htake]
      · have hout : (((List.range size).map chainBytes).take start ++ bytes).length ≤
            place := by
          rw [List.length_append, htake]
          omega
        rw [List.getD_eq_default _ _ (by omega), List.getElem_append_right hout,
          List.getElem_drop, List.getElem_map, List.getElem_range]
        congr 1
        rw [List.length_append, htake]
        omega

/-- The handle is still that of the same directory entry, for the same uses. -/
structure FatFile.SameHandle (before after : FatFile) : Prop where
  type : after.type = before.type
  dirBlock : after.dirBlock = before.dirBlock
  dirIndex : after.dirIndex = before.dirIndex
  flags : SameFlags before.flags after.flags

namespace FatFile

theorem SameHandle.refl (file : FatFile) : file.SameHandle file := ⟨rfl, rfl, rfl, rfl⟩

theorem SameHandle.trans {first second third : FatFile} (hfirst : first.SameHandle second)
    (hsecond : second.SameHandle third) : first.SameHandle third where
  type := hsecond.type.trans hfirst.type
  dirBlock := hsecond.dirBlock.trans hfirst.dirBlock
  dirIndex := hsecond.dirIndex.trans hfirst.dirIndex
  flags := hfirst.flags.trans hsecond.flags

theorem sameHandle_grow (file : FatFile) : file.SameHandle (grow file) := by
  unfold grow
  split
  · exact ⟨rfl, rfl, rfl, sameFlags_dirty file.flags⟩
  · exact .refl file

theorem Recorded.carried {block : Block} {before after : FatFile}
    (hrecorded : before.Recorded block) (hindex : after.dirIndex = before.dirIndex)
    (hsize : after.fileSize = before.fileSize)
    (hcluster : after.firstCluster = before.firstCluster) : after.Recorded block where
  size := by
    rw [hindex, hsize]
    exact hrecorded.size
  cluster := by
    rw [hindex, hcluster]
    exact hrecorded.cluster

end FatFile

/-- The file has this content, and nothing outside of it has changed. -/
structure Served (layout : Layout) (chain chain' : List UInt32) (content : List UInt8)
    (before after : FatFile.Opened) : Prop where
  held : Held layout after.1 chain' after.2
  content : contentOf layout after.1 chain' after.2.fileSize.toNat = content
  within : Within layout (· ∈ chain) before.2.entryOf before.1 after.1
  fresh : ∀ cluster ∈ chain', cluster ∈ chain ∨ before.1.fat layout cluster = 0
  same : before.2.SameHandle after.2

theorem SdVolume.Within.mono {entry entry' : UInt32 → Nat → Prop}
    (hwithin : Within layout own entry volume after)
    (hentry : ∀ block place, entry block place → entry' block place) :
    Within layout own entry' volume after where
  coherent := hwithin.coherent
  startable := hwithin.startable
  fat := hwithin.fat
  free := hwithin.free
  memory block place hplain hout hapart :=
    hwithin.memory block place hplain (mt (hentry block place) hout) hapart

theorem Held.synced (hsound : layout.Sound) (hheld : Held layout volume chain file)
    (hstartable : Startable layout volume) {after : FatFile.Opened}
    (hsynced : FatFile.Synced layout file volume after) :
    Served layout chain chain (contentOf layout volume chain file.fileSize.toNat)
      (volume, file) after ∧ after.2.flags &&& fFileDirDirty = 0 := by
  obtain ⟨synced, file'⟩ := after
  obtain ⟨hstored, -, hhandle⟩ := hsynced
  dsimp only at hstored hhandle
  subst hhandle
  have hfat := hstored.fat hsound hheld.plain
  have hcleared : (file.flags &&& ~~~fFileDirDirty) &&& fFileDirDirty = 0 := by
    rw [UInt8.and_assoc, UInt8.not_and_self, UInt8.and_zero]
  have hblocks : ∀ cluster ∈ chain, ∀ block, layout.InCluster cluster block →
      synced.memory block = volume.memory block := by
    intro cluster hcluster block hblock
    have hdata := hheld.clusters cluster hcluster
    have hapart : block ≠ file.dirBlock := by
      rintro rfl
      exact hheld.apart cluster hdata (.inl hcluster) hblock
    rw [hstored.memory block (hsound.plain_block hdata hblock).1,
      Function.update_of_ne hapart]
  have hdir : synced.memory file.dirBlock =
      file.syncedBlock (volume.memory file.dirBlock) := by
    rw [hstored.memory _ hheld.plain.1, Function.update_self]
  have hother : ∀ place, ¬ file.entryOf file.dirBlock place →
      file.syncedBlock (volume.memory file.dirBlock) place =
        volume.memory file.dirBlock place := by
    intro place hentry
    apply FatFile.syncedBlock_other
    by_contra hin
    have hbounds := not_or.mp hin
    exact hentry ⟨rfl, by omega, by omega⟩
  have hfile : FileAt layout (volume.fat layout) chain
      { file with flags := file.flags &&& ~~~fFileDirDirty } :=
    ⟨⟨hheld.toChained, hheld.first, hheld.reached, hheld.cluster⟩, hheld.type,
      hheld.position, hheld.size⟩
  refine ⟨⟨⟨hfat ▸ hfile, hheld.plain, ?_, ?_, ?_⟩, ?_, ?_, fun _ hin => .inl hin,
    ⟨rfl, rfl, rfl, sameFlags_clear file.flags⟩⟩, hcleared⟩
  · rw [hfat]
    exact hheld.apart
  · have hattribute : dirAttributes (synced.memory file.dirBlock) file.dirIndex =
        dirAttributes (volume.memory file.dirBlock) file.dirIndex := by
      rw [hdir]
      exact FatFile.syncedBlock_other _ (.inl (by omega))
    exact hattribute ▸ hheld.regular
  · intro _
    dsimp only
    rw [hdir]
    unfold FatFile.syncedBlock
    by_cases hdirty : file.flags &&& fFileDirDirty = 0
    · rw [if_neg (not_not_intro hdirty)]
      exact ⟨(hheld.recorded hdirty).size, (hheld.recorded hdirty).cluster⟩
    · have hnormal : file.isDir = false := by
        rw [FatFile.isDir, hheld.type]
      have hrecorded := FatFile.recorded_storeDirEntry hnormal
        (volume.memory file.dirBlock)
      rw [if_pos hdirty]
      exact ⟨hrecorded.size, hrecorded.cluster⟩
  · apply List.map_congr_left
    intro place hplace
    have hlt := List.mem_range.mp hplace
    exact byteOf_congr hblocks (Nat.lt_of_lt_of_le hlt hheld.size)
  · exact hstored.within hsound hheld.plain hstartable hother

theorem FatFile.SameHandle.entryOf {before after : FatFile}
    (hsame : before.SameHandle after) : after.entryOf = before.entryOf := by
  funext block place
  rw [FatFile.entryOf, FatFile.entryOf, hsame.dirBlock, hsame.dirIndex]

theorem Served.trans {chain' chain'' : List UInt32} {content content' : List UInt8}
    {first second third : FatFile.Opened}
    (hfirst : Served layout chain chain' content first second)
    (hsecond : Served layout chain' chain'' content' second third) :
    Served layout chain chain'' content' first third where
  held := hsecond.held
  content := hsecond.content
  within := by
    have hwithin := hsecond.within
    rw [hfirst.same.entryOf] at hwithin
    exact hfirst.within.trans hwithin hfirst.fresh
  fresh cluster hcluster := by
    rcases hsecond.fresh cluster hcluster with hin | hfree
    · exact hfirst.fresh cluster hin
    · exact hfirst.within.free cluster
        (hsecond.held.clusters cluster hcluster) hfree
  same := hfirst.same.trans hsecond.same

/-- Reading and seeking leave the file as it is. -/
theorem Held.moved (hsound : layout.Sound) (hheld : Held layout volume chain file)
    (hstartable : Startable layout volume) {after : FatFile.Opened} {pos : UInt32}
    (hkept : Kept layout volume after.1) (hmoved : FatFile.Moved pos file after.2)
    (hfile : FileAt layout (after.1.fat layout) chain after.2) :
    Served layout chain chain (contentOf layout volume chain file.fileSize.toNat)
      (volume, file) after := by
  obtain ⟨kept, file'⟩ := after
  dsimp only at hkept hmoved hfile
  have hsize : file'.fileSize = file.fileSize := by rw [hmoved]
  have hblock : file'.dirBlock = file.dirBlock := by rw [hmoved]
  have hindex : file'.dirIndex = file.dirIndex := by rw [hmoved]
  have hflags : file'.flags = file.flags := by rw [hmoved]
  have hfirst : file'.firstCluster = file.firstCluster := by rw [hmoved]
  have hdir := hkept.same.memory file.dirBlock hheld.plain.1
  refine ⟨⟨hfile, hblock ▸ hheld.plain, ?_, ?_, ?_⟩, ?_,
    hkept.within hsound hstartable, fun _ hin => .inl hin, ⟨?_, hblock, hindex, ?_⟩⟩
  · rw [hkept.same.fat hsound, hblock]
    exact hheld.apart
  · rw [hblock, hindex, hdir]
    exact hheld.regular
  · intro hclean
    dsimp only at hclean ⊢
    rw [hflags] at hclean
    rw [hblock, hdir]
    exact (hheld.recorded hclean).carried hindex hsize hfirst
  · dsimp only
    rw [hsize]
    apply List.map_congr_left
    intro place hplace
    have hlt := List.mem_range.mp hplace
    exact hkept.byteOf hsound hheld.toChained (Nat.lt_of_lt_of_le hlt hheld.size)
  · rw [hmoved]
  · dsimp only
    rw [hflags]
    rfl

theorem Held.unmoved (hsound : layout.Sound) (hheld : Held layout volume chain file)
    (hcoherent : Coherent layout volume) (hstartable : Startable layout volume) :
    Served layout chain chain (contentOf layout volume chain file.fileSize.toNat)
      (volume, file) (volume, file) := by
  have hmoved : FatFile.Moved file.curPosition file file := rfl
  exact hheld.moved hsound hstartable ⟨hcoherent, .refl _⟩ hmoved hheld.toFileAt

namespace FatFile

theorem grow_handle (file : FatFile) :
    file.grow = { file with fileSize := file.grow.fileSize, flags := file.grow.flags } := by
  unfold grow
  split <;> rfl

theorem grow_fileSize (file : FatFile) :
    file.grow.fileSize.toNat = max file.fileSize.toNat file.curPosition.toNat := by
  unfold grow
  split
  · next hgrown =>
    have hlt := UInt32.lt_iff_toNat_lt.mp hgrown
    dsimp only
    omega
  · next hgrown =>
    have hle := Nat.le_of_not_lt (mt UInt32.lt_iff_toNat_lt.mpr hgrown)
    omega

theorem grow_flags (file : FatFile) :
    file.grow.flags = file.flags ∧ file.grow.fileSize = file.fileSize ∨
      file.grow.flags = file.flags ||| fFileDirDirty := by
  unfold grow
  split
  · exact .inr rfl
  · exact .inl ⟨rfl, rfl⟩

section Wrote

variable {opened : Opened} {more : List UInt32} {buf : List UInt8}
  (hwrote : Wrote layout (fun _ _ => False) chain more buf (volume, file) opened)

include hwrote

theorem Wrote.sameHandle : file.SameHandle opened.2.grow := by
  have hhandle := hwrote.handle
  have hflags : SameFlags file.flags opened.2.flags := by
    rcases hwrote.flags with ⟨hsame, -⟩ | hdirty
    · rw [hsame]
      rfl
    · rw [hdirty]
      exact sameFlags_dirty file.flags
  have hwritten : file.SameHandle opened.2 :=
    ⟨by rw [hhandle], by rw [hhandle], by rw [hhandle], hflags⟩
  exact hwritten.trans (sameHandle_grow opened.2)

variable (hheld : Held layout volume chain file)

include hheld

/-- The directory entry is in no cluster that is written to. -/
theorem Wrote.apart : ∀ cluster, layout.Cluster cluster →
    cluster ∈ chain ++ more ∨ opened.1.fat layout cluster = 0 →
      ¬ layout.InCluster cluster file.dirBlock := by
  intro cluster hcluster hin
  apply hheld.apart cluster hcluster
  rcases hin with hin | hfree
  · exact (List.mem_append.mp hin).imp_right fun hmore => (hwrote.fresh cluster hmore).2
  · exact hwrote.within.free cluster hcluster hfree

theorem Wrote.dirBlock : opened.1.memory file.dirBlock = volume.memory file.dirBlock := by
  funext place
  exact hwrote.within.memory file.dirBlock place hheld.plain not_false
    fun cluster hcluster hin => hheld.apart cluster hcluster hin

/-- Unless the handle is marked, neither its size nor its first cluster has changed. -/
theorem Wrote.recorded (hclean : opened.2.grow.flags &&& fFileDirDirty = 0) :
    opened.2.grow.Recorded (volume.memory file.dirBlock) := by
  have hsize := hwrote.fileSize
  rcases grow_flags opened.2 with ⟨hkept, hsize'⟩ | hdirty
  · rw [hkept] at hclean
    rcases hwrote.flags with ⟨hsame, hcluster⟩ | hdirty
    · have hcluster' : opened.2.grow.firstCluster = file.firstCluster := by
        rw [grow_handle]
        exact hcluster
      exact (hheld.recorded (hsame ▸ hclean)).carried hwrote.sameHandle.dirIndex
        (hsize'.trans hsize) hcluster'
    · rw [hdirty] at hclean
      exact absurd hclean (or_dirty_ne file.flags)
  · rw [hdirty] at hclean
    exact absurd hclean (or_dirty_ne opened.2.flags)

theorem Wrote.fileAt :
    FileAt layout (opened.1.fat layout) (chain ++ more) opened.2.grow := by
  have hgrow := grow_handle opened.2
  have hposition : opened.2.grow.curPosition = opened.2.curPosition := by rw [hgrow]
  have hsize : opened.2.fileSize = file.fileSize := hwrote.fileSize
  have htotal := grow_fileSize opened.2
  have hreached := hwrote.onChain.reached
  have hsized := hheld.size
  have hroom : chain.length * layout.clusterBytes ≤
      (chain ++ more).length * layout.clusterBytes := by
    rw [List.length_append, Nat.add_mul]
    exact Nat.le_add_right _ _
  refine ⟨⟨hwrote.onChain.toChained, ?_, ?_, ?_⟩, ?_, ?_, ?_⟩
  · rw [hgrow]
    exact hwrote.onChain.first
  · rw [hposition]
    exact hreached
  · rw [hgrow]
    exact hwrote.onChain.cluster
  · exact hwrote.sameHandle.type.trans hheld.type
  · rw [hposition, htotal]
    exact Nat.le_max_right _ _
  · rw [htotal, hsize]
    omega

theorem Wrote.held (hfit : file.curPosition.toNat + buf.length < 2 ^ 32) :
    Served layout chain (chain ++ more)
        (put (contentOf layout volume chain file.fileSize.toNat) file.curPosition.toNat buf)
        (volume, file) (opened.1, opened.2.grow) ∧
      opened.2.grow.curPosition.toNat = file.curPosition.toNat + buf.length := by
  have hsame := hwrote.sameHandle
  have hnat := hwrote.position hfit
  have htotal := grow_fileSize opened.2
  rw [hwrote.fileSize, hnat] at htotal
  refine ⟨⟨⟨hwrote.fileAt hheld, ?_, ?_, ?_, ?_⟩, ?_,
    hwrote.within.mono fun _ _ => False.elim, ?_, hsame⟩, ?_⟩
  · rw [hsame.dirBlock]
    exact hheld.plain
  · rw [hsame.dirBlock]
    exact hwrote.apart hheld
  · rw [hsame.dirBlock, hsame.dirIndex, hwrote.dirBlock hheld]
    exact hheld.regular
  · intro hclean
    rw [hsame.dirBlock, hwrote.dirBlock hheld]
    exact hwrote.recorded hheld hclean
  · rw [htotal, contentOf, contentOf, ← map_overwrite _ buf hheld.position]
    apply List.map_congr_left
    intro place hplace
    exact hwrote.bytes place (List.mem_range.mp hplace)
  · intro cluster hcluster
    exact (List.mem_append.mp hcluster).imp_right fun hmore => (hwrote.fresh cluster hmore).2
  · rw [grow_handle]
    exact hnat

end Wrote

def writeStart (file : FatFile) : Nat :=
  if file.flags &&& oAppend ≠ 0 then file.fileSize.toNat else file.curPosition.toNat

theorem ends_seekToAppend (hsound : layout.Sound) (hcoherent : Coherent layout volume)
    (hstartable : Startable layout volume) (hheld : Held layout volume chain file) :
    Ends (seekToAppend io layout) (volume, file)
      (fun _ after => Served layout chain chain
          (contentOf layout volume chain file.fileSize.toNat) (volume, file) after ∧
        after.2.curPosition.toNat = file.writeStart)
      (fun after => Within layout (· ∈ chain) file.entryOf volume after.1 ∧
        Broken io) := by
  rw [seekToAppend, ends_bind, ends_getFile]
  by_cases happend : file.flags &&& oAppend ≠ 0 ∧ file.curPosition ≠ file.fileSize
  · rw [if_pos happend, writeStart, if_pos happend.1]
    apply (ends_seekSet hsound hcoherent hheld.toFileAt (le_refl _)).imp
    · rintro - after ⟨hkept, hmoved, hfile⟩
      refine ⟨hheld.moved hsound hstartable hkept hmoved hfile, ?_⟩
      rw [hmoved]
    · rintro after ⟨hkept, hbroken⟩
      exact ⟨hkept.within hsound hstartable, hbroken⟩
  · rw [if_neg happend, ends_pure]
    refine ⟨hheld.unmoved hsound hcoherent hstartable, ?_⟩
    rw [writeStart]
    split
    · next hflag =>
      have hend := not_and.mp happend hflag
      rw [not_not.mp hend]
    · rfl

theorem ends_writeEnd (hsound : layout.Sound) (hcoherent : Coherent layout volume)
    (hstartable : Startable layout volume) (hheld : Held layout volume chain file.grow) :
    Ends (writeEnd io) (volume, file)
      (fun _ after => Served layout chain chain
          (contentOf layout volume chain file.grow.fileSize.toNat) (volume, file.grow)
          after ∧
        after.2.curPosition = file.grow.curPosition ∧
        (file.grow.flags &&& oSync ≠ 0 → after.1.cacheDirty = false ∧
          after.2.flags &&& fFileDirDirty = 0))
      (fun after => Within layout (· ∈ chain) file.grow.entryOf volume after.1 ∧
        Broken io) := by
  rw [writeEnd, ends_bind, ends_modifyFile, ends_bind, ends_getFile]
  dsimp only
  have hopen : ¬ file.grow.type = .closed := by
    rw [hheld.type]
    exact nofun
  by_cases hsync : file.grow.flags &&& oSync = 0
  · rw [if_neg (not_not_intro hsync), ends_pure]
    exact ⟨hheld.unmoved hsound hcoherent hstartable, rfl, fun h => absurd hsync h⟩
  · rw [if_pos hsync]
    apply (ends_sync hsound hcoherent hstartable hheld.plain hopen).imp
    · rintro - after hsynced
      obtain ⟨hserved, hcleared⟩ := hheld.synced hsound hstartable hsynced
      refine ⟨hserved, ?_, fun _ => ⟨hsynced.clean, hcleared⟩⟩
      rw [hsynced.handle]
    · exact fun _ hfailed => hfailed

/-- `write` puts the bytes into the file, and where it fails an access has failed or
no cluster is free. -/
theorem ends_write (hsound : layout.Sound) (hcoherent : Coherent layout volume)
    (hstartable : Startable layout volume) (hheld : Held layout volume chain file)
    (hflags : file.flags &&& oWrite ≠ 0) {buf : List UInt8}
    (hfit : file.writeStart + buf.length < 2 ^ 32) :
    Ends (write io layout buf) (volume, file)
      (fun _ after => ∃ more, Served layout chain (chain ++ more)
          (put (contentOf layout volume chain file.fileSize.toNat) file.writeStart buf)
          (volume, file) after ∧
        after.2.curPosition.toNat = file.writeStart + buf.length ∧
        (file.flags &&& oSync ≠ 0 → after.1.cacheDirty = false ∧
          after.2.flags &&& fFileDirDirty = 0))
      (fun after => Within layout (· ∈ chain) file.entryOf volume after.1 ∧
        (Broken io ∨ Full layout after.1)) := by
  have hopen : ¬ (file.type ≠ .normal ∨ file.flags &&& oWrite = 0) := by
    rintro (htype | hnone)
    · exact htype hheld.type
    · exact hflags hnone
  rw [write, ends_bind, ends_getFile, if_neg hopen]
  apply (ends_seekToAppend hsound hcoherent hstartable hheld).bind
  · rintro - ⟨sought, file'⟩ ⟨hsought, hstart⟩
    have hheld' : Held layout sought chain file' := hsought.held
    have hcontent : contentOf layout sought chain file'.fileSize.toNat =
        contentOf layout volume chain file.fileSize.toNat := hsought.content
    have hentry : file'.entryOf = file.entryOf := hsought.same.entryOf
    have hsynced : file'.flags &&& oSync = file.flags &&& oSync :=
      hsought.same.flags.mask (by decide)
    have hwithin : Within layout (· ∈ chain) file.entryOf volume sought := hsought.within
    dsimp only at hstart
    have hfit' : file'.curPosition.toNat + buf.length < 2 ^ 32 := by omega
    have hloop : Ends (writeLoop io layout buf) (sought, file')
        (fun _ after => ∃ more,
          Wrote layout (fun _ _ => False) chain more buf (sought, file') after) _ :=
      ends_writeLoop hsound hwithin.coherent hwithin.startable hheld'.toOnChain hheld'.size
        hfit'
    apply hloop.bind
    · rintro - ⟨written, file''⟩ ⟨more, hwrote⟩
      obtain ⟨hserved, hposition⟩ := hwrote.held hheld' hfit'
      have hsofar := hsought.trans hserved
      rw [hcontent, hstart] at hsofar
      have hcoherent' : Coherent layout written := hserved.within.coherent
      have hstartable' : Startable layout written := hserved.within.startable
      have hheld'' : Held layout written (chain ++ more) file''.grow := hserved.held
      have hflags' : file''.grow.flags &&& oSync = file.flags &&& oSync :=
        hsofar.same.flags.mask (by decide)
      apply (ends_writeEnd hsound hcoherent' hstartable' hheld'').imp
      · rintro - after ⟨hended, hkept, hsync⟩
        rw [hsofar.content] at hended
        refine ⟨more, hsofar.trans hended, ?_, ?_⟩
        · rw [hkept, hposition, hstart]
        · rw [← hflags']
          exact hsync
      · rintro after ⟨hended, hbroken⟩
        refine ⟨?_, .inl hbroken⟩
        rw [hsofar.same.entryOf] at hended
        exact hsofar.within.trans hended hsofar.fresh
    · rintro after ⟨hfailed, hreason⟩
      have hfailed' : Within layout (· ∈ chain) file.entryOf sought after.1 :=
        hfailed.mono fun _ _ => False.elim
      exact ⟨hwithin.trans hfailed' fun _ hin => .inl hin, hreason⟩
  · rintro after ⟨hwithin, hbroken⟩
    exact ⟨hwithin, .inl hbroken⟩

end FatFile

end SenseBox.SD
