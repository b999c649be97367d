import SenseBox.SD.FatDir
import SenseBox.SD.Lookup
import SenseBox.SD.WriteFile

namespace SenseBox.SD

open SenseBox.Data
open SdVolume

/-! The entries of a directory, and the search for a name. -/

def slotsPerBlock : Nat := 16

def slotIndex (slot : Nat) : UInt8 := UInt8.ofNat (slot % slotsPerBlock)

theorem toNat_slotIndex (slot : Nat) : (slotIndex slot).toNat = slot % slotsPerBlock := by
  have hlt := Nat.mod_lt slot (by decide : slotsPerBlock > 0)
  unfold slotsPerBlock at hlt
  rw [slotIndex, UInt8.toNat_ofNat', Nat.mod_eq_of_lt]
  unfold slotsPerBlock
  omega

/-- The block of an entry of a directory: the root directory of FAT16 has blocks of its
own, every other one has a chain. -/
def slotBlock (layout : Layout) (chain : List UInt32) (type : FileType) (slot : Nat) :
    UInt32 :=
  if type = .root16 then layout.rootDirStart + UInt32.ofNat (slot / slotsPerBlock)
  else layout.blockAt chain (dirEntrySize * slot)

/-- The handle of a directory of as many entries, which has its blocks between the FATs
and the clusters or in a chain of whole clusters. -/
structure Directory (layout : Layout) (table : UInt32 → UInt32) (chain : List UInt32)
    (dir : FatFile) (count : Nat) : Prop where
  isDir : dir.isDir = true
  flags : dir.flags = oRead
  size : dir.fileSize.toNat = dirEntrySize * count
  apart : dir.type = .root16 → chain = [] ∧
    layout.fatStartBlock.toNat + layout.fatCount.toNat * layout.blocksPerFat.toNat ≤
      layout.rootDirStart.toNat ∧
    layout.rootDirStart.toNat + (count + 15) / slotsPerBlock ≤
      layout.dataStartBlock.toNat
  chained : layout.Chained table chain
  first : dir.type ≠ .root16 → dir.firstCluster = chain.headD 0
  whole : dir.type ≠ .root16 → ∃ filled, 0 < filled ∧ filled ≤ chain.length ∧
    dirEntrySize * count = filled * layout.clusterBytes

/-- The handle of a directory stands at an entry. -/
structure Standing (layout : Layout) (chain : List UInt32) (dir : FatFile)
    (slot : Nat) : Prop where
  position : dir.curPosition.toNat = dirEntrySize * slot
  cluster : dir.type ≠ .root16 → dir.curCluster =
    if dir.curPosition = 0 then 0
    else chain.getD ((dir.curPosition.toNat - 1) / layout.clusterBytes) 0

/-- The handle may have been moved, and is otherwise as it was. -/
def FatFile.Turned (before after : FatFile) : Prop :=
  after = { before with
    curCluster := after.curCluster
    curPosition := after.curPosition }

variable {layout : Layout} {io : Accesses} {table : UInt32 → UInt32}
  {chain : List UInt32} {dir file : FatFile} {count slot : Nat}
  {volume after : SdVolume}

theorem FatFile.Turned.trans {first second third : FatFile} (hfirst : Turned first second)
    (hsecond : Turned second third) : Turned first third := by
  rw [Turned, hsecond, hfirst]

theorem FatFile.Turned.type {before after : FatFile} (hturned : Turned before after) :
    after.type = before.type := by
  rw [hturned]

theorem FatFile.Turned.fileSize {before after : FatFile} (hturned : Turned before after) :
    after.fileSize = before.fileSize := by
  rw [hturned]

namespace Directory

theorem turned (hdirectory : Directory layout table chain dir count) {dir' : FatFile}
    (hturned : dir.Turned dir') : Directory layout table chain dir' count := by
  rw [hturned]
  exact ⟨hdirectory.isDir, hdirectory.flags, hdirectory.size, hdirectory.apart,
    hdirectory.chained, hdirectory.first, hdirectory.whole⟩

theorem unique (hdirectory : Directory layout table chain dir count) {chain' : List UInt32}
    {count' : Nat} (hother : Directory layout table chain' dir count') :
    chain' = chain ∧ count' = count := by
  refine ⟨?_, Nat.eq_of_mul_eq_mul_left (by decide : 0 < dirEntrySize)
    (hother.size.symm.trans hdirectory.size)⟩
  by_cases htype : dir.type = .root16
  · rw [(hdirectory.apart htype).1, (hother.apart htype).1]
  · have hhead := (hother.first htype).symm.trans (hdirectory.first htype)
    obtain ⟨_, hfilled, hle, -⟩ := hdirectory.whole htype
    obtain ⟨_, hfilled', hle', -⟩ := hother.whole htype
    refine hother.chained.linked.eq_of_head hdirectory.chained.linked ?_
    cases chain with
    | nil => exact absurd (hfilled.trans_le hle) (Nat.lt_irrefl 0)
    | cons first rest =>
        cases chain' with
        | nil => exact absurd (hfilled'.trans_le hle') (Nat.lt_irrefl 0)
        | cons first' rest' => exact congrArg some hhead

theorem rewound (layout : Layout) (chain : List UInt32) (dir : FatFile) :
    Standing layout chain dir.rewind 0 :=
  ⟨rfl, fun _ => rfl⟩

theorem fits (hdirectory : Directory layout table chain dir count)
    (htype : ¬ dir.type = .root16) :
    dirEntrySize * count ≤ chain.length * layout.clusterBytes := by
  obtain ⟨filled, -, hfilled, hwhole⟩ := hdirectory.whole htype
  rw [hwhole]
  exact Nat.mul_le_mul_right _ hfilled

/-- The blocks of a directory are neither the FATs' nor those of free clusters. -/
theorem toNat_root16 (hsound : layout.Sound)
    (hdirectory : Directory layout table chain dir count) (htype : dir.type = .root16)
    (hslot : slot < count) :
    (slotBlock layout chain dir.type slot).toNat =
        layout.rootDirStart.toNat + slot / slotsPerBlock ∧
      layout.rootDirStart.toNat + slot / slotsPerBlock < layout.dataStartBlock.toNat := by
  obtain ⟨-, -, hroom⟩ := hdirectory.apart htype
  have hdata := hsound.data
  have hsize := hdirectory.size
  have hlt := dir.fileSize.toNat_lt
  unfold slotsPerBlock at hroom ⊢
  unfold dirEntrySize at hsize
  have hnat : (UInt32.ofNat (slot / 16)).toNat = slot / 16 := by
    rw [UInt32.toNat_ofNat', Nat.mod_eq_of_lt (by omega)]
  rw [slotBlock, if_pos htype, slotsPerBlock, UInt32.toNat_add, hnat,
    Nat.mod_eq_of_lt (by omega)]
  exact ⟨rfl, by omega⟩

theorem in_chain (hdirectory : Directory layout table chain dir count)
    (htype : ¬ dir.type = .root16) (hslot : slot < count) :
    slotBlock layout chain dir.type slot = layout.blockAt chain (dirEntrySize * slot) ∧
      dirEntrySize * slot < chain.length * layout.clusterBytes := by
  have hfits := hdirectory.fits htype
  rw [slotBlock, if_neg htype]
  refine ⟨rfl, Nat.lt_of_lt_of_le ?_ hfits⟩
  exact Nat.mul_lt_mul_of_pos_left hslot (by decide)

theorem plain (hsound : layout.Sound) (hdirectory : Directory layout table chain dir count)
    (hslot : slot < count) : layout.Plain (slotBlock layout chain dir.type slot) := by
  by_cases htype : dir.type = .root16
  · obtain ⟨hnat, hlt⟩ := hdirectory.toNat_root16 hsound htype hslot
    obtain ⟨-, hroot, -⟩ := hdirectory.apart htype
    obtain ⟨hfats, -⟩ := hsound.fats
    have hdata := hsound.data
    have hone := Nat.mul_le_mul_right layout.blocksPerFat.toNat hfats
    have hvalue : noBlock.toNat = 2 ^ 32 - 1 := rfl
    have hplace := Nat.zero_le (slot / slotsPerBlock)
    refine ⟨⟨fun hnone => ?_, ?_⟩, ?_⟩
    · have := congrArg UInt32.toNat hnone
      omega
    · rintro ⟨hmirrored, -, hhigh⟩
      have hcount : 2 ≤ layout.fatCount.toNat := by
        have htwo : layout.fatCount > 1 := by simpa [Layout.mirrored] using hmirrored
        exact UInt8.lt_iff_toNat_lt.mp htwo
      have hmul := Nat.mul_le_mul_right layout.blocksPerFat.toNat hcount
      omega
    · rintro ⟨-, hhigh⟩
      omega
  · obtain ⟨hblock, hplace⟩ := hdirectory.in_chain htype hslot
    obtain ⟨hmem, hin⟩ := Layout.blockAt_in hplace
    rw [hblock]
    exact hsound.plain_block (hdirectory.chained.clusters _ hmem) hin

theorem cluster_mem (hsound : layout.Sound)
    (hdirectory : Directory layout table chain dir count) (hslot : slot < count)
    {cluster : UInt32} (hcluster : layout.Cluster cluster)
    (hin : layout.InCluster cluster (slotBlock layout chain dir.type slot)) :
    cluster ∈ chain := by
  obtain ⟨index, hindex, hsame⟩ := hin
  by_cases htype : dir.type = .root16
  · obtain ⟨hnat, hlt⟩ := hdirectory.toNat_root16 hsound htype hslot
    have hblock := (hsound.toNat_block hcluster hindex).1
    rw [← hsame] at hblock
    omega
  · obtain ⟨hblock, hplace⟩ := hdirectory.in_chain htype hslot
    obtain ⟨hmem, index', hindex', hsame'⟩ := Layout.blockAt_in hplace
    rw [hblock, hsame'] at hsame
    have hown := hdirectory.chained.clusters _ hmem
    rw [← (hsound.block_inj hown hcluster hindex' hindex hsame).1]
    exact hmem

theorem slotBlock_inj (hsound : layout.Sound)
    (hdirectory : Directory layout table chain dir count) {other : Nat}
    (hslot : slot < count) (hother : other < count)
    (hsame : slotBlock layout chain dir.type slot = slotBlock layout chain dir.type other) :
    slot / slotsPerBlock = other / slotsPerBlock := by
  by_cases htype : dir.type = .root16
  · have hnat := congrArg UInt32.toNat hsame
    rw [(hdirectory.toNat_root16 hsound htype hslot).1,
      (hdirectory.toNat_root16 hsound htype hother).1] at hnat
    exact Nat.add_left_cancel hnat
  · obtain ⟨hblock, hplace⟩ := hdirectory.in_chain htype hslot
    obtain ⟨hblock', hplace'⟩ := hdirectory.in_chain htype hother
    rw [hblock, hblock'] at hsame
    have hdiv := Layout.blockAt_inj hsound hdirectory.chained hplace hplace' hsame
    unfold slotsPerBlock
    unfold dirEntrySize at hdiv
    omega

end Directory

/-! Reading an entry into the cache. -/

/-- A part of a block that is read through the cache stays in it. -/
theorem SdVolume.ends_readPart_cached (hsound : layout.Sound)
    (hcoherent : Coherent layout volume) {block : UInt32}
    (hlogical : layout.Logical block) {offset n : Nat} (hn : ¬ n = 512) :
    Ends (readPart io false block offset n) volume
      (fun bytes after => bytes.length = n ∧ Loaded layout block volume after)
      (fun after => Kept layout volume after ∧ Broken io) := by
  have hbuffered :
      ¬ ((false || decide (n = 512)) && block ≠ volume.cacheBlockNumber) = true := by
    rw [decide_eq_false hn]
    exact Bool.false_ne_true
  rw [readPart, ends_bind, ends_get, if_neg hbuffered]
  apply (ends_cacheRawBlock_read hsound hcoherent hlogical).bind
  · intro _ loaded hloaded
    rw [ends_bind, ends_get, ends_pure]
    refine ⟨?_, hloaded⟩
    rw [bytesAt, List.length_map, List.length_range]
  · exact fun _ hfailed => hfailed

namespace FatFile

theorem ends_readLocate_dir (hsound : layout.Sound) (hcoherent : Coherent layout volume)
    (hdirectory : Directory layout (volume.fat layout) chain dir count)
    (hstanding : Standing layout chain dir slot) (hslot : slot < count) :
    Ends (readLocate io layout) (volume, dir)
      (fun block after => block = slotBlock layout chain dir.type slot ∧
        Kept layout volume after.1 ∧ ∃ cluster, after.2 = setCluster cluster dir ∧
          (dir.type ≠ .root16 →
            cluster = chain.getD (dir.curPosition.toNat / layout.clusterBytes) 0))
      (fun after => Kept layout volume after.1 ∧ Broken io ∧ after.2 = dir) := by
  by_cases htype : dir.type = .root16
  · rw [readLocate, ends_bind, ends_getFile, if_pos htype, ends_pure]
    refine ⟨?_, ⟨hcoherent, .refl volume⟩, dir.curCluster, rfl,
      fun hother => absurd htype hother⟩
    have hshift : dir.curPosition >>> 9 = UInt32.ofNat (slot / slotsPerBlock) := by
      apply UInt32.toNat_inj.mp
      have hlt := dir.curPosition.toNat_lt
      have hposition := hstanding.position
      unfold dirEntrySize at hposition
      rw [UInt32.toNat_shiftRight, UInt32.toNat_ofNat', Nat.shiftRight_eq_div_pow]
      have hnine : (9 : UInt32).toNat % 32 = 9 := rfl
      unfold slotsPerBlock
      rw [hnine, hposition, Nat.mod_eq_of_lt (by omega)]
      omega
    rw [slotBlock, if_pos htype, hshift]
  · obtain ⟨hblock, hplace⟩ := hdirectory.in_chain htype hslot
    rw [← hstanding.position] at hblock hplace
    have hchain : OnChain layout (volume.fat layout) chain dir :=
      ⟨hdirectory.chained, hdirectory.first htype, hplace.le, hstanding.cluster htype⟩
    apply (ends_readLocate hsound hcoherent hchain htype hplace).imp
    · rintro block after ⟨hlocated, hkept, hhandle⟩
      exact ⟨hlocated.trans hblock.symm, hkept, _, hhandle, fun _ => rfl⟩
    · exact fun _ hfailed => hfailed

/-- One byte is read of the entry, and its block stays in the cache. -/
theorem ends_read_dir (hsound : layout.Sound) (hcoherent : Coherent layout volume)
    (hdirectory : Directory layout (volume.fat layout) chain dir count)
    (hstanding : Standing layout chain dir slot) (hslot : slot < count) :
    Ends (read io layout 1) (volume, dir)
      (fun bytes after => bytes.length = 1 ∧
        Loaded layout (slotBlock layout chain dir.type slot) volume after.1 ∧
        ∃ cluster, after.2 = advance 1 (setCluster cluster dir) ∧
          (dir.type ≠ .root16 →
            cluster = chain.getD (dir.curPosition.toNat / layout.clusterBytes) 0))
      (fun after => Kept layout volume after.1 ∧ Broken io ∧ dir.Turned after.2) := by
  have hsize := hdirectory.size
  have hposition := hstanding.position
  have hmul : dirEntrySize * slot < dirEntrySize * count :=
    Nat.mul_lt_mul_of_pos_left hslot (by decide)
  have hleft : (dir.fileSize - dir.curPosition).toNat =
      dir.fileSize.toNat - dir.curPosition.toNat :=
    UInt32.toNat_sub_of_le _ _ (UInt32.le_iff_toNat_le.mpr (by omega))
  have hone : min (1 : UInt16).toNat (dir.fileSize - dir.curPosition).toNat = 1 := by
    have hvalue : (1 : UInt16).toNat = 1 := rfl
    omega
  have hopen : ¬ (dir.type = .closed ∨ dir.flags &&& oRead = 0) := by
    rw [hdirectory.flags]
    rintro (hclosed | hnone)
    · have hdir := hdirectory.isDir
      rw [isDir, hclosed] at hdir
      cases hdir
    · cases hnone
  have hunbuffered : decide (dir.flags &&& fFileUnbufferedRead ≠ 0) = false := by
    rw [hdirectory.flags]
    rfl
  have hpart : min 1 (512 - dir.blockOffset) = 1 := by
    have := blockOffset_lt dir
    omega
  rw [read, ends_bind, ends_getFile, if_neg hopen, hone, readLoop, if_neg (by decide),
    ends_bind, ends_getFile]
  dsimp only
  apply (ends_readLocate_dir hsound hcoherent hdirectory hstanding hslot).bind
  · rintro block ⟨located, file⟩ ⟨rfl, hlocated, cluster, hhandle, hcluster⟩
    dsimp only at hlocated hhandle ⊢
    have hplain := hdirectory.plain hsound hslot
    rw [hpart, hunbuffered, ends_bind, ends_onVolume]
    apply (ends_readPart_cached hsound hlocated.coherent hplain.1 (by decide)).imp
    · rintro bytes loaded ⟨hlength, hloaded⟩
      rw [ends_bind, ends_modifyFile, readLoop, if_pos rfl, ends_bind, ends_pure,
        ends_pure, List.append_nil]
      refine ⟨hlength, ⟨⟨hloaded.coherent, hlocated.same.trans hloaded.same⟩,
        hloaded.number, ?_⟩, cluster, congrArg (advance 1) hhandle, hcluster⟩
      rw [hloaded.buffer, hlocated.same.memory _ hplain.1]
    · rintro after ⟨hkept, hbroken⟩
      refine ⟨hlocated.trans hkept, hbroken, ?_⟩
      rw [hhandle]
      rfl
  · rintro after ⟨hkept, hbroken, hhandle⟩
    refine ⟨hkept, hbroken, ?_⟩
    rw [hhandle]
    rfl

/-- The next entry of a directory is read into the cache. -/
theorem ends_readDirCache (hsound : layout.Sound) (hcoherent : Coherent layout volume)
    (hdirectory : Directory layout (volume.fat layout) chain dir count)
    (hstanding : Standing layout chain dir slot) (hslot : slot < count) :
    Ends (readDirCache io layout) (volume, dir)
      (fun index after => index = slotIndex slot ∧
        Loaded layout (slotBlock layout chain dir.type slot) volume after.1 ∧
        Standing layout chain after.2 (slot + 1) ∧ dir.Turned after.2)
      (fun after => Kept layout volume after.1 ∧ Broken io ∧ dir.Turned after.2) := by
  have hposition := hstanding.position
  have hsize := hdirectory.size
  have hlt := dir.fileSize.toNat_lt
  have hnext : dirEntrySize * (slot + 1) ≤ dirEntrySize * count :=
    Nat.mul_le_mul_left _ hslot
  unfold dirEntrySize at hposition hsize hnext
  have hindex : ((dir.curPosition >>> 5) &&& 0xF).toUInt8 = slotIndex slot := by
    have hfive : (5 : UInt32).toNat % 32 = 5 := rfl
    have hmask : (0xF : UInt32).toNat = 2 ^ 4 - 1 := rfl
    apply UInt8.toNat_inj.mp
    rw [toNat_slotIndex, UInt32.toNat_toUInt8, UInt32.toNat_and, hmask,
      Nat.and_two_pow_sub_one_eq_mod, UInt32.toNat_shiftRight, hfive,
      Nat.shiftRight_eq_div_pow, hposition]
    unfold slotsPerBlock
    omega
  rw [readDirCache, ends_bind, ends_getFile, hdirectory.isDir, if_neg (by decide)]
  apply (ends_read_dir hsound hcoherent hdirectory hstanding hslot).bind
  · rintro bytes ⟨loaded, file⟩ ⟨hlength, hloaded, cluster, hhandle, hcluster⟩
    dsimp only at hloaded hhandle ⊢
    have hsome : ¬ bytes = [] := by
      rintro rfl
      cases hlength
    have hnat : (dir.curPosition + UInt32.ofNat 1 + UInt32.ofNat 31).toNat =
        32 * (slot + 1) := by
      have hone : (UInt32.ofNat 1).toNat = 1 := rfl
      have hmore : (UInt32.ofNat 31).toNat = 31 := rfl
      rw [UInt32.toNat_add, UInt32.toNat_add, hone, hmore, hposition]
      omega
    rw [if_neg hsome, ends_bind, ends_modifyFile, ends_pure, hhandle]
    refine ⟨hindex, hloaded, ⟨hnat, fun htype => ?_⟩, rfl⟩
    have hpast : ¬ dir.curPosition + UInt32.ofNat 1 + UInt32.ofNat 31 = 0 := by
      intro hzero
      rw [hzero, UInt32.toNat_zero] at hnat
      omega
    have hsame : (32 * (slot + 1) - 1) / layout.clusterBytes =
        dir.curPosition.toNat / layout.clusterBytes := by
      rw [Layout.div_clusterBytes, Layout.div_clusterBytes, hposition]
      congr 1
      omega
    refine (hcluster htype).trans (Eq.symm ((if_neg hpast).trans ?_))
    change chain.getD (((dir.curPosition + UInt32.ofNat 1 + UInt32.ofNat 31).toNat - 1) /
      layout.clusterBytes) 0 = _
    rw [hnat, hsame]
  · exact fun _ hfailed => hfailed

end FatFile

/-! The names of a directory, and the flat search for one of them. -/

def entriesOf (names : List Name) : List DirEntry := names.map DirEntry.create

/-- What a name says of the later ones: a free slot is followed by free ones, and no
file by one of the same name. -/
def Before (first later : Name) : Prop :=
  (firstByte first = nameFree → firstByte later = nameFree) ∧
    (first = later → unused first)

def Tidy (names : List Name) : Prop := names.Pairwise Before

section Names

variable {names : List Name} {name dname : Name} {first : Nat}

theorem search_found_listed {empty : Option Nat}
    (hfound : search .ok dname (entriesOf names) first empty = .found slot) :
    names[slot - first]? = some dname := by
  obtain ⟨-, entry, hentry, hname, -⟩ := search_found hfound
  rw [entriesOf, List.getElem?_map] at hentry
  obtain ⟨listed, hlisted, rfl⟩ := Option.map_eq_some_iff.mp hentry
  rw [hlisted, ← hname]
  rfl

/-- In a tidy directory a name that is not found is not there. -/
theorem Tidy.search_absent (htidy : Tidy names) (hused : ¬ unused dname)
    {empty result : Option Nat}
    (habsent : search .ok dname (entriesOf names) first empty = .absent result) :
    dname ∉ names := by
  induction names generalizing first empty with
  | nil => exact List.not_mem_nil
  | cons head rest ih =>
      obtain ⟨hhead, hrest⟩ := List.pairwise_cons.mp htidy
      rw [entriesOf, List.map_cons, search_ok_cons, DirEntry.name_create] at habsent
      rw [List.mem_cons, not_or]
      by_cases hfree : firstByte head = nameFree
      · refine ⟨?_, fun hin => hused (.inl ((hhead dname hin).1 hfree))⟩
        rintro rfl
        exact hused (.inl hfree)
      · rw [if_neg hfree] at habsent
        by_cases hdeleted : firstByte head = nameDeleted
        · rw [if_pos hdeleted] at habsent
          refine ⟨?_, ih hrest habsent⟩
          rintro rfl
          exact hused (.inr hdeleted)
        · rw [if_neg hdeleted] at habsent
          by_cases hsame : dname = head
          · rw [if_pos hsame] at habsent
            cases habsent
          · rw [if_neg hsame] at habsent
            exact ⟨hsame, ih hrest habsent⟩

theorem Tidy.unique (htidy : Tidy names) (hused : ¬ unused name) {other : Nat}
    (hslot : names[slot]? = some name) (hother : names[other]? = some name) :
    slot = other := by
  obtain ⟨hlt, hname⟩ := List.getElem?_eq_some_iff.mp hslot
  obtain ⟨hlt', hname'⟩ := List.getElem?_eq_some_iff.mp hother
  have hpairs := List.pairwise_iff_getElem.mp htidy
  rcases Nat.lt_trichotomy slot other with hless | hsame | hless
  · have hbefore := hpairs slot other hlt hlt' hless
    rw [hname, hname'] at hbefore
    exact absurd (hbefore.2 rfl) hused
  · exact hsame
  · have hbefore := hpairs other slot hlt' hlt hless
    rw [hname, hname'] at hbefore
    exact absurd (hbefore.2 rfl) hused

/-- In a tidy directory the search finds a name where it is. -/
theorem Tidy.search_listed (htidy : Tidy names) (hused : ¬ unused dname)
    (hlisted : names[slot]? = some dname) :
    search .ok dname (entriesOf names) 0 none = .found slot := by
  rcases search_ok_cases dname (entriesOf names) with ⟨index, hfound⟩ | ⟨empty, habsent⟩
  · have hother := search_found_listed hfound
    rw [Nat.sub_zero] at hother
    rw [hfound, htidy.unique hused hother hlisted]
  · exact absurd (List.mem_of_getElem? hlisted) (htidy.search_absent hused habsent)

theorem search_missing (hmissing : dname ∉ names) :
    ∃ empty, search .ok dname (entriesOf names) 0 none = .absent empty := by
  rcases search_ok_cases dname (entriesOf names) with ⟨index, hfound⟩ | habsent
  · exact absurd (List.mem_of_getElem? (search_found_listed hfound)) hmissing
  · exact habsent

/-- The slot that a search remembers is the first one that is not in use. -/
theorem search_empty
    (habsent : search .ok dname (entriesOf names) first none = .absent (some slot)) :
    first ≤ slot ∧ (∃ name, names[slot - first]? = some name ∧ unused name) ∧
      ∀ other < slot - first, ∀ name, names[other]? = some name → ¬ unused name := by
  induction names generalizing first with
  | nil => cases habsent
  | cons head rest ih =>
      rw [entriesOf, List.map_cons, search_ok_cons, DirEntry.name_create] at habsent
      have hhere : unused head → first = slot → first ≤ slot ∧
          (∃ name, (head :: rest)[slot - first]? = some name ∧ unused name) ∧
          ∀ other < slot - first, ∀ name, (head :: rest)[other]? = some name →
            ¬ unused name := by
        rintro hunused rfl
        rw [Nat.sub_self]
        exact ⟨le_refl first, ⟨head, rfl, hunused⟩,
          fun other hother => absurd hother (Nat.not_lt_zero other)⟩
      by_cases hfree : firstByte head = nameFree
      · rw [if_pos hfree] at habsent
        cases habsent
        exact hhere (.inl hfree) rfl
      · rw [if_neg hfree] at habsent
        by_cases hdeleted : firstByte head = nameDeleted
        · rw [if_pos hdeleted] at habsent
          exact hhere (.inr hdeleted) (Option.some.inj (search_absent_some habsent)).symm
        · rw [if_neg hdeleted] at habsent
          split at habsent
          · cases habsent
          · obtain ⟨hle, ⟨name, hname, hunused⟩, hbefore⟩ := ih habsent
            have hindex : slot - first = slot - (first + 1) + 1 := by omega
            refine ⟨by omega, ⟨name, ?_, hunused⟩, ?_⟩
            · rw [hindex, List.getElem?_cons_succ]
              exact hname
            · intro other hother listed hlisted
              cases other with
              | zero =>
                  cases hlisted
                  rintro (h | h)
                  · exact hfree h
                  · exact hdeleted h
              | succ other =>
                  rw [List.getElem?_cons_succ] at hlisted
                  exact hbefore other (by omega) listed hlisted

/-- A directory stays tidy where a slot is given a name that goes with the others. -/
theorem Tidy.set (htidy : Tidy names)
    (hbefore : ∀ other < slot, ∀ listed, names[other]? = some listed → Before listed name)
    (hafter : ∀ other > slot, ∀ listed, names[other]? = some listed → Before name listed) :
    Tidy (names.set slot name) := by
  refine List.pairwise_iff_getElem.mpr fun i j hi hj hlt => ?_
  rw [List.length_set] at hi hj
  rw [List.getElem_set, List.getElem_set]
  by_cases hfirst : slot = i
  · subst hfirst
    rw [if_pos rfl, if_neg (by omega)]
    exact hafter j hlt _ (List.getElem?_eq_getElem hj)
  · rw [if_neg hfirst]
    by_cases hsecond : slot = j
    · subst hsecond
      rw [if_pos rfl]
      exact hbefore i hlt _ (List.getElem?_eq_getElem hi)
    · rw [if_neg hsecond]
      exact List.pairwise_iff_getElem.mp htidy i j hi hj hlt

/-- A new name in the slot that the search for it has remembered. -/
theorem Tidy.created (htidy : Tidy names) (hused : ¬ unused dname)
    (habsent : search .ok dname (entriesOf names) 0 none = .absent (some slot)) :
    Tidy (names.set slot dname) := by
  have hmissing := htidy.search_absent hused habsent
  obtain ⟨-, -, hbefore⟩ := search_empty habsent
  apply htidy.set
  · intro other hother listed hlisted
    refine ⟨fun hfree => absurd (.inl hfree) (hbefore other hother listed hlisted), ?_⟩
    rintro rfl
    exact absurd (List.mem_of_getElem? hlisted) hmissing
  · intro other hother listed hlisted
    refine ⟨fun hfree => absurd (.inl hfree) hused, ?_⟩
    rintro rfl
    exact absurd (List.mem_of_getElem? hlisted) hmissing

theorem Tidy.deleted (htidy : Tidy names) {removed : Name}
    (hlisted : names[slot]? = some name) (hused : ¬ unused name)
    (hdeleted : firstByte removed = nameDeleted) : Tidy (names.set slot removed) := by
  obtain ⟨hslot, hname⟩ := List.getElem?_eq_some_iff.mp hlisted
  apply htidy.set
  · intro other hother listed hother'
    obtain ⟨hlt, rfl⟩ := List.getElem?_eq_some_iff.mp hother'
    have hbefore := List.pairwise_iff_getElem.mp htidy other slot hlt hslot hother
    rw [hname] at hbefore
    refine ⟨fun hfree => absurd (.inl (hbefore.1 hfree)) hused, ?_⟩
    intro hsame
    exact .inr (hsame ▸ hdeleted)
  · intro other hother listed hother'
    refine ⟨fun hfree => ?_, fun _ => .inr hdeleted⟩
    rw [hdeleted] at hfree
    cases hfree

theorem Tidy.extended (htidy : Tidy names) (hused : ∀ name ∈ names, ¬ unused name)
    (hfree : firstByte name = nameFree) (more : Nat) :
    Tidy (names ++ List.replicate more name) := by
  refine List.pairwise_append.mpr ⟨htidy, ?_, ?_⟩
  · exact List.pairwise_replicate.mpr (.inr ⟨fun _ => hfree, fun _ => .inl hfree⟩)
  · intro listed hlisted other hother
    obtain ⟨-, rfl⟩ := List.mem_replicate.mp hother
    refine ⟨fun hfree' => absurd (.inl hfree') (hused listed hlisted), ?_⟩
    rintro rfl
    exact .inl hfree

end Names

/-! The search on the clusters. -/

def nameAt (layout : Layout) (chain : List UInt32) (type : FileType) (volume : SdVolume)
    (slot : Nat) : Name :=
  slotName (volume.memory (slotBlock layout chain type slot)) (slotIndex slot)

def namesOf (layout : Layout) (chain : List UInt32) (type : FileType) (volume : SdVolume)
    (count : Nat) : List Name :=
  (List.range count).map (nameAt layout chain type volume)

@[simp] theorem length_namesOf {type : FileType} :
    (namesOf layout chain type volume count).length = count := by
  rw [namesOf, List.length_map, List.length_range]

theorem getElem?_namesOf {type : FileType} (hslot : slot < count) :
    (namesOf layout chain type volume count)[slot]? =
      some (nameAt layout chain type volume slot) := by
  rw [namesOf, List.getElem?_map, List.getElem?_range hslot, Option.map_some]

theorem drop_namesOf {type : FileType} (hslot : slot < count) :
    (namesOf layout chain type volume count).drop slot =
      nameAt layout chain type volume slot ::
        (namesOf layout chain type volume count).drop (slot + 1) := by
  have hlength : slot < (namesOf layout chain type volume count).length := by
    rwa [length_namesOf]
  rw [List.drop_eq_getElem_cons hlength]
  congr 1
  exact (List.getElem_eq_iff _).mpr (getElem?_namesOf hslot)

theorem namesOf_congr {type : FileType}
    (hsame : ∀ slot < count, ∀ place < 11,
      after.memory (slotBlock layout chain type slot)
          (dirEntrySize * (slotIndex slot).toNat + place) =
        volume.memory (slotBlock layout chain type slot)
          (dirEntrySize * (slotIndex slot).toNat + place)) :
    namesOf layout chain type after count = namesOf layout chain type volume count := by
  apply List.map_congr_left
  intro slot hslot
  rw [nameAt, nameAt, slotName, slotName]
  congr 1
  funext place
  exact hsame slot (List.mem_range.mp hslot) place place.isLt

theorem SdVolume.Kept.namesOf (hsound : layout.Sound) (hkept : Kept layout volume after)
    (hdirectory : Directory layout table chain dir count) :
    namesOf layout chain dir.type after count =
      SD.namesOf layout chain dir.type volume count := by
  apply namesOf_congr
  intro slot hslot place _
  rw [hkept.same.memory _ (hdirectory.plain hsound hslot).1]

def remembered (layout : Layout) (chain : List UInt32) (type : FileType)
    (empty : Option Nat) (file : FatFile) : FatFile :=
  match empty with
  | none => file
  | some slot =>
      { file with
        dirIndex := slotIndex slot
        dirBlock := slotBlock layout chain type slot }

theorem rememberSlot_eq {type : FileType} (empty : Option Nat) :
    FatFile.rememberSlot empty.isSome (slotBlock layout chain type slot) (slotIndex slot)
        (remembered layout chain type empty file) =
      remembered layout chain type (empty <|> some slot) file := by
  cases empty <;> rfl

@[simp] theorem remembered_type {type : FileType} (empty : Option Nat) :
    (remembered layout chain type empty file).type = file.type := by
  cases empty <;> rfl

/-- The search has ended as the flat one does: at an entry, which is in the cache then,
or at none. -/
def Searched (layout : Layout) (chain : List UInt32) (type : FileType) (count : Nat)
    (volume : SdVolume) (file : FatFile) (found : FatFile.DirSlot)
    (after : FatFile.Opening) : Search → Prop
  | .failed => False
  | .found slot => slot < count ∧ found = .found (slotIndex slot) ∧
      after.1.cacheBlockNumber = slotBlock layout chain type slot ∧
      after.1.cacheBuffer = volume.memory (slotBlock layout chain type slot)
  | .absent empty => found = .absent empty.isSome ∧
      after.2.2 = remembered layout chain type empty file ∧
      (empty = none → Standing layout chain after.2.1 count)

section Opening

variable {Value : Type} {opening : FatFile.Opening} {failed : FatFile.Opening → Prop}

theorem ends_onDirFile {program : Failing FatFile.Opened Value}
    {returned : Value → FatFile.Opening → Prop} :
    Ends (FatFile.onDirFile program) opening returned failed ↔
      Ends program (opening.1, opening.2.1)
        (fun value opened => returned value (opened.1, opened.2, opening.2.2))
        (fun opened => failed (opened.1, opened.2, opening.2.2)) := ends_onPart

theorem ends_onFile {program : Failing FatFile.Opened Value}
    {returned : Value → FatFile.Opening → Prop} :
    Ends (FatFile.onFile program) opening returned failed ↔
      Ends program (opening.1, opening.2.2)
        (fun value opened => returned value (opened.1, opening.2.1, opened.2))
        (fun opened => failed (opened.1, opening.2.1, opened.2)) := ends_onPart

end Opening

theorem Searched.kept (hsound : layout.Sound) {loaded : SdVolume}
    (hkept : Kept layout volume loaded)
    (hdirectory : Directory layout table chain dir count) {found : FatFile.DirSlot}
    {after : FatFile.Opening} {result : Search}
    (hsearched : Searched layout chain dir.type count loaded file found after result) :
    Searched layout chain dir.type count volume file found after result := by
  cases result with
  | failed => exact hsearched
  | absent empty => exact hsearched
  | found slot =>
      obtain ⟨hslot, hfound, hcached, hbuffer⟩ := hsearched
      rw [hkept.same.memory _ (hdirectory.plain hsound hslot).1] at hbuffer
      exact ⟨hslot, hfound, hcached, hbuffer⟩

theorem searched_end (hstanding : Standing layout chain dir count) (dname : Name)
    (empty : Option Nat) :
    Searched layout chain dir.type count volume file (.absent empty.isSome)
      (volume, dir, remembered layout chain dir.type empty file)
      (search .ok dname
        (entriesOf ((namesOf layout chain dir.type volume count).drop count)) count
        empty) := by
  rw [List.drop_of_length_le length_namesOf.le]
  exact ⟨rfl, rfl, fun _ => hstanding⟩

namespace FatFile

theorem ends_searchLoop (hsound : layout.Sound) (hcoherent : Coherent layout volume)
    (hdirectory : Directory layout (volume.fat layout) chain dir count)
    (hstanding : Standing layout chain dir slot) (hslot : slot ≤ count) (dname : Name)
    {left : Nat} (hleft : count ≤ slot + left) (empty : Option Nat) (file : FatFile) :
    Ends (searchLoop io layout dname left empty.isSome)
      (volume, dir, remembered layout chain dir.type empty file)
      (fun found after => Kept layout volume after.1 ∧ dir.Turned after.2.1 ∧
        after.2.2.type = file.type ∧
        Searched layout chain dir.type count volume file found after
          (search .ok dname
            (entriesOf ((namesOf layout chain dir.type volume count).drop slot)) slot
            empty))
      (fun after => Kept layout volume after.1 ∧ dir.Turned after.2.1 ∧
        after.2.2.type = file.type ∧ Broken io) := by
  induction left generalizing volume dir slot empty with
  | zero =>
      obtain rfl : slot = count := by omega
      rw [searchLoop, ends_pure]
      exact ⟨⟨hcoherent, .refl volume⟩, rfl, remembered_type empty,
        searched_end hstanding dname empty⟩
  | succ left ih =>
      have hmore : dir.curPosition < dir.fileSize ↔ slot < count := by
        rw [UInt32.lt_iff_toNat_lt, hstanding.position, hdirectory.size]
        exact Nat.mul_lt_mul_left (by decide)
      rw [searchLoop, ends_bind, ends_get]
      by_cases hend : slot = count
      · subst hend
        rw [if_neg (mt hmore.mp (Nat.lt_irrefl slot)), ends_pure]
        exact ⟨⟨hcoherent, .refl volume⟩, rfl, remembered_type empty,
          searched_end hstanding dname empty⟩
      · have hlt : slot < count := by omega
        rw [if_pos (hmore.mpr hlt), ends_bind, ends_onDirFile]
        apply (ends_readDirCache hsound hcoherent hdirectory hstanding hlt).imp
        · rintro index ⟨loaded, dir'⟩ ⟨rfl, hloaded, hstanding', hturned⟩
          dsimp only at hloaded hstanding' hturned ⊢
          have hkept := hloaded.toKept
          have hname : slotName loaded.cacheBuffer (slotIndex slot) =
              nameAt layout chain dir.type volume slot := by
            rw [hloaded.buffer]
            rfl
          have hdirectory' : Directory layout (loaded.fat layout) chain dir' count := by
            rw [hkept.same.fat hsound]
            exact hdirectory.turned hturned
          have hnext : ∀ seen : Option Nat,
              Ends (searchLoop io layout dname left seen.isSome)
                (loaded, dir', remembered layout chain dir.type seen file)
                (fun found after => Kept layout volume after.1 ∧ dir.Turned after.2.1 ∧
                  after.2.2.type = file.type ∧
                  Searched layout chain dir.type count volume file found after
                    (search .ok dname (entriesOf ((namesOf layout chain dir.type volume
                      count).drop (slot + 1))) (slot + 1) seen))
                (fun after => Kept layout volume after.1 ∧ dir.Turned after.2.1 ∧
                  after.2.2.type = file.type ∧ Broken io) := by
            intro seen
            have hrest := ih hkept.coherent hdirectory' hstanding' hlt (by omega) seen
            rw [hturned.type, hkept.namesOf hsound hdirectory] at hrest
            apply hrest.imp
            · rintro found after ⟨hafter, hturned', htype, hsearched⟩
              exact ⟨hkept.trans hafter, hturned.trans hturned', htype,
                hsearched.kept hsound hkept hdirectory⟩
            · rintro after ⟨hafter, hturned', hrest⟩
              exact ⟨hkept.trans hafter, hturned.trans hturned', hrest⟩
          rw [ends_bind, ends_get]
          dsimp only
          rw [hname, hloaded.number, drop_namesOf hlt, entriesOf, List.map_cons,
            search_ok_cons, DirEntry.name_create, ← entriesOf]
          have hseen : (empty <|> some slot).isSome = true := by cases empty <;> rfl
          have hremember := hnext (empty <|> some slot)
          rw [hseen] at hremember
          by_cases hfree : firstByte (nameAt layout chain dir.type volume slot) = nameFree
          · rw [if_pos hfree, if_pos hfree, ends_bind, ends_onFile, ends_modifyFile,
              ends_pure, rememberSlot_eq]
            refine ⟨hkept, hturned, remembered_type (empty <|> some slot),
              congrArg DirSlot.absent hseen.symm, rfl, ?_⟩
            intro hnone
            rw [hnone] at hseen
            cases hseen
          · rw [if_neg hfree, if_neg hfree]
            by_cases hdeleted :
                firstByte (nameAt layout chain dir.type volume slot) = nameDeleted
            · rw [if_pos hdeleted, if_pos hdeleted, ends_bind, ends_onFile,
                ends_modifyFile, rememberSlot_eq]
              exact hremember
            · rw [if_neg hdeleted, if_neg hdeleted]
              by_cases hsame : dname = nameAt layout chain dir.type volume slot
              · rw [if_pos hsame, if_pos hsame, ends_pure]
                exact ⟨hkept, hturned, remembered_type empty, hlt, rfl, hloaded.number,
                  hloaded.buffer⟩
              · rw [if_neg hsame, if_neg hsame]
                exact hnext empty
        · rintro after ⟨hkept, hbroken, hturned⟩
          exact ⟨hkept, hturned, remembered_type empty, hbroken⟩

end FatFile

end SenseBox.SD
