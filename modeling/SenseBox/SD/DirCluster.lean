import SenseBox.SD.OpenEntry

namespace SenseBox.SD

open SenseBox.Data
open SdVolume

/-! A directory that is given one more cluster. -/

variable {layout : Layout} {io : Accesses} {table : UInt32 → UInt32}
  {chain extent : List UInt32} {dir : FatFile} {count slot : Nat}
  {volume after : SdVolume} {cluster : UInt32}

structure SdVolume.InsideOf (layout : Layout) (cluster : UInt32)
    (before after : SdVolume) : Prop where
  coherent : Coherent layout after
  memory : ∀ block, layout.Logical block → ¬ layout.InCluster cluster block →
    after.memory block = before.memory block
  fat : after.fat layout = before.fat layout
  allocSearchStart : after.allocSearchStart = before.allocSearchStart

theorem SdVolume.InsideOf.trans {first second third : SdVolume}
    (hfirst : InsideOf layout cluster first second)
    (hsecond : InsideOf layout cluster second third) : InsideOf layout cluster first third where
  coherent := hsecond.coherent
  memory block hlogical hout :=
    (hsecond.memory block hlogical hout).trans (hfirst.memory block hlogical hout)
  fat := hsecond.fat.trans hfirst.fat
  allocSearchStart := hsecond.allocSearchStart.trans hfirst.allocSearchStart

theorem SdVolume.Kept.insideOf (hsound : layout.Sound) (hkept : Kept layout volume after) :
    InsideOf layout cluster volume after where
  coherent := hkept.coherent
  memory block hlogical _ := hkept.same.memory block hlogical
  fat := hkept.same.fat hsound
  allocSearchStart := hkept.same.allocSearchStart

theorem SdVolume.Stored.insideOf (hsound : layout.Sound) {block : UInt32} {data : Block}
    (hstored : Stored layout block data volume after) (hcluster : layout.Cluster cluster)
    (hblock : layout.InCluster cluster block) : InsideOf layout cluster volume after where
  coherent := hstored.coherent
  memory other hlogical hout := by
    rw [hstored.memory other hlogical, Function.update_of_ne]
    rintro rfl
    exact hout hblock
  fat := hstored.fat hsound (hsound.plain_block hcluster hblock)
  allocSearchStart := hstored.allocSearchStart

/-- The blocks of a cluster are zeroed down to its first one, which the cache holds
then. -/
theorem ends_zeroBlocks (hsound : layout.Sound) (hcoherent : Coherent layout volume)
    (hcluster : layout.Cluster cluster) {left : Nat}
    (hleft : left ≤ 2 ^ layout.clusterSizeShift.toNat) :
    Ends (zeroBlocks io (layout.clusterStartBlock cluster) left) volume
      (fun _ after => InsideOf layout cluster volume after ∧
        (∀ index < left, after.memory
          (layout.clusterStartBlock cluster + UInt32.ofNat index) = fun _ => 0) ∧
        (∀ index, left ≤ index → index < 2 ^ layout.clusterSizeShift.toNat →
          after.memory (layout.clusterStartBlock cluster + UInt32.ofNat index) =
            volume.memory (layout.clusterStartBlock cluster + UInt32.ofNat index)) ∧
        (left = 0 → after = volume) ∧
        (0 < left → after.cacheBlockNumber = layout.clusterStartBlock cluster +
          UInt32.ofNat 0 ∧ after.cacheDirty = true))
      (fun after => InsideOf layout cluster volume after ∧ Broken io) := by
  induction left generalizing volume with
  | zero =>
      rw [zeroBlocks, ends_pure]
      have hkept : Kept layout volume volume := ⟨hcoherent, .refl volume⟩
      exact ⟨hkept.insideOf hsound, fun _ hindex => absurd hindex (Nat.not_lt_zero _),
        fun _ _ _ => rfl, fun _ => rfl, fun hnone => absurd hnone (Nat.lt_irrefl 0)⟩
  | succ left ih =>
      have hin : layout.InCluster cluster
          (layout.clusterStartBlock cluster + UInt32.ofNat left) := ⟨left, hleft, rfl⟩
      have hplain := hsound.plain_block hcluster hin
      apply (ends_cacheZeroBlock hsound hcoherent hplain).bind
      · rintro - first ⟨hstored, hnumber, hdirty⟩
        have hfirst := hstored.insideOf hsound hcluster hin
        have hmemory : ∀ index, index < 2 ^ layout.clusterSizeShift.toNat →
            first.memory (layout.clusterStartBlock cluster + UInt32.ofNat index) =
              if index = left then fun _ => 0
              else volume.memory
                (layout.clusterStartBlock cluster + UInt32.ofNat index) := by
          intro index hindex
          have hlogical := (hsound.plain_block hcluster ⟨index, hindex, rfl⟩).1
          rw [hstored.memory _ hlogical]
          split
          · next hsame => rw [hsame, Function.update_self]
          · next hdiffer =>
            apply Function.update_of_ne
            intro hsame
            exact hdiffer
              (hsound.block_inj hcluster hcluster hindex (by omega) hsame).2
        apply (ih hstored.coherent (by omega)).imp
        · rintro - after ⟨hinside, hzeroed, hrest, hnone, hcached⟩
          refine ⟨hfirst.trans hinside, ?_, ?_, nofun, fun _ => ?_⟩
          · intro index hindex
            by_cases hsame : index = left
            · rw [hrest index (by omega) (by omega), hmemory index (by omega), if_pos hsame]
            · exact hzeroed index (by omega)
          · intro index hfrom hto
            rw [hrest index (by omega) hto, hmemory index hto, if_neg (by omega)]
          · cases left with
            | zero =>
                rw [hnone rfl]
                exact ⟨hnumber, hdirty⟩
            | succ left => exact hcached (Nat.succ_pos left)
        · rintro after ⟨hinside, hbroken⟩
          exact ⟨hfirst.trans hinside, hbroken⟩
      · rintro after ⟨hkept, hbroken⟩
        exact ⟨hkept.insideOf hsound, hbroken⟩

/-- The clusters of a directory in use, and one more. -/
def grownExtent (extent : List UInt32) (filled : Nat) (cluster : UInt32) : List UInt32 :=
  extent.take filled ++ [cluster]

section Extent

variable {filled : Nat}

theorem grownExtent_getD (hfilled : filled ≤ extent.length) {index : Nat}
    (hindex : index < filled) :
    (grownExtent extent filled cluster).getD index 0 = extent.getD index 0 := by
  have hlength : index < (extent.take filled).length := by
    rw [List.length_take]
    omega
  rw [grownExtent, List.getD_append _ _ _ _ hlength,
    List.getD_eq_getElem _ _ hlength, List.getElem_take,
    List.getD_eq_getElem _ _ (by omega)]

theorem length_grownExtent (hfilled : filled ≤ extent.length) :
    (grownExtent extent filled cluster).length = filled + 1 := by
  rw [grownExtent, List.length_append, List.length_take, List.length_singleton,
    Nat.min_eq_left hfilled]

theorem grownExtent_last (hfilled : filled ≤ extent.length) :
    (grownExtent extent filled cluster).getD filled 0 = cluster := by
  have hlength : (extent.take filled).length = filled := by
    rw [List.length_take, Nat.min_eq_left hfilled]
  rw [grownExtent, List.getD_append_right _ _ _ _ hlength.le, hlength, Nat.sub_self]
  rfl

end Extent

namespace Directory

variable {filled : Nat}

theorem slotBlock_grown (hwhole : dirEntrySize * count = filled * layout.clusterBytes)
    (hfilled : filled ≤ extent.length) (hslot : slot < count) {type : FileType}
    (htype : type ≠ .root16) :
    slotBlock layout (grownExtent extent filled cluster) type slot =
      slotBlock layout extent type slot := by
  have hindex : dirEntrySize * slot / layout.clusterBytes < filled := by
    apply Nat.div_lt_of_lt_mul
    rw [Nat.mul_comm layout.clusterBytes, ← hwhole]
    exact Nat.mul_lt_mul_of_pos_left hslot (by decide)
  rw [slotBlock, slotBlock, if_neg htype, if_neg htype, Layout.blockAt, Layout.blockAt,
    grownExtent_getD hfilled hindex]

theorem slotBlock_new (hwhole : dirEntrySize * count = filled * layout.clusterBytes)
    (hfilled : filled ≤ extent.length) {offset : Nat}
    (hoffset : offset < slotsPerBlock * 2 ^ layout.clusterSizeShift.toNat) {type : FileType}
    (htype : type ≠ .root16) :
    slotBlock layout (grownExtent extent filled cluster) type (count + offset) =
        layout.clusterStartBlock cluster + UInt32.ofNat (offset / slotsPerBlock) ∧
      offset / slotsPerBlock < 2 ^ layout.clusterSizeShift.toNat ∧
      slotIndex (count + offset) = slotIndex offset := by
  have hpos := Nat.two_pow_pos layout.clusterSizeShift.toNat
  have hbytes : layout.clusterBytes = 512 * 2 ^ layout.clusterSizeShift.toNat := rfl
  have hcount : count = slotsPerBlock * (filled * 2 ^ layout.clusterSizeShift.toNat) := by
    rw [hbytes, Nat.mul_left_comm] at hwhole
    unfold dirEntrySize at hwhole
    unfold slotsPerBlock
    omega
  have hplace : dirEntrySize * (count + offset) / 512 =
      filled * 2 ^ layout.clusterSizeShift.toNat + offset / slotsPerBlock := by
    rw [hcount]
    unfold dirEntrySize slotsPerBlock
    omega
  have hlt : offset / slotsPerBlock < 2 ^ layout.clusterSizeShift.toNat :=
    Nat.div_lt_of_lt_mul hoffset
  refine ⟨?_, hlt, ?_⟩
  · rw [slotBlock, if_neg htype, Layout.blockAt, Layout.div_clusterBytes, hplace,
      Nat.mul_comm, Nat.mul_add_div hpos, Nat.div_eq_of_lt hlt, Nat.add_zero,
      grownExtent_last hfilled, Nat.mul_add_mod, Nat.mod_eq_of_lt hlt]
  · rw [slotIndex, slotIndex, hcount, Nat.mul_add_mod]

end Directory

/-- The name of an entry, and whether it is not to be written to. -/
def marksAt (layout : Layout) (chain : List UInt32) (type : FileType) (volume : SdVolume)
    (slot : Nat) : Name × Bool :=
  (nameAt layout chain type volume slot, lockedAt layout chain type volume slot)

theorem SlotKept.marksAt {type : FileType}
    (hkept : SlotKept layout chain type slot volume after) :
    marksAt layout chain type after slot = marksAt layout chain type volume slot := by
  rw [SD.marksAt, SD.marksAt, hkept.nameAt, hkept.lockedAt]

namespace Disk

variable {flags : Nat → UInt8} {chains : Nat → List UInt32} {state : Handles Nat}
  {views : Views Nat} {filled : Nat} {middle : SdVolume}

theorem grown_memory (hsound : layout.Sound)
    (hdisk : Disk layout flags chains extent count state dir views)
    (hgrown : Grown layout (extent.take filled) cluster state.1 middle)
    (hinside : InsideOf layout cluster middle after) (hslot : slot < count) :
    after.memory (slotBlock layout extent dir.type slot) =
      state.1.memory (slotBlock layout extent dir.type slot) := by
  have hplain := hdisk.directory.plain hsound hslot
  rw [hinside.memory _ hplain.1, hgrown.plain _ hplain]
  intro hin
  have hmem := hdisk.directory.cluster_mem hsound hslot hgrown.data hin
  exact hdisk.directory.chained.used hmem hgrown.free

theorem grown_marks (hsound : layout.Sound)
    (hdisk : Disk layout flags chains extent count state dir views)
    (htype : dir.type ≠ .root16)
    (hwhole : dirEntrySize * count = filled * layout.clusterBytes)
    (hfilled : filled ≤ extent.length)
    (hgrown : Grown layout (extent.take filled) cluster state.1 middle)
    (hinside : InsideOf layout cluster middle after) (hslot : slot < count) :
    marksAt layout (grownExtent extent filled cluster) dir.type after slot =
      marksAt layout extent dir.type state.1 slot := by
  rw [marksAt, marksAt, nameAt, nameAt, lockedAt, lockedAt,
    Directory.slotBlock_grown hwhole hfilled hslot htype,
    hdisk.grown_memory hsound hgrown hinside hslot]

theorem grown (hsound : layout.Sound)
    (hdisk : Disk layout flags chains extent count state dir views)
    (htype : dir.type ≠ .root16)
    (hwhole : dirEntrySize * count = filled * layout.clusterBytes)
    (hfilled : filled ≤ extent.length)
    (hgrown : Grown layout (extent.take filled) cluster state.1 middle)
    (hinside : InsideOf layout cluster middle after) {dir' : FatFile} {count' : Nat}
    (hdirectory : Directory layout (after.fat layout) (grownExtent extent filled cluster)
      dir' count') (htype' : dir'.type = dir.type) (hcount : count ≤ count')
    (htidy : Tidy (namesOf layout (grownExtent extent filled cluster) dir.type after count')) :
    Disk layout flags chains (grownExtent extent filled cluster) count' (after, state.2)
      dir' views := by
  refine ⟨?_, hdirectory, ?_, ?_, ?_⟩
  · have hshared := hdisk.shared
    refine ⟨hinside.coherent, hgrown.startable.of_eq hinside.allocSearchStart, ?_,
      hshared.flags, hshared.disjoint, hshared.entries, hshared.outside⟩
    intro slot view hview
    have hopen : views slot ≠ none := by
      rw [hview]
      exact nofun
    have hshows := hshared.shows hview
    obtain ⟨hslot, -, hhandle⟩ := hdisk.entry hopen
    apply hshows.carried
    · intro other hother
      have hout : other ∉ extent.take filled :=
        fun hin => hdisk.apart hopen hother (List.mem_of_mem_take hin)
      have hnew : other ≠ cluster := by
        rintro rfl
        exact hshows.toChained.used hother hgrown.free
      rw [hinside.fat, hgrown.others other hout hnew]
    · intro other hother hfree
      rw [hinside.fat] at hfree
      have hout : other ∉ extent.take filled ++ [cluster] :=
        fun hin => hgrown.chained.used hin hfree
      rw [List.mem_append, List.mem_singleton, not_or] at hout
      rw [hgrown.others other hout.1 hout.2] at hfree
      exact hshows.apart other hother (.inr hfree)
    · intro place _
      rw [hhandle.dirBlock, hdisk.grown_memory hsound hgrown hinside hslot]
    · intro other hother block hblock
      have hcluster := hshows.clusters other hother
      have hplain := hsound.plain_block hcluster hblock
      rw [hinside.memory block hplain.1, hgrown.plain block hplain]
      rintro ⟨index, hindex, hsame⟩
      obtain ⟨index', hindex', rfl⟩ := hblock
      obtain ⟨rfl, -⟩ := hsound.block_inj hcluster hgrown.data hindex' hindex hsame
      exact hshows.toChained.used hother hgrown.free
  · intro slot hopen other hother hin
    obtain ⟨view, hview⟩ := Option.ne_none_iff_exists'.mp hopen
    rcases List.mem_append.mp hin with hin | hin
    · exact hdisk.apart hopen hother (List.mem_of_mem_take hin)
    · rw [List.mem_singleton.mp hin] at hother
      exact (hdisk.shared.shows hview).toChained.used hother hgrown.free
  · rw [htype']
    exact htidy
  · intro slot hopen
    obtain ⟨hslot, hused, hhandle⟩ := hdisk.entry hopen
    have hname := congrArg Prod.fst
      (hdisk.grown_marks hsound htype hwhole hfilled hgrown hinside hslot)
    dsimp only [marksAt] at hname
    dsimp only
    rw [htype', hname]
    refine ⟨Nat.lt_of_lt_of_le hslot hcount, hused, ?_, hhandle.dirIndex⟩
    rw [Directory.slotBlock_grown hwhole hfilled hslot htype]
    exact hhandle.dirBlock

end Disk

def Layout.slotsPerCluster (layout : Layout) : Nat :=
  slotsPerBlock * 2 ^ layout.clusterSizeShift.toNat

theorem slots_clusterBytes (layout : Layout) :
    dirEntrySize * layout.slotsPerCluster = layout.clusterBytes := by
  unfold dirEntrySize Layout.slotsPerCluster slotsPerBlock Layout.clusterBytes
  omega

theorem Directory.grown
    (hdirectory : Directory layout table extent dir count) (htype : dir.type ≠ .root16)
    {filled : Nat} (hpos : 0 < filled) (hfilled : filled ≤ extent.length)
    {table' : UInt32 → UInt32}
    (hchained : layout.Chained table' (grownExtent extent filled cluster))
    {current size : UInt32} {count' filled' : Nat} (hsize : size.toNat = dirEntrySize * count')
    (hpos' : 0 < filled') (hfilled' : filled' ≤ filled + 1)
    (hwhole' : dirEntrySize * count' = filled' * layout.clusterBytes) :
    Directory layout table' (grownExtent extent filled cluster)
      { dir with curCluster := current, fileSize := size } count' where
  isDir := hdirectory.isDir
  flags := hdirectory.flags
  size := hsize
  apart hroot := absurd hroot htype
  chained := hchained
  first _ := by
    rw [Layout.headD_eq, grownExtent_getD hfilled hpos, ← Layout.headD_eq]
    exact hdirectory.first htype
  whole _ := by
    rw [length_grownExtent hfilled]
    exact ⟨filled', hpos', hfilled', hwhole'⟩

/-- The handle of a directory whose end has been reached stands in its last cluster. -/
theorem Standing.last (hstanding : Standing layout extent dir count)
    (htype : dir.type ≠ .root16) {filled : Nat} (hpos : 0 < filled)
    (hfilled : filled ≤ extent.length)
    (hwhole : dirEntrySize * count = filled * layout.clusterBytes) :
    ∃ init, extent.take filled = init ++ [dir.curCluster] := by
  have hbytes := layout.clusterBytes_pos
  have hposition := hstanding.position
  have hlow := Nat.mul_le_mul_right layout.clusterBytes hpos
  rw [hwhole] at hposition
  have hsome : ¬ dir.curPosition = 0 := by
    intro hzero
    rw [hzero, UInt32.toNat_zero] at hposition
    omega
  have hindex : (dir.curPosition.toNat - 1) / layout.clusterBytes = filled - 1 := by
    obtain ⟨before, rfl⟩ : ∃ before, filled = before + 1 := ⟨filled - 1, by omega⟩
    rw [hposition, Nat.add_mul, Nat.one_mul]
    apply Nat.div_eq_of_lt_le
    · rw [Nat.add_sub_cancel]
      omega
    · rw [Nat.add_sub_cancel, Nat.add_mul, Nat.one_mul]
      omega
  have hlt : filled - 1 < extent.length := by omega
  have hcluster := hstanding.cluster htype
  rw [if_neg hsome, hindex, List.getD_eq_getElem _ _ hlt] at hcluster
  refine ⟨extent.take (filled - 1), ?_⟩
  have hsplit : filled = filled - 1 + 1 := by omega
  rw [hcluster]
  conv => lhs; rw [hsplit]
  rw [List.take_succ_eq_append_getElem hlt]

/-- The names of the old entries, and those of the new ones, which are free. -/
theorem namesOf_grown {filled : Nat}
    (hwhole : dirEntrySize * count = filled * layout.clusterBytes)
    (hfilled : filled ≤ extent.length) {type : FileType} (htype : type ≠ .root16)
    (hmarks : ∀ slot < count,
      marksAt layout (grownExtent extent filled cluster) type after slot =
        marksAt layout extent type volume slot)
    (hzeroed : ∀ index < 2 ^ layout.clusterSizeShift.toNat,
      after.memory (layout.clusterStartBlock cluster + UInt32.ofNat index) = fun _ => 0) :
    namesOf layout (grownExtent extent filled cluster) type after
        (count + layout.slotsPerCluster) =
      namesOf layout extent type volume count ++
        List.replicate layout.slotsPerCluster DirEntry.zero.name := by
  rw [namesOf, namesOf, List.range_add, List.map_append, List.map_map]
  congr 1
  · apply List.map_congr_left
    intro slot hslot
    exact congrArg Prod.fst (hmarks slot (List.mem_range.mp hslot))
  · apply List.ext_getElem
    · rw [List.length_map, List.length_range, List.length_replicate]
    · intro offset hleft _
      rw [List.length_map, List.length_range] at hleft
      obtain ⟨hblock, hindex, -⟩ := @Directory.slotBlock_new layout extent count cluster filled
        hwhole hfilled offset hleft type htype
      rw [List.getElem_map, List.getElem_range, List.getElem_replicate, Function.comp_apply,
        nameAt, hblock, hzeroed _ hindex]
      apply Vector.ext
      intro place hplace
      rw [slotName, Vector.getElem_ofFn]
      exact (Vector.getElem_replicate hplace).symm

/-- A directory that may have been given free entries, where it had none. -/
structure Extended (layout : Layout) (type : FileType) (extent extent' : List UInt32)
    (count count' : Nat) (before after : SdVolume) : Prop where
  more : count ≤ count'
  bound : count' ≤ count + layout.slotsPerCluster
  full : count < count' → ∀ slot < count, ¬ unused (nameAt layout extent type before slot)
  blocks : ∀ slot < count,
    slotBlock layout extent' type slot = slotBlock layout extent type slot
  old : ∀ slot < count,
    marksAt layout extent' type after slot = marksAt layout extent type before slot
  new : ∀ slot, count ≤ slot → slot < count' → unused (nameAt layout extent' type after slot)

theorem Extended.of_kept {type : FileType}
    (hkept : ∀ slot < count, SlotKept layout extent type slot volume after) :
    Extended layout type extent extent count count volume after where
  more := le_refl count
  bound := Nat.le_add_right count _
  full hmore := absurd hmore (Nat.lt_irrefl count)
  blocks _ _ := rfl
  old slot hslot := (hkept slot hslot).marksAt
  new _ hfrom hto := absurd hto (Nat.not_lt.mpr hfrom)

theorem Extended.of_middle {type : FileType} {middle : SdVolume} {extent' : List UInt32}
    {count' : Nat} (hextended : Extended layout type extent extent' count count' middle after)
    (hkept : ∀ slot < count, SlotKept layout extent type slot volume middle) :
    Extended layout type extent extent' count count' volume after where
  more := hextended.more
  bound := hextended.bound
  full hmore slot hslot := by
    rw [← (hkept slot hslot).nameAt]
    exact hextended.full hmore slot hslot
  blocks := hextended.blocks
  old slot hslot := (hextended.old slot hslot).trans (hkept slot hslot).marksAt
  new := hextended.new

namespace Disk

variable {flags : Nat → UInt8} {chains : Nat → List UInt32} {state : Handles Nat}
  {views : Views Nat}

section Grown

variable {filled : Nat} {middle : SdVolume} (hsound : layout.Sound)
  (hdisk : Disk layout flags chains extent count state dir views)
  (htype : dir.type ≠ .root16) (hpos : 0 < filled) (hfilled : filled ≤ extent.length)
  (hwhole : dirEntrySize * count = filled * layout.clusterBytes)
  (hgrown : Grown layout (extent.take filled) cluster state.1 middle)
  (hinside : InsideOf layout cluster middle after)

include hsound hdisk htype hpos hfilled hwhole hgrown hinside

/-- The new cluster is chained already, but its blocks are not zeroed yet. -/
theorem grown_unzeroed :
    Disk layout flags chains (grownExtent extent filled cluster) count (after, state.2)
        (FatFile.setCluster cluster dir) views ∧
      Extended layout dir.type extent (grownExtent extent filled cluster) count count
        state.1 after := by
  have hmarks : ∀ slot < count,
      marksAt layout (grownExtent extent filled cluster) dir.type after slot =
        marksAt layout extent dir.type state.1 slot :=
    fun slot hslot => hdisk.grown_marks hsound htype hwhole hfilled hgrown hinside hslot
  have hchained := hgrown.chained
  rw [← hinside.fat] at hchained
  have hdirectory : Directory layout (after.fat layout)
      (grownExtent extent filled cluster) (FatFile.setCluster cluster dir) count :=
    hdisk.directory.grown htype hpos hfilled hchained hdisk.directory.size hpos
      (Nat.le_succ filled) hwhole
  have hnames : namesOf layout (grownExtent extent filled cluster) dir.type after count =
      namesOf layout extent dir.type state.1 count :=
    List.map_congr_left fun slot hslot =>
      congrArg Prod.fst (hmarks slot (List.mem_range.mp hslot))
  refine ⟨?_, le_refl count, Nat.le_add_right count _,
    fun hmore => absurd hmore (Nat.lt_irrefl count),
    fun slot hslot => Directory.slotBlock_grown hwhole hfilled hslot htype, hmarks,
    fun _ hfrom hto => absurd hto (Nat.not_lt.mpr hfrom)⟩
  apply hdisk.grown hsound htype hwhole hfilled hgrown hinside hdirectory rfl
    (le_refl count)
  rw [hnames]
  exact hdisk.tidy

/-- The new cluster has been zeroed: its entries are free. -/
theorem grown_zeroed
    (hused : ∀ name ∈ namesOf layout extent dir.type state.1 count, ¬ unused name)
    (hzeroed : ∀ index < 2 ^ layout.clusterSizeShift.toNat,
      after.memory (layout.clusterStartBlock cluster + UInt32.ofNat index) = fun _ => 0)
    {size : UInt32} (hsize : size.toNat = dirEntrySize * (count + layout.slotsPerCluster)) :
    Disk layout flags chains (grownExtent extent filled cluster)
        (count + layout.slotsPerCluster) (after, state.2)
        { dir with curCluster := cluster, fileSize := size } views ∧
      Extended layout dir.type extent (grownExtent extent filled cluster) count
        (count + layout.slotsPerCluster) state.1 after ∧
      namesOf layout (grownExtent extent filled cluster) dir.type after
          (count + layout.slotsPerCluster) =
        namesOf layout extent dir.type state.1 count ++
          List.replicate layout.slotsPerCluster DirEntry.zero.name := by
  have hmarks : ∀ slot < count,
      marksAt layout (grownExtent extent filled cluster) dir.type after slot =
        marksAt layout extent dir.type state.1 slot :=
    fun slot hslot => hdisk.grown_marks hsound htype hwhole hfilled hgrown hinside hslot
  have hnames := namesOf_grown hwhole hfilled htype hmarks hzeroed
  have hchained := hgrown.chained
  rw [← hinside.fat] at hchained
  have hdirectory : Directory layout (after.fat layout)
      (grownExtent extent filled cluster)
      { dir with curCluster := cluster, fileSize := size }
      (count + layout.slotsPerCluster) := by
    refine hdisk.directory.grown htype hpos hfilled hchained hsize (Nat.succ_pos filled)
      (le_refl _) ?_
    rw [Nat.mul_add, hwhole, slots_clusterBytes, Nat.succ_mul]
  refine ⟨?_, ⟨Nat.le_add_right count _, le_refl _,
    fun _ slot hslot => hused _ (List.mem_of_getElem? (getElem?_namesOf hslot)),
    fun slot hslot => Directory.slotBlock_grown hwhole hfilled hslot htype, hmarks, ?_⟩,
    hnames⟩
  · apply hdisk.grown hsound htype hwhole hfilled hgrown hinside hdirectory rfl
      (Nat.le_add_right count _)
    rw [hnames]
    exact hdisk.tidy.extended hused rfl _
  · intro slot hfrom hto
    have hlisted : (namesOf layout (grownExtent extent filled cluster) dir.type after
        (count + layout.slotsPerCluster))[slot]? =
          some (nameAt layout (grownExtent extent filled cluster) dir.type after slot) :=
      getElem?_namesOf hto
    have hlength : (namesOf layout extent dir.type state.1 count).length = count :=
      length_namesOf
    rw [hnames, List.getElem?_append_right (by omega), hlength, List.getElem?_replicate,
      if_pos (by omega)] at hlisted
    rw [← Option.some.inj hlisted]
    exact .inl rfl

end Grown

/-- A directory without an unused entry is given a cluster of free ones. -/
theorem ends_addDirCluster (hsound : layout.Sound)
    (hdisk : Disk layout flags chains extent count state dir views)
    (hstanding : Standing layout extent dir count) (htype : dir.type ≠ .root16)
    (hused : ∀ name ∈ namesOf layout extent dir.type state.1 count, ¬ unused name)
    (hroom : dirEntrySize * (count + layout.slotsPerCluster) < 2 ^ 32) :
    Ends (FatFile.addDirCluster io layout) (state.1, dir)
      (fun _ after => ∃ extent',
        Disk layout flags chains extent' (count + layout.slotsPerCluster)
          (after.1, state.2) after.2 views ∧
        after.2.type = dir.type ∧
        Extended layout dir.type extent extent' count (count + layout.slotsPerCluster)
          state.1 after.1 ∧
        namesOf layout extent' dir.type after.1 (count + layout.slotsPerCluster) =
          namesOf layout extent dir.type state.1 count ++
            List.replicate layout.slotsPerCluster DirEntry.zero.name ∧
        after.1.cacheBlockNumber = slotBlock layout extent' dir.type count ∧
        slotIndex count = 0 ∧ after.1.cacheDirty = true)
      (fun after => (Broken io ∨ Full layout after.1) ∧ ∃ extent',
        Disk layout flags chains extent' count (after.1, state.2) after.2 views ∧
        after.2.type = dir.type ∧
        Extended layout dir.type extent extent' count count state.1 after.1) := by
  obtain ⟨filled, hpos, hfilled, hwhole⟩ := hdisk.directory.whole htype
  obtain ⟨init, hlast⟩ := hstanding.last htype hpos hfilled hwhole
  have hleading : layout.Leading (state.1.fat layout) (extent.take filled) :=
    ⟨extent.drop filled, by rw [List.take_append_drop]; exact hdisk.directory.chained⟩
  have hfirst : ¬ dir.firstCluster = 0 := by
    have hlength : 0 < extent.length := by omega
    rw [hdisk.directory.first htype, Layout.headD_eq, List.getD_eq_getElem _ _ hlength]
    exact (hdisk.directory.chained.clusters _ (List.getElem_mem hlength)).ne_zero
  have hblocks := hsound.toNat_blocksPerCluster
  have hadded : Ends (FatFile.addCluster io layout) (state.1, dir)
      (fun _ after => ∃ cluster, Grown layout (extent.take filled) cluster state.1 after.1 ∧
        after.2 = FatFile.linkFirst (FatFile.setCluster cluster dir))
      (fun after => Within layout (fun _ => False) (fun _ _ => False) state.1 after.1 ∧
        after.2 = dir ∧ (Broken io ∨ Full layout after.1)) :=
    FatFile.ends_addCluster hsound hdisk.shared.coherent hdisk.shared.startable hleading
      (.inr ⟨init, hlast⟩)
  rw [FatFile.addDirCluster]
  apply hadded.bind
  · rintro - ⟨middle, dir'⟩ ⟨cluster, hgrown, hhandle⟩
    obtain rfl : dir' = FatFile.setCluster cluster dir := hhandle.trans (if_neg hfirst)
    dsimp only at hgrown
    rw [ends_bind, ends_getFile, ends_bind, ends_onVolume, hblocks]
    apply (ends_zeroBlocks hsound hgrown.coherent hgrown.data (le_refl _)).imp
    · rintro - after ⟨hinside, hzeroed, -, -, hcached⟩
      obtain ⟨hnumber, hdirty⟩ := hcached (Nat.two_pow_pos _)
      obtain ⟨hblock, -, hindex⟩ := @Directory.slotBlock_new layout extent count cluster
        filled hwhole hfilled 0 (Nat.mul_pos (by decide) (Nat.two_pow_pos _)) dir.type htype
      rw [Nat.add_zero, Nat.zero_div] at hblock
      rw [Nat.add_zero] at hindex
      have hsize : (dir.fileSize + (512 : UInt32) <<<
          layout.clusterSizeShift.toUInt32).toNat =
            dirEntrySize * (count + layout.slotsPerCluster) := by
        rw [UInt32.toNat_add, hsound.toNat_clusterBytes, hdisk.directory.size,
          ← slots_clusterBytes, ← Nat.mul_add, Nat.mod_eq_of_lt hroom]
      obtain ⟨hdisk', hextended, hnames⟩ := hdisk.grown_zeroed hsound htype hpos hfilled
        hwhole hgrown hinside hused hzeroed hsize
      rw [ends_modifyFile]
      exact ⟨grownExtent extent filled cluster, hdisk', rfl, hextended, hnames,
        hnumber.trans hblock.symm, hindex, hdirty⟩
    · rintro after ⟨hinside, hbroken⟩
      obtain ⟨hdisk', hextended⟩ :=
        hdisk.grown_unzeroed hsound htype hpos hfilled hwhole hgrown hinside
      exact ⟨.inl hbroken, grownExtent extent filled cluster, hdisk', rfl, hextended⟩
  · rintro ⟨after, dir'⟩ ⟨hwithin, rfl, hreason⟩
    obtain ⟨hdisk', hslots⟩ := hdisk.untouched hsound hwithin (rfl : dir'.Turned dir')
    exact ⟨hreason, extent, hdisk', rfl, .of_kept hslots⟩

end Disk

end SenseBox.SD
