import SenseBox.SD.BlockCache
import SenseBox.Data.Words

namespace SenseBox.SD

open SenseBox.Data

/-! The entries of the FAT, each in two or four bytes of a block. -/

namespace Layout

variable (layout : Layout)

def fatBlock (cluster : UInt32) : UInt32 :=
  layout.fatStartBlock +
    match layout.fatType with
    | .fat16 => cluster >>> 8
    | .fat32 => cluster >>> 7

def entry (block : Block) (cluster : UInt32) : UInt32 :=
  match layout.fatType with
  | .fat16 => UInt32.ofNat (load block (2 * (cluster &&& 0xFF).toNat) 2)
  | .fat32 => UInt32.ofNat (load block (4 * (cluster &&& 0x7F).toNat) 4) &&& 0x0FFFFFFF

def setEntry (block : Block) (cluster value : UInt32) : Block :=
  match layout.fatType with
  | .fat16 => store block (2 * (cluster &&& 0xFF).toNat) 2 value.toNat
  | .fat32 => store block (4 * (cluster &&& 0x7F).toNat) 4 value.toNat

def isEOC (cluster : UInt32) : Bool := cluster ≥ layout.eocMin

end Layout

namespace SdVolume

variable (io : Accesses) (layout : Layout)

/-- The part of `fatGet` and `fatPut` that puts the block of an entry into the
cache. -/
def cacheFatBlock (lba : UInt32) : Failing SdVolume Unit := do
  let volume ← get
  if lba ≠ volume.cacheBlockNumber then cacheRawBlock io lba .forRead else return

def fatGet (cluster : UInt32) : Failing SdVolume UInt32 := do
  if cluster > layout.clusterCount + 1 then failure
  else
    cacheFatBlock io (layout.fatBlock cluster)
    let volume ← get
    return layout.entry volume.cacheBuffer cluster

/-- The part of `fatPut` that changes the entry in the cache. -/
def storeEntry (cluster value : UInt32) (volume : SdVolume) : SdVolume :=
  { volume.cacheSetDirty with
    cacheBuffer := layout.setEntry volume.cacheBuffer cluster value
    cacheMirrorBlock :=
      if layout.fatCount > 1 then layout.fatBlock cluster + layout.blocksPerFat
      else volume.cacheMirrorBlock }

def fatPut (cluster value : UInt32) : Failing SdVolume Unit := do
  if cluster < 2 then failure
  else if cluster > layout.clusterCount + 1 then failure
  else
    cacheFatBlock io (layout.fatBlock cluster)
    modify (storeEntry layout cluster value)

def fatPutEOC (cluster : UInt32) : Failing SdVolume Unit :=
  fatPut io layout cluster 0x0FFFFFFF

/-- The loop of `allocContiguous`, for as many clusters as there are: the first and
the last cluster of the group it finds. -/
def allocSearch (count : UInt32) :
    Nat → UInt32 → UInt32 → Failing SdVolume (UInt32 × UInt32)
  | 0, _, _ => failure
  | left + 1, bgnCluster, endCluster => do
      -- past the end it starts from the beginning of the FAT
      let bgnCluster :=
        if endCluster > layout.clusterCount + 1 then 2 else bgnCluster
      let endCluster :=
        if endCluster > layout.clusterCount + 1 then 2 else endCluster
      let f ← fatGet io layout endCluster
      if f ≠ 0 then allocSearch count left (endCluster + 1) (endCluster + 1)
      else if endCluster - bgnCluster + 1 = count then return (bgnCluster, endCluster)
      else allocSearch count left bgnCluster (endCluster + 1)

/-- Links the clusters of a group, from the last one down. -/
def linkClusters (bgnCluster : UInt32) : Nat → Failing SdVolume Unit
  | 0 => return
  | left + 1 => do
      let endCluster := bgnCluster + UInt32.ofNat (left + 1)
      fatPut io layout (endCluster - 1) endCluster
      linkClusters bgnCluster left

def connectChains (curCluster bgnCluster : UInt32) : Failing SdVolume Unit :=
  if curCluster ≠ 0 then fatPut io layout curCluster bgnCluster else return

/-- The part of `allocContiguous` after its search. -/
def enterGroup (curCluster bgnCluster endCluster : UInt32) : Failing SdVolume Unit := do
  fatPutEOC io layout endCluster
  linkClusters io layout bgnCluster (endCluster - bgnCluster).toNat
  connectChains io layout curCluster bgnCluster

/-- The first cluster of the group that has been put at the end of the chain. -/
def allocContiguous (count curCluster : UInt32) : Failing SdVolume UInt32 := do
  let volume ← get
  let bgnCluster := if curCluster ≠ 0 then curCluster + 1 else volume.allocSearchStart
  let setStart := curCluster = 0 ∧ count = 1
  let (bgnCluster, endCluster) ←
    allocSearch io layout count layout.clusterCount.toNat bgnCluster bgnCluster
  enterGroup io layout curCluster bgnCluster endCluster
  modify fun volume =>
    { volume with
      allocSearchStart :=
        if setStart then bgnCluster + 1 else volume.allocSearchStart }
  return bgnCluster

/-- The loop of `freeChain`, for as many clusters as it is given; `none` is that it
goes on. -/
def freeLoop : Nat → UInt32 → Failing SdVolume (Option Unit)
  | 0, _ => return none
  | left + 1, cluster => do
      let next ← fatGet io layout cluster
      fatPut io layout cluster 0
      if layout.isEOC next then return some ()
      else freeLoop left next

def freeChain (rounds : Nat) (cluster : UInt32) : Failing SdVolume (Option Unit) := do
  modify fun volume => { volume with allocSearchStart := 2 }
  freeLoop io layout rounds cluster

/-! The table that the blocks of the FAT hold. -/

def fat (volume : SdVolume) (cluster : UInt32) : UInt32 :=
  if cluster.toNat ≤ layout.clusterCount.toNat + 1 then
    layout.entry (volume.memory (layout.fatBlock cluster)) cluster
  else 0

end SdVolume

namespace Layout

variable {layout : Layout}

def Cluster (layout : Layout) (cluster : UInt32) : Prop :=
  2 ≤ cluster.toNat ∧ cluster.toNat ≤ layout.clusterCount.toNat + 1

/-- What an entry of the FAT keeps of a number. -/
def kept (layout : Layout) (value : UInt32) : UInt32 :=
  match layout.fatType with
  | .fat16 => value &&& 0xFFFF
  | .fat32 => value &&& 0x0FFFFFFF

theorem toNat_fatBlock_index (cluster : UInt32) :
    (cluster >>> 8).toNat = cluster.toNat / 256 ∧
      (cluster >>> 7).toNat = cluster.toNat / 128 ∧
      (cluster &&& 0xFF).toNat = cluster.toNat % 256 ∧
      (cluster &&& 0x7F).toNat = cluster.toNat % 128 := by
  refine ⟨?_, ?_, ?_, ?_⟩
  · rw [UInt32.toNat_shiftRight]
    simp [Nat.shiftRight_eq_div_pow]
  · rw [UInt32.toNat_shiftRight]
    simp [Nat.shiftRight_eq_div_pow]
  · rw [UInt32.toNat_and]
    exact Nat.and_two_pow_sub_one_eq_mod _ 8
  · rw [UInt32.toNat_and]
    exact Nat.and_two_pow_sub_one_eq_mod _ 7

theorem Sound.count_lt (hsound : layout.Sound) :
    layout.clusterCount.toNat + 2 < 2 ^ 32 := by
  have hcount := hsound.count
  have heoc : layout.eocMin.toNat ≤ 0x0FFFFFF8 := by
    unfold eocMin
    cases layout.fatType <;> decide
  omega

theorem Sound.toNat_last (hsound : layout.Sound) :
    (layout.clusterCount + 1).toNat = layout.clusterCount.toNat + 1 := by
  have hcount := hsound.count_lt
  rw [UInt32.toNat_add, UInt32.toNat_one, Nat.mod_eq_of_lt (by omega)]

theorem Sound.toNat_fatBlock (hsound : layout.Sound) {cluster : UInt32}
    (hcluster : cluster.toNat ≤ layout.clusterCount.toNat + 1) :
    (layout.fatBlock cluster).toNat =
        layout.fatStartBlock.toNat + cluster.toNat / layout.entriesPerBlock ∧
      cluster.toNat / layout.entriesPerBlock < layout.blocksPerFat.toNat := by
  obtain ⟨height, hseven, -, -⟩ := toNat_fatBlock_index cluster
  have hentries := hsound.entries
  have hfats := hsound.fats
  have hdata := hsound.data
  have hmul := Nat.mul_le_mul_right layout.blocksPerFat.toNat hfats.1
  have hbound : cluster.toNat / layout.entriesPerBlock <
      layout.blocksPerFat.toNat := by
    apply Nat.div_lt_of_lt_mul
    rw [Nat.mul_comm]
    omega
  refine ⟨?_, hbound⟩
  unfold fatBlock entriesPerBlock at *
  cases htype : layout.fatType with
  | fat16 =>
      rw [htype] at hbound
      dsimp only at hbound ⊢
      rw [UInt32.toNat_add, height, Nat.mod_eq_of_lt (by omega)]
  | fat32 =>
      rw [htype] at hbound
      dsimp only at hbound ⊢
      rw [UInt32.toNat_add, hseven, Nat.mod_eq_of_lt (by omega)]

theorem Sound.first_fatBlock (hsound : layout.Sound) {cluster : UInt32}
    (hcluster : cluster.toNat ≤ layout.clusterCount.toNat + 1) :
    layout.First (layout.fatBlock cluster) := by
  obtain ⟨hblock, hbound⟩ := hsound.toNat_fatBlock hcluster
  rw [First, hblock]
  exact ⟨Nat.le_add_right _ _, Nat.add_lt_add_left hbound _⟩

theorem Sound.logical_of_first (hsound : layout.Sound) {block : UInt32}
    (hfirst : layout.First block) : layout.Logical block := by
  refine ⟨?_, hfirst.not_second⟩
  rintro rfl
  have hend := hfirst.2
  have hfats := hsound.fats
  have hdata := hsound.data
  have hmul := Nat.mul_le_mul_right layout.blocksPerFat.toNat hfats.1
  have hvalue : noBlock.toNat = 2 ^ 32 - 1 := rfl
  omega

theorem eq_of_index {cluster other perBlock : Nat}
    (hblock : cluster / perBlock = other / perBlock)
    (hindex : cluster % perBlock = other % perBlock) : cluster = other := by
  rw [← Nat.div_add_mod cluster perBlock, hblock, hindex, Nat.div_add_mod]

theorem Sound.fatBlock_inj (hsound : layout.Sound) {cluster other : UInt32}
    (hcluster : cluster.toNat ≤ layout.clusterCount.toNat + 1)
    (hother : other.toNat ≤ layout.clusterCount.toNat + 1)
    (hblock : layout.fatBlock cluster = layout.fatBlock other) :
    cluster.toNat / layout.entriesPerBlock = other.toNat / layout.entriesPerBlock := by
  have hnat := congrArg UInt32.toNat hblock
  rw [(hsound.toNat_fatBlock hcluster).1, (hsound.toNat_fatBlock hother).1] at hnat
  exact Nat.add_left_cancel hnat

theorem Sound.mirror_ne_zero (hsound : layout.Sound)
    (hmirrored : layout.mirrored = true) {block : UInt32}
    (hfirst : layout.First block) : block + layout.blocksPerFat ≠ 0 := by
  intro hzero
  have hnat := hsound.toNat_mirror hmirrored hfirst
  obtain ⟨hlow, hhigh⟩ := hfirst
  rw [hzero, UInt32.toNat_zero] at hnat
  omega

/-- An entry that has been set keeps what it can of the number, and the other
entries of its block are left alone. -/
theorem entry_setEntry (layout : Layout) (block : Block) {cluster other : UInt32}
    (hblock : cluster.toNat / layout.entriesPerBlock =
      other.toNat / layout.entriesPerBlock) (value : UInt32) :
    layout.entry (layout.setEntry block cluster value) other =
      if other = cluster then layout.kept value else layout.entry block other := by
  obtain ⟨-, -, hlow, hlow'⟩ := toNat_fatBlock_index cluster
  obtain ⟨-, -, hother, hother'⟩ := toNat_fatBlock_index other
  unfold entry setEntry kept
  unfold entriesPerBlock at hblock
  cases htype : layout.fatType with
  | fat16 =>
      rw [htype] at hblock
      dsimp only at hblock ⊢
      split
      · next hsame =>
        rw [hsame, load_store]
        apply UInt32.toNat_inj.mp
        have hmask : value.toNat &&& (0xFFFF : UInt32).toNat = value.toNat % 2 ^ 16 :=
          Nat.and_two_pow_sub_one_eq_mod _ 16
        rw [UInt32.toNat_and, UInt32.toNat_ofNat', hmask]
        omega
      · next hdiffer =>
        have hindex : other.toNat % 256 ≠ cluster.toNat % 256 := fun hindex =>
          hdiffer (UInt32.toNat_inj.mp (eq_of_index hblock.symm hindex))
        rw [load_store_apart (by omega)]
  | fat32 =>
      rw [htype] at hblock
      dsimp only at hblock ⊢
      split
      · next hsame =>
        have hvalue : value.toNat % 256 ^ 4 = value.toNat :=
          Nat.mod_eq_of_lt value.toNat_lt
        rw [hsame, load_store, hvalue, UInt32.ofNat_toNat]
      · next hdiffer =>
        have hindex : other.toNat % 128 ≠ cluster.toNat % 128 := fun hindex =>
          hdiffer (UInt32.toNat_inj.mp (eq_of_index hblock.symm hindex))
        rw [load_store_apart (by omega)]

end Layout

namespace SdVolume

variable {layout : Layout} {io : Accesses} {volume : SdVolume}

structure FatOnly (layout : Layout) (before after : SdVolume) : Prop where
  coherent : Coherent layout after
  plain : ∀ block, layout.Plain block → after.memory block = before.memory block
  allocSearchStart : after.allocSearchStart = before.allocSearchStart

theorem FatOnly.trans {first second third : SdVolume}
    (hfirst : FatOnly layout first second) (hsecond : FatOnly layout second third) :
    FatOnly layout first third where
  coherent := hsecond.coherent
  plain block hplain := (hsecond.plain block hplain).trans (hfirst.plain block hplain)
  allocSearchStart := hsecond.allocSearchStart.trans hfirst.allocSearchStart

theorem Kept.fatOnly {before after : SdVolume} (hkept : Kept layout before after) :
    FatOnly layout before after :=
  ⟨hkept.coherent, fun block hplain => hkept.same.memory block hplain.1,
    hkept.same.allocSearchStart⟩

theorem fat_of_memory (hsound : layout.Sound) {before after : SdVolume}
    (hmemory : ∀ block, layout.Logical block → after.memory block = before.memory block) :
    after.fat layout = before.fat layout := by
  funext cluster
  unfold SdVolume.fat
  split
  · next hcluster =>
    rw [hmemory _ (hsound.logical_of_first (hsound.first_fatBlock hcluster))]
  · rfl

theorem Same.fat (hsound : layout.Sound) {before after : SdVolume}
    (hsame : Same layout before after) : after.fat layout = before.fat layout :=
  fat_of_memory hsound hsame.memory

theorem Stored.fat (hsound : layout.Sound) {before after : SdVolume} {block : UInt32}
    {data : Block} (hplain : layout.Plain block)
    (hstored : Stored layout block data before after) :
    after.fat layout = before.fat layout := by
  funext cluster
  unfold SdVolume.fat
  split
  · next hcluster =>
    have hfirst := hsound.first_fatBlock hcluster
    have hapart : layout.fatBlock cluster ≠ block := by
      rintro rfl
      exact hplain.2 hfirst
    rw [hstored.memory _ (hsound.logical_of_first hfirst), Function.update_of_ne hapart]
  · rfl

theorem ends_cacheFatBlock (hsound : layout.Sound) (hcoherent : Coherent layout volume)
    {lba : UInt32} (hfirst : layout.First lba) :
    Ends (cacheFatBlock io lba) volume
      (fun _ after => Loaded layout lba volume after)
      (fun after => Kept layout volume after ∧ Broken io) := by
  rw [cacheFatBlock, ends_bind, ends_get]
  by_cases hcached : lba = volume.cacheBlockNumber
  · rw [if_neg (not_not_intro hcached), ends_pure]
    exact ⟨⟨hcoherent, .refl volume⟩, hcached.symm, (memory_cached hcached.symm).symm⟩
  · rw [if_pos hcached]
    exact ends_cacheRawBlock_read hsound hcoherent (hsound.logical_of_first hfirst)

theorem ends_fatGet (hsound : layout.Sound) (hcoherent : Coherent layout volume)
    {cluster : UInt32} (hcluster : cluster.toNat ≤ layout.clusterCount.toNat + 1) :
    Ends (fatGet io layout cluster) volume
      (fun value after => value = volume.fat layout cluster ∧
        Kept layout volume after)
      (fun after => Kept layout volume after ∧ Broken io) := by
  have hlast : ¬ cluster > layout.clusterCount + 1 := by
    rw [gt_iff_lt, UInt32.lt_iff_toNat_lt, hsound.toNat_last]
    omega
  rw [fatGet, if_neg hlast]
  apply (ends_cacheFatBlock hsound hcoherent (hsound.first_fatBlock hcluster)).bind
  · intro _ after hloaded
    rw [ends_bind, ends_get, ends_pure, hloaded.buffer]
    exact ⟨(if_pos hcluster).symm, hloaded.toKept⟩
  · exact fun _ hfailed => hfailed

theorem Coherent.storeEntry (hsound : layout.Sound)
    (hcoherent : Coherent layout volume) {cluster : UInt32}
    (hcluster : layout.Cluster cluster) (value : UInt32)
    (hcached : volume.cacheBlockNumber = layout.fatBlock cluster) :
    Coherent layout (storeEntry layout cluster value volume) where
  clean hclean := by cases hclean
  pending hpending := by
    have hmirrored : layout.mirrored = true := by
      by_contra hsingle
      have hcount : ¬ layout.fatCount > 1 := fun hcount =>
        hsingle (decide_eq_true hcount)
      simp only [SdVolume.storeEntry, if_neg hcount, cacheSetDirty] at hpending
      exact hsingle (hcoherent.pending hpending).2.1
    refine ⟨rfl, hmirrored, ?_, ?_⟩
    · exact hcached.symm ▸ hsound.first_fatBlock hcluster.2
    · exact (if_pos (of_decide_eq_true hmirrored)).trans (by rw [← hcached]; rfl)
  waiting _ hmirrored _ := by
    simp only [SdVolume.storeEntry, if_pos (of_decide_eq_true hmirrored)]
    exact hsound.mirror_ne_zero hmirrored (hsound.first_fatBlock hcluster.2)
  logical _ := hcached.symm ▸ (hsound.first_fatBlock hcluster.2).not_second
  copies hmirrored block hblock hother :=
    hcoherent.copies hmirrored block hblock fun _ => hother rfl

theorem memory_storeEntry (volume : SdVolume) (cluster value : UInt32) :
    (storeEntry layout cluster value volume).memory =
      Function.update volume.memory volume.cacheBlockNumber
        (layout.setEntry volume.cacheBuffer cluster value) := by
  funext other
  by_cases hother : other = volume.cacheBlockNumber
  · rw [hother, Function.update_self]
    exact if_pos rfl
  · rw [Function.update_of_ne hother]
    exact (if_neg hother).trans (if_neg hother).symm

theorem ends_fatPut (hsound : layout.Sound) (hcoherent : Coherent layout volume)
    {cluster : UInt32} (hcluster : layout.Cluster cluster) (value : UInt32) :
    Ends (fatPut io layout cluster value) volume
      (fun _ after => FatOnly layout volume after ∧
        after.fat layout =
          Function.update (volume.fat layout) cluster (layout.kept value))
      (fun after => Kept layout volume after ∧ Broken io) := by
  have hreserved : ¬ cluster < 2 := by
    rw [UInt32.lt_iff_toNat_lt]
    exact Nat.not_lt.mpr hcluster.1
  have hlast : ¬ cluster > layout.clusterCount + 1 := by
    rw [gt_iff_lt, UInt32.lt_iff_toNat_lt, hsound.toNat_last]
    exact Nat.not_lt.mpr hcluster.2
  have hfirst := hsound.first_fatBlock hcluster.2
  rw [fatPut, if_neg hreserved, if_neg hlast]
  apply (ends_cacheFatBlock hsound hcoherent hfirst).bind
  · intro _ loaded hloaded
    rw [ends_modify]
    refine ⟨⟨hloaded.coherent.storeEntry hsound hcluster value hloaded.number, ?_,
      hloaded.same.allocSearchStart⟩, ?_⟩
    · intro block hplain
      have hblock : block ≠ loaded.cacheBlockNumber := by
        rintro rfl
        exact hplain.2 (hloaded.number.symm ▸ hfirst)
      rw [memory_storeEntry, Function.update_of_ne hblock,
        hloaded.same.memory block hplain.1]
    · funext other
      unfold SdVolume.fat
      rw [memory_storeEntry, hloaded.number, hloaded.buffer]
      split
      · next hother =>
        by_cases hblock : layout.fatBlock other = layout.fatBlock cluster
        · have hindex := hsound.fatBlock_inj hcluster.2 hother hblock.symm
          rw [hblock, Function.update_self, layout.entry_setEntry _ hindex,
            Function.update_apply, if_pos hother, hblock]
        · have hapart : other ≠ cluster := fun hsame => hblock (by rw [hsame])
          rw [Function.update_of_ne hblock, Function.update_of_ne hapart,
            if_pos hother, hloaded.same.memory _
              (hsound.logical_of_first (hsound.first_fatBlock hother))]
      · next hother =>
        have hapart : other ≠ cluster := by
          rintro rfl
          exact hother hcluster.2
        rw [Function.update_of_ne hapart, if_neg hother]
  · exact fun _ hfailed => hfailed

end SdVolume

end SenseBox.SD
