import SenseBox.SD.Alloc
import SenseBox.SD.FatFile
import SenseBox.SD.Append

namespace SenseBox.SD

open SenseBox.Data

/-! The blocks of a chain of clusters, and the bytes in them. -/

namespace Layout

def clusterBytes (layout : Layout) : Nat := 512 * 2 ^ layout.clusterSizeShift.toNat

/-- The block of the byte at a place of a chain. -/
def blockAt (layout : Layout) (chain : List UInt32) (place : Nat) : UInt32 :=
  layout.clusterStartBlock (chain.getD (place / layout.clusterBytes) 0) +
    UInt32.ofNat (place / 512 % 2 ^ layout.clusterSizeShift.toNat)

def InCluster (layout : Layout) (cluster block : UInt32) : Prop :=
  ∃ index, index < 2 ^ layout.clusterSizeShift.toNat ∧
    block = layout.clusterStartBlock cluster + UInt32.ofNat index

variable {layout : Layout}

theorem Sound.shift_lt (hsound : layout.Sound) :
    2 ^ layout.clusterSizeShift.toNat ≤ 128 :=
  Nat.pow_le_pow_right (by decide) hsound.shift

theorem clusterBytes_pos (layout : Layout) : 0 < layout.clusterBytes :=
  Nat.mul_pos (by decide) (Nat.two_pow_pos _)

theorem Sound.toNat_clusterBytes (hsound : layout.Sound) :
    ((512 : UInt32) <<< layout.clusterSizeShift.toUInt32).toNat = layout.clusterBytes := by
  have hshift := hsound.shift
  have hsmall := hsound.shift_lt
  have hvalue : (512 : UInt32).toNat = 512 := rfl
  rw [UInt32.toNat_shiftLeft, UInt8.toNat_toUInt32, Nat.shiftLeft_eq, hvalue,
    Nat.mod_eq_of_lt (by omega : layout.clusterSizeShift.toNat < 32),
    Nat.mod_eq_of_lt (by omega)]
  rfl

theorem Sound.toNat_block (hsound : layout.Sound) {cluster : UInt32}
    (hcluster : layout.Cluster cluster) {index : Nat}
    (hindex : index < 2 ^ layout.clusterSizeShift.toNat) :
    (layout.clusterStartBlock cluster + UInt32.ofNat index).toNat =
        layout.dataStartBlock.toNat +
          (cluster.toNat - 2) * 2 ^ layout.clusterSizeShift.toNat + index ∧
      (layout.clusterStartBlock cluster + UInt32.ofNat index).toNat <
        layout.dataStartBlock.toNat +
          layout.clusterCount.toNat * 2 ^ layout.clusterSizeShift.toNat := by
  obtain ⟨hlow, hhigh⟩ := hcluster
  have hdata := hsound.data
  have hshift := hsound.shift
  have hsmall := hsound.shift_lt
  have htwo : (2 : UInt32).toNat = 2 := rfl
  have hsub : (cluster - 2).toNat = cluster.toNat - 2 :=
    UInt32.toNat_sub_of_le cluster 2 (UInt32.le_iff_toNat_le.mpr hlow)
  have hroom : (cluster.toNat - 2 + 1) * 2 ^ layout.clusterSizeShift.toNat ≤
      layout.clusterCount.toNat * 2 ^ layout.clusterSizeShift.toNat :=
    Nat.mul_le_mul_right _ (by omega)
  rw [Nat.add_mul, Nat.one_mul] at hroom
  have hstart : ((cluster - 2) <<< layout.clusterSizeShift.toUInt32).toNat =
      (cluster.toNat - 2) * 2 ^ layout.clusterSizeShift.toNat := by
    rw [UInt32.toNat_shiftLeft, hsub, UInt8.toNat_toUInt32, Nat.shiftLeft_eq,
      Nat.mod_eq_of_lt (by omega : layout.clusterSizeShift.toNat < 32),
      Nat.mod_eq_of_lt (by omega)]
  have hindex' : (UInt32.ofNat index).toNat = index := by
    rw [UInt32.toNat_ofNat', Nat.mod_eq_of_lt (by omega)]
  have hsum : (layout.clusterStartBlock cluster + UInt32.ofNat index).toNat =
      layout.dataStartBlock.toNat +
        (cluster.toNat - 2) * 2 ^ layout.clusterSizeShift.toNat + index := by
    rw [clusterStartBlock, UInt32.toNat_add, UInt32.toNat_add, hstart, hindex',
      Nat.mod_eq_of_lt (by omega : layout.dataStartBlock.toNat + _ < _),
      Nat.mod_eq_of_lt (by omega)]
  refine ⟨hsum, ?_⟩
  rw [hsum]
  omega

theorem Sound.plain_block (hsound : layout.Sound) {cluster block : UInt32}
    (hcluster : layout.Cluster cluster) (hblock : layout.InCluster cluster block) :
    layout.Plain block := by
  obtain ⟨index, hindex, rfl⟩ := hblock
  obtain ⟨hnat, hlt⟩ := hsound.toNat_block hcluster hindex
  have hdata := hsound.data
  obtain ⟨hfats, hroom⟩ := hsound.fats
  have hone := Nat.mul_le_mul_right layout.blocksPerFat.toNat hfats
  have hvalue : noBlock.toNat = 2 ^ 32 - 1 := rfl
  refine ⟨⟨fun hnone => ?_, ?_⟩, ?_⟩
  · have := congrArg UInt32.toNat hnone
    omega
  · rintro ⟨hmirrored, -, hhigh⟩
    have hcount : 2 ≤ layout.fatCount.toNat := by
      have htwo : layout.fatCount > 1 := by simpa [mirrored] using hmirrored
      exact UInt8.lt_iff_toNat_lt.mp htwo
    have hmul := Nat.mul_le_mul_right layout.blocksPerFat.toNat hcount
    omega
  · rintro ⟨-, hhigh⟩
    omega

theorem Sound.block_inj (hsound : layout.Sound) {cluster other : UInt32}
    (hcluster : layout.Cluster cluster) (hother : layout.Cluster other)
    {index place : Nat} (hindex : index < 2 ^ layout.clusterSizeShift.toNat)
    (hplace : place < 2 ^ layout.clusterSizeShift.toNat)
    (hsame : layout.clusterStartBlock cluster + UInt32.ofNat index =
      layout.clusterStartBlock other + UInt32.ofNat place) :
    cluster = other ∧ index = place := by
  have hnat := congrArg UInt32.toNat hsame
  rw [(hsound.toNat_block hcluster hindex).1, (hsound.toNat_block hother hplace).1]
    at hnat
  have hsums : (cluster.toNat - 2) * 2 ^ layout.clusterSizeShift.toNat + index =
      (other.toNat - 2) * 2 ^ layout.clusterSizeShift.toNat + place := by omega
  have hindexes : index = place := by
    have hmod := congrArg (· % 2 ^ layout.clusterSizeShift.toNat) hsums
    rwa [Nat.mul_add_mod_of_lt hindex, Nat.mul_add_mod_of_lt hplace] at hmod
  refine ⟨UInt32.toNat_inj.mp ?_, hindexes⟩
  have hmul := Nat.eq_of_mul_eq_mul_right (Nat.two_pow_pos _)
    (Nat.add_right_cancel (hindexes ▸ hsums))
  have hlow := hcluster.1
  have hlow' := hother.1
  omega

theorem Sound.toNat_blocksPerCluster (hsound : layout.Sound) :
    layout.blocksPerCluster.toNat = 2 ^ layout.clusterSizeShift.toNat := by
  have hshift := hsound.shift
  have hsmall := hsound.shift_lt
  have hone : (1 : UInt8).toNat = 1 := rfl
  rw [blocksPerCluster, UInt8.toNat_shiftLeft, Nat.shiftLeft_eq, hone, Nat.one_mul,
    Nat.mod_eq_of_lt (by omega : layout.clusterSizeShift.toNat < 8),
    Nat.mod_eq_of_lt (by omega)]

theorem Sound.toNat_blockOfCluster (hsound : layout.Sound) (position : UInt32) :
    (layout.blockOfCluster position).toNat =
      position.toNat / 512 % 2 ^ layout.clusterSizeShift.toNat := by
  have hsmall := hsound.shift_lt
  have hpos := Nat.two_pow_pos layout.clusterSizeShift.toNat
  have hblocks := hsound.toNat_blocksPerCluster
  have hmask : (layout.blocksPerCluster.toUInt32 - 1).toNat =
      2 ^ layout.clusterSizeShift.toNat - 1 := by
    have hle : (1 : UInt32) ≤ layout.blocksPerCluster.toUInt32 := by
      rw [UInt32.le_iff_toNat_le, UInt8.toNat_toUInt32, hblocks]
      exact hpos
    rw [UInt32.toNat_sub_of_le _ _ hle, UInt8.toNat_toUInt32, hblocks]
    rfl
  have hposition : (position >>> 9).toNat = position.toNat / 512 := by
    rw [UInt32.toNat_shiftRight]
    simp [Nat.shiftRight_eq_div_pow]
  have hlt := Nat.mod_lt (position.toNat / 512) hpos
  rw [blockOfCluster, UInt32.toNat_toUInt8, UInt32.toNat_and, hmask, hposition,
    Nat.and_two_pow_sub_one_eq_mod, Nat.mod_eq_of_lt (by omega)]

theorem Sound.toUInt32_blockOfCluster (hsound : layout.Sound) (position : UInt32) :
    (layout.blockOfCluster position).toUInt32 =
      UInt32.ofNat (position.toNat / 512 % 2 ^ layout.clusterSizeShift.toNat) := by
  rw [← hsound.toNat_blockOfCluster, ← UInt8.toNat_toUInt32, UInt32.ofNat_toNat]

end Layout

namespace FatFile

theorem blockOffset_eq (file : FatFile) :
    file.blockOffset = file.curPosition.toNat % 512 := by
  rw [blockOffset, UInt32.toNat_and]
  exact Nat.and_two_pow_sub_one_eq_mod _ 9

theorem blockOffset_lt (file : FatFile) : file.blockOffset < 512 := by
  rw [blockOffset_eq]
  exact Nat.mod_lt _ (by decide)

variable {layout : Layout}

theorem start_iff (hsound : layout.Sound) (file : FatFile) :
    (layout.blockOfCluster file.curPosition = 0 ∧ file.blockOffset = 0) ↔
      file.curPosition.toNat % layout.clusterBytes = 0 := by
  rw [blockOffset_eq, ← UInt8.toNat_inj, hsound.toNat_blockOfCluster, UInt8.toNat_zero,
    Layout.clusterBytes, Nat.mod_mul]
  have hpos := Nat.two_pow_pos layout.clusterSizeShift.toNat
  omega

end FatFile

/-! Chains, and their bytes. -/

/-- A chain of clusters of the data, which ends. -/
structure Layout.Chained (layout : Layout) (table : UInt32 → UInt32)
    (chain : List UInt32) : Prop where
  clusters : ∀ cluster ∈ chain, layout.Cluster cluster
  linked : Linked (layout.links table) chain

def Layout.Leading (layout : Layout) (table : UInt32 → UInt32) (chain : List UInt32) :
    Prop :=
  ∃ rest, layout.Chained table (chain ++ rest)

namespace Layout

variable {layout : Layout}

theorem Chained.leading {table : UInt32 → UInt32} {chain : List UInt32}
    (hchain : layout.Chained table chain) : layout.Leading table chain :=
  ⟨[], by rwa [List.append_nil]⟩

theorem Chained.nil (layout : Layout) (table : UInt32 → UInt32) :
    layout.Chained table [] where
  clusters cluster hcluster := by cases hcluster
  linked := trivial

theorem Chained.used {table : UInt32 → UInt32} {chain : List UInt32}
    (hchain : layout.Chained table chain) {cluster : UInt32}
    (hcluster : cluster ∈ chain) : table cluster ≠ 0 := by
  intro hfree
  obtain ⟨place, hplace⟩ := List.getElem?_of_mem hcluster
  have hlink := hchain.linked.next_eq hplace
  rw [links_zero_iff.mpr hfree] at hlink
  have hzero := hchain.clusters 0 (List.mem_of_getElem? hlink.symm)
  exact hzero.ne_zero rfl

theorem index_lt {chain : List UInt32} {place : Nat}
    (hplace : place < chain.length * layout.clusterBytes) :
    place / layout.clusterBytes < chain.length :=
  Nat.div_lt_of_lt_mul (Nat.mul_comm _ _ ▸ hplace)

theorem blockAt_in {chain : List UInt32} {place : Nat}
    (hplace : place < chain.length * layout.clusterBytes) :
    chain.getD (place / layout.clusterBytes) 0 ∈ chain ∧
      layout.InCluster (chain.getD (place / layout.clusterBytes) 0)
        (layout.blockAt chain place) := by
  have hindex := index_lt hplace
  refine ⟨?_, _, Nat.mod_lt _ (Nat.two_pow_pos _), rfl⟩
  rw [List.getD_eq_getElem _ _ hindex]
  exact List.getElem_mem hindex

theorem blockAt_append {chain : List UInt32} (more : List UInt32) {place : Nat}
    (hplace : place < chain.length * layout.clusterBytes) :
    layout.blockAt (chain ++ more) place = layout.blockAt chain place := by
  rw [blockAt, blockAt, List.getD_append _ _ _ _ (index_lt hplace)]

theorem div_clusterBytes (layout : Layout) (place : Nat) :
    place / layout.clusterBytes =
      place / 512 / 2 ^ layout.clusterSizeShift.toNat := by
  rw [clusterBytes, Nat.div_div_eq_div_mul]

theorem blockAt_congr {chain : List UInt32} {place other : Nat}
    (hsame : place / 512 = other / 512) :
    layout.blockAt chain place = layout.blockAt chain other := by
  rw [blockAt, blockAt, div_clusterBytes, div_clusterBytes, hsame]

/-- The places of a chain in one block follow one another. -/
theorem blockAt_inj (hsound : layout.Sound) {table : UInt32 → UInt32}
    {chain : List UInt32} (hchain : layout.Chained table chain) {place other : Nat}
    (hplace : place < chain.length * layout.clusterBytes)
    (hother : other < chain.length * layout.clusterBytes)
    (hsame : layout.blockAt chain place = layout.blockAt chain other) :
    place / 512 = other / 512 := by
  have hpos := Nat.two_pow_pos layout.clusterSizeShift.toNat
  obtain ⟨hclusters, hindexes⟩ := hsound.block_inj
    (hchain.clusters _ (blockAt_in hplace).1) (hchain.clusters _ (blockAt_in hother).1)
    (Nat.mod_lt _ hpos) (Nat.mod_lt _ hpos) hsame
  rw [List.getD_eq_getElem _ _ (index_lt hplace),
    List.getD_eq_getElem _ _ (index_lt hother)] at hclusters
  have hcluster := (hchain.linked.nodup.getElem_inj_iff).mp hclusters
  rw [div_clusterBytes, div_clusterBytes] at hcluster
  exact eq_of_index hcluster hindexes

end Layout

namespace SdVolume

/-- The byte at a place of a chain. -/
def byteOf (layout : Layout) (volume : SdVolume) (chain : List UInt32) (place : Nat) :
    UInt8 :=
  volume.memory (layout.blockAt chain place) (place % 512)

variable {layout : Layout} {volume after : SdVolume} {chain : List UInt32}

theorem byteOf_append (more : List UInt32) {place : Nat}
    (hplace : place < chain.length * layout.clusterBytes) :
    byteOf layout volume (chain ++ more) place = byteOf layout volume chain place := by
  rw [byteOf, byteOf, Layout.blockAt_append more hplace]

theorem byteOf_congr
    (hmemory : ∀ cluster ∈ chain, ∀ block, layout.InCluster cluster block →
      after.memory block = volume.memory block) {place : Nat}
    (hplace : place < chain.length * layout.clusterBytes) :
    byteOf layout after chain place = byteOf layout volume chain place := by
  obtain ⟨hmem, hin⟩ := Layout.blockAt_in hplace
  rw [byteOf, byteOf, hmemory _ hmem _ hin]

/-- A block of a chain is changed from some offset on. -/
theorem byteOf_stored (hsound : layout.Sound) {table : UInt32 → UInt32}
    (hchain : layout.Chained table chain) {start : Nat}
    (hstart : start < chain.length * layout.clusterBytes) {data : Block}
    (hstored : Stored layout (layout.blockAt chain start) data volume after)
    {bytes : List UInt8} (hbytes : start % 512 + bytes.length ≤ 512) {place : Nat}
    (hplace : place < chain.length * layout.clusterBytes)
    (hdata : place / 512 = start / 512 →
      data (place % 512) = SdFile.overwrite
        (volume.memory (layout.blockAt chain start)) (start % 512) bytes
        (place % 512)) :
    byteOf layout after chain place =
      SdFile.overwrite (byteOf layout volume chain) start bytes place := by
  obtain ⟨hmem, hin⟩ := Layout.blockAt_in hplace
  have hplain := hsound.plain_block (hchain.clusters _ hmem) hin
  have hsplit := Nat.div_add_mod place 512
  have hsplit' := Nat.div_add_mod start 512
  have hmod := Nat.mod_lt place (by decide : 512 > 0)
  rw [byteOf, hstored.memory _ hplain.1]
  by_cases hblock : place / 512 = start / 512
  · rw [Layout.blockAt_congr hblock, Function.update_self, hdata hblock]
    unfold SdFile.overwrite
    have hsame : byteOf layout volume chain place =
        volume.memory (layout.blockAt chain start) (place % 512) := by
      rw [byteOf, Layout.blockAt_congr hblock]
    rw [hsame]
    have hsub : place % 512 - start % 512 = place - start := by omega
    rw [hsub]
    exact if_congr (by omega) rfl rfl
  · have hapart : layout.blockAt chain place ≠ layout.blockAt chain start :=
      fun hsame => hblock (Layout.blockAt_inj hsound hchain hplace hstart hsame)
    rw [Function.update_of_ne hapart]
    unfold SdFile.overwrite
    split
    · rfl
    · next hbefore =>
      rw [List.getD_eq_default _ _ (by omega)]
      rfl

/-! Parts of blocks that are read and written. -/

structure OnlyBlock (layout : Layout) (block : UInt32) (before after : SdVolume) :
    Prop where
  coherent : Coherent layout after
  memory : ∀ other, layout.Logical other → other ≠ block →
    after.memory other = before.memory other
  allocSearchStart : after.allocSearchStart = before.allocSearchStart

theorem Stored.onlyBlock {block : UInt32} {data : Block}
    (hstored : Stored layout block data volume after) :
    OnlyBlock layout block volume after where
  coherent := hstored.coherent
  memory other hlogical hother := by
    rw [hstored.memory other hlogical, Function.update_of_ne hother]
  allocSearchStart := hstored.allocSearchStart

theorem Kept.onlyBlock (hkept : Kept layout volume after) (block : UInt32) :
    OnlyBlock layout block volume after where
  coherent := hkept.coherent
  memory other hlogical _ := hkept.same.memory other hlogical
  allocSearchStart := hkept.same.allocSearchStart

variable {io : Accesses} {block : UInt32}

theorem ends_readPart (hsound : layout.Sound) (hcoherent : Coherent layout volume)
    (hlogical : layout.Logical block) (unbuffered : Bool) (offset n : Nat) :
    Ends (readPart io unbuffered block offset n) volume
      (fun bytes after => bytes = bytesAt (volume.memory block) offset n ∧
        Kept layout volume after)
      (fun after => Kept layout volume after ∧ Broken io) := by
  rw [readPart, ends_bind, ends_get]
  by_cases hdirect : ((unbuffered || n = 512) && block ≠ volume.cacheBlockNumber) = true
  · rw [if_pos hdirect, ends_bind, ends_readBlock]
    have hother : volume.cacheBlockNumber ≠ block :=
      Ne.symm (of_decide_eq_true (Bool.and_eq_true_iff.mp hdirect).2)
    split
    · rw [ends_pure, memory_uncached hother]
      exact ⟨rfl, hcoherent.accessed _, fun _ _ => rfl, rfl⟩
    · next hfails =>
      exact ⟨⟨hcoherent.accessed _, fun _ _ => rfl, rfl⟩, _, _,
        Bool.eq_false_iff.mpr hfails⟩
  · rw [if_neg hdirect]
    apply (ends_cacheRawBlock_read hsound hcoherent hlogical).bind
    · intro _ loaded hloaded
      rw [ends_bind, ends_get, ends_pure, hloaded.buffer]
      exact ⟨rfl, hloaded.toKept⟩
    · exact fun _ hfailed => hfailed

/-- Without the block that it holds the cache is coherent. -/
theorem Coherent.dropped (hsound : layout.Sound) (hcoherent : Coherent layout volume)
    (hplain : layout.Plain volume.cacheBlockNumber) :
    Coherent layout { volume with cacheBlockNumber := noBlock } where
  clean _ hvalid := absurd rfl hvalid
  pending hpending := absurd (hcoherent.pending hpending).2.2.1 hplain.2
  waiting _ _ hfirst := absurd rfl (hsound.logical_of_first hfirst).1
  logical hdirty hsecond := by
    have hend := hsecond.2.2
    have hroom := hsound.first_lt hsecond.1
    have hvalue : noBlock.toNat = 2 ^ 32 - 1 := rfl
    dsimp only at hend
    omega
  copies hmirrored other hfirst _ := by
    apply hcoherent.copies hmirrored other hfirst
    rintro - rfl
    exact hplain.2 hfirst

/-- A plain block that the cache does not hold is changed on the card. -/
theorem Coherent.written (hsound : layout.Sound) (hcoherent : Coherent layout volume)
    (hplain : layout.Plain block) (hother : volume.cacheBlockNumber ≠ block)
    (data : Block) :
    Coherent layout
      { volume with blocks := Function.update volume.blocks block data } where
  clean hclean hvalid := by
    dsimp only
    rw [Function.update_of_ne hother]
    exact hcoherent.clean hclean hvalid
  pending := hcoherent.pending
  waiting := hcoherent.waiting
  logical := hcoherent.logical
  copies hmirrored first hfirst huncached := by
    have hapart : first ≠ block := by
      rintro rfl
      exact hplain.2 hfirst
    have hcopy : first + layout.blocksPerFat ≠ block := by
      rintro rfl
      exact hplain.1.2 (hsound.second_mirror hmirrored hfirst)
    dsimp only
    rw [Function.update_of_ne hapart, Function.update_of_ne hcopy]
    exact hcoherent.copies hmirrored first hfirst huncached

theorem ends_writeWhole (hsound : layout.Sound) (hcoherent : Coherent layout volume)
    (hplain : layout.Plain block) (data : Block) :
    Ends (writeWhole io block data) volume
      (fun _ after => Stored layout block data volume after)
      (fun after => OnlyBlock layout block volume after ∧ Broken io) := by
  obtain ⟨start, hstart, hcoherent', hother, hmemory, hsearch⟩ :
      ∃ start : SdVolume, start =
          (if volume.cacheBlockNumber = block then
            { volume with cacheBlockNumber := noBlock } else volume) ∧
        Coherent layout start ∧ start.cacheBlockNumber ≠ block ∧
        (∀ other, layout.Logical other → other ≠ block →
          start.memory other = volume.memory other) ∧
        start.allocSearchStart = volume.allocSearchStart := by
    refine ⟨_, rfl, ?_⟩
    by_cases hcached : volume.cacheBlockNumber = block
    · rw [if_pos hcached]
      refine ⟨hcoherent.dropped hsound (hcached ▸ hplain), Ne.symm hplain.1.1, ?_, rfl⟩
      intro other hlogical hother
      have huncached : volume.cacheBlockNumber ≠ other := hcached ▸ Ne.symm hother
      rw [memory_uncached huncached, memory_uncached (Ne.symm hlogical.1)]
    · rw [if_neg hcached]
      exact ⟨hcoherent, hcached, fun _ _ _ => rfl, rfl⟩
  rw [writeWhole, ends_bind, ends_modify, ← hstart, ends_writeBlock]
  split
  · refine ⟨(hcoherent'.written hsound hplain hother data).accessed _, ?_, hsearch⟩
    intro other hlogical
    by_cases hsame : other = block
    · subst hsame
      rw [Function.update_self]
      exact (if_neg (Ne.symm hother)).trans (Function.update_self other data start.blocks)
    · rw [Function.update_of_ne hsame, ← hmemory other hlogical hsame]
      exact memory_update start fun h => absurd h hsame
  · next hfails =>
    exact ⟨⟨hcoherent'.accessed _, hmemory, hsearch⟩, _, _, Bool.eq_false_iff.mpr hfails⟩

theorem ends_writePart (hsound : layout.Sound) (hcoherent : Coherent layout volume)
    (hplain : layout.Plain block) (fresh : Bool) {offset : Nat} {bytes : List UInt8}
    (hbytes : offset + bytes.length ≤ 512) :
    Ends (writePart io fresh block offset bytes) volume
      (fun _ after => ∃ data, Stored layout block data volume after ∧
        ∀ place, place < 512 → (place < offset + bytes.length ∨ fresh = false) →
          data place =
            SdFile.overwrite (volume.memory block) offset bytes place)
      (fun after => OnlyBlock layout block volume after ∧ Broken io) := by
  rw [writePart]
  by_cases hwhole : bytes.length = 512
  · rw [if_pos hwhole]
    apply (ends_writeWhole hsound hcoherent hplain _).imp
    · intro _ after hstored
      refine ⟨_, hstored, fun place hplace _ => ?_⟩
      obtain rfl : offset = 0 := by omega
      rw [SdFile.overwrite, if_neg (Nat.not_lt_zero place), Nat.sub_zero,
        List.getD_eq_getElem _ _ (hwhole ▸ hplace),
        List.getD_eq_getElem _ _ (hwhole ▸ hplace)]
    · exact fun _ hfailed => hfailed
  · rw [if_neg hwhole]
    by_cases hnew : (offset = 0 && fresh) = true
    · rw [if_pos hnew, cacheNewBlock]
      simp only [bind_assoc]
      obtain ⟨hoffset, hfresh⟩ := Bool.and_eq_true_iff.mp hnew
      obtain rfl := of_decide_eq_true hoffset
      apply (ends_cacheFlush_take hsound hcoherent hplain).bind
      · intro _ flushed htake
        rw [ends_bind, ends_modify, ends_modify]
        refine ⟨_, htake _, fun place hplace hin => ?_⟩
        have hlt : place < bytes.length := by
          rw [Nat.zero_add] at hin
          exact hin.resolve_right fun hstale => by rw [hfresh] at hstale; cases hstale
        rw [SdFile.overwrite, if_neg (Nat.not_lt_zero place), Nat.sub_zero,
          SdFile.overwrite, if_neg (Nat.not_lt_zero place), Nat.sub_zero,
          List.getD_eq_getElem _ _ hlt, List.getD_eq_getElem _ _ hlt]
      · rintro after ⟨hkept, hbroken⟩
        exact ⟨hkept.onlyBlock block, hbroken⟩
    · rw [if_neg hnew]
      apply (ends_cacheRawBlock_write hsound hcoherent hplain).bind
      · rintro - loaded ⟨hloaded, hdirty⟩
        rw [ends_modify]
        refine ⟨SdFile.overwrite (volume.memory block) offset bytes, ?_,
          fun _ _ _ => rfl⟩
        have hcopied : copyToCache offset bytes loaded = { loaded with
            cacheBuffer :=
              SdFile.overwrite (volume.memory block) offset bytes } := by
          rw [copyToCache, hloaded.buffer]
        rw [hcopied]
        exact hloaded.same.stored (hloaded.coherent.stored hdirty hloaded.number _)
      · rintro after ⟨hkept, hbroken⟩
        exact ⟨hkept.onlyBlock block, hbroken⟩

end SdVolume

end SenseBox.SD
