import SenseBox.SD.Locality

namespace SenseBox.SD

open SenseBox.Data

/-! Starting with a card: its partition table and its boot sector. -/

def bootWord (block : Block) (place : Nat) : UInt16 := UInt16.ofNat (load block place 2)

def bootLong (block : Block) (place : Nat) : UInt32 := UInt32.ofNat (load block place 4)

/-- The first block of a partition of the table in this block. -/
def partitionStart (block : Block) (part : UInt8) : Option UInt32 :=
  let place := 446 + 16 * (part.toNat - 1)
  if block place &&& 0x7F ≠ 0 ∨ bootLong block (place + 12) < 100 ∨
      bootLong block (place + 8) = 0 then none
  else some (bootLong block (place + 8))

/-- The shift that is the same as multiplying by the blocks of a cluster. -/
def clusterShift (blocksPerCluster : UInt8) (shift : Nat) : Option Nat :=
  if blocksPerCluster.toNat = 1 <<< shift then some shift
  else if shift > 7 then none
  else clusterShift blocksPerCluster (shift + 1)
termination_by 8 - shift

def blocksOfFat (block : Block) : UInt32 :=
  if bootWord block 22 ≠ 0 then (bootWord block 22).toUInt32 else bootLong block 36

def blocksOfRoot (block : Block) : UInt16 := (32 * bootWord block 17 + 511) / 512

def totalBlocks (block : Block) : UInt32 :=
  if bootWord block 19 ≠ 0 then (bootWord block 19).toUInt32 else bootLong block 32

/-- What the boot sector says of the volume; `none` is the FAT with 12 bits, on which
no directory is opened. -/
def bootLayout (volumeStartBlock : UInt32) (block : Block) (shift : Nat) :
    Option Layout :=
  let fatStartBlock := volumeStartBlock + (bootWord block 14).toUInt32
  let rootDirStart := fatStartBlock + (block 16).toUInt32 * blocksOfFat block
  let dataStartBlock := rootDirStart + (blocksOfRoot block).toUInt32
  let clusterCount :=
    (totalBlocks block - (dataStartBlock - volumeStartBlock)) >>> UInt32.ofNat shift
  if clusterCount < 4085 then none
  else some
    { fatType := if clusterCount < 65525 then .fat16 else .fat32
      fatCount := block 16
      clusterSizeShift := UInt8.ofNat shift
      blocksPerFat := blocksOfFat block
      clusterCount := clusterCount
      fatStartBlock := fatStartBlock
      rootDirEntryCount := bootWord block 17
      rootDirStart := if clusterCount < 65525 then rootDirStart else bootLong block 44
      dataStartBlock := dataStartBlock }

/-- The boot sector in this block; the outer `none` is no valid FAT volume. -/
def bootSector (volumeStartBlock : UInt32) (block : Block) : Option (Option Layout) :=
  if bootWord block 11 ≠ 512 ∨ block 16 = 0 ∨ bootWord block 14 = 0 ∨ block 13 = 0 then none
  else (clusterShift (block 13) 0).map (bootLayout volumeStartBlock block)

namespace SdVolume

variable (io : Accesses)

/-- The part of `init` that finds the first block of the volume. -/
def startBlock (part : UInt8) : Failing SdVolume UInt32 := do
  if part = 0 then return 0
  else if part > 4 then failure
  else
    cacheRawBlock io 0 .forRead
    let volume ← get
    match partitionStart volume.cacheBuffer part with
    | none => failure
    | some firstSector => return firstSector

/-- The part of `init` that reads the boot sector. -/
def readBootSector (volumeStartBlock : UInt32) : Failing SdVolume (Option Layout) := do
  cacheRawBlock io volumeStartBlock .forRead
  let volume ← get
  match bootSector volumeStartBlock volume.cacheBuffer with
  | none => failure
  | some layout => return layout

def init (part : UInt8) : Failing SdVolume (Option Layout) := do
  let volumeStartBlock ← startBlock io part
  readBootSector io volumeStartBlock

def powerOn (volume : SdVolume) : SdVolume :=
  { volume with
    cacheBlockNumber := noBlock
    cacheBuffer := fun _ => 0
    cacheDirty := false
    cacheMirrorBlock := 0
    allocSearchStart := 2 }

end SdVolume

/-! What a boot sector has to say. -/

/-- The blocks before the clusters. -/
def systemBlocks (block : Block) : Nat :=
  (bootWord block 14).toNat + (block 16).toNat * (blocksOfFat block).toNat +
    (blocksOfRoot block).toNat

/-- The volume lies on the card, there is room in it for its FATs and its root
directory, and in its FATs for all of its clusters. -/
structure Formatted (volumeStartBlock : UInt32) (block : Block) (layout : Layout) :
    Prop where
  card : volumeStartBlock.toNat + (totalBlocks block).toNat < 2 ^ 32
  room : systemBlocks block ≤ (totalBlocks block).toNat
  entries : layout.clusterCount.toNat + 2 ≤
    layout.blocksPerFat.toNat * layout.entriesPerBlock
  count : layout.clusterCount.toNat + 1 < 0x0FFFFFF8

theorem clusterShift_some {blocksPerCluster : UInt8} {start shift : Nat}
    (hshift : clusterShift blocksPerCluster start = some shift) :
    shift ≤ 7 ∧ blocksPerCluster.toNat = 2 ^ shift := by
  induction start using clusterShift.induct blocksPerCluster with
  | case1 start hfound =>
      rw [clusterShift, if_pos hfound] at hshift
      cases hshift
      rw [Nat.one_shiftLeft] at hfound
      refine ⟨?_, hfound⟩
      by_contra hlarge
      have hpow : 2 ^ 8 ≤ 2 ^ shift := Nat.pow_le_pow_right (by decide) (by omega)
      have hlt := blocksPerCluster.toNat_lt
      omega
  | case2 start hother hlarge =>
      rw [clusterShift, if_neg hother, if_pos hlarge] at hshift
      cases hshift
  | case3 start hother hsmall ih =>
      rw [clusterShift, if_neg hother, if_neg hsmall] at hshift
      exact ih hshift

theorem clusterShift_pow {blocksPerCluster : UInt8} {start shift : Nat}
    (hstart : start ≤ shift) (hshift : shift ≤ 7)
    (hpow : blocksPerCluster.toNat = 2 ^ shift) :
    clusterShift blocksPerCluster start = some shift := by
  induction start using clusterShift.induct blocksPerCluster with
  | case1 start hfound =>
      rw [Nat.one_shiftLeft, hpow] at hfound
      have hsame : shift = start := Nat.pow_right_injective (le_refl 2) hfound
      rw [clusterShift, Nat.one_shiftLeft, hpow, hsame, if_pos rfl]
  | case2 start hother hlarge => omega
  | case3 start hother hsmall ih =>
      rw [clusterShift, if_neg hother, if_neg hsmall]
      apply ih
      apply Nat.lt_of_le_of_ne hstart
      rintro rfl
      exact hother (by rw [Nat.one_shiftLeft, hpow])

theorem clusterShift_none_iff {blocksPerCluster : UInt8} :
    clusterShift blocksPerCluster 0 = none ↔
      ∀ shift ≤ 7, blocksPerCluster.toNat ≠ 2 ^ shift := by
  constructor
  · intro hnone shift hshift hpow
    rw [clusterShift_pow (Nat.zero_le shift) hshift hpow] at hnone
    cases hnone
  · intro hother
    cases hshift : clusterShift blocksPerCluster 0 with
    | none => rfl
    | some shift =>
        obtain ⟨hsmall, hpow⟩ := clusterShift_some hshift
        exact absurd hpow (hother shift hsmall)

section Boot

variable {volumeStartBlock : UInt32} {block : Block} {layout : Layout}

/-- Where the blocks before the clusters are on the card, their numbers do not
overflow. -/
theorem toNat_dataStart (hcard : volumeStartBlock.toNat + systemBlocks block < 2 ^ 32) :
    (volumeStartBlock + (bootWord block 14).toUInt32).toNat =
      volumeStartBlock.toNat + (bootWord block 14).toNat ∧
    (volumeStartBlock + (bootWord block 14).toUInt32 +
      (block 16).toUInt32 * blocksOfFat block + (blocksOfRoot block).toUInt32).toNat =
        volumeStartBlock.toNat + systemBlocks block := by
  unfold systemBlocks at hcard ⊢
  have hfats : ((block 16).toUInt32 * blocksOfFat block).toNat =
      (block 16).toNat * (blocksOfFat block).toNat := by
    rw [UInt32.toNat_mul, UInt8.toNat_toUInt32]
    exact Nat.mod_eq_of_lt (by omega)
  have hstart : (volumeStartBlock + (bootWord block 14).toUInt32).toNat =
      volumeStartBlock.toNat + (bootWord block 14).toNat := by
    rw [UInt32.toNat_add, UInt16.toNat_toUInt32]
    exact Nat.mod_eq_of_lt (by omega)
  refine ⟨hstart, ?_⟩
  rw [UInt32.toNat_add, UInt32.toNat_add, hstart, hfats, UInt16.toNat_toUInt32,
    Nat.mod_eq_of_lt (by omega), Nat.mod_eq_of_lt (by omega)]
  omega

theorem toNat_clusters {shift : Nat} (hshift : shift ≤ 7)
    (hcard : volumeStartBlock.toNat + (totalBlocks block).toNat < 2 ^ 32)
    (hroom : systemBlocks block ≤ (totalBlocks block).toNat) :
    ((totalBlocks block - (volumeStartBlock + (bootWord block 14).toUInt32 +
      (block 16).toUInt32 * blocksOfFat block + (blocksOfRoot block).toUInt32 -
        volumeStartBlock)) >>> UInt32.ofNat shift).toNat =
      ((totalBlocks block).toNat - systemBlocks block) / 2 ^ shift := by
  have hdata := (toNat_dataStart
    (by omega : volumeStartBlock.toNat + systemBlocks block < 2 ^ 32)).2
  have hsystem : (volumeStartBlock + (bootWord block 14).toUInt32 +
      (block 16).toUInt32 * blocksOfFat block + (blocksOfRoot block).toUInt32 -
        volumeStartBlock).toNat = systemBlocks block := by
    rw [UInt32.toNat_sub_of_le, hdata]
    · omega
    · rw [UInt32.le_iff_toNat_le, hdata]
      omega
  have hshift' : (UInt32.ofNat shift).toNat = shift := by
    rw [UInt32.toNat_ofNat']
    exact Nat.mod_eq_of_lt (by omega)
  rw [UInt32.toNat_shiftRight, hshift', Nat.mod_eq_of_lt (by omega : shift < 32),
    Nat.shiftRight_eq_div_pow, UInt32.toNat_sub_of_le, hsystem]
  rw [UInt32.le_iff_toNat_le, hsystem]
  exact hroom

/-- The boot sector is not that of a FAT volume that is known. -/
def Refused (block : Block) : Prop :=
  bootWord block 11 ≠ 512 ∨ block 16 = 0 ∨ bootWord block 14 = 0 ∨
    ∀ shift ≤ 7, (block 13).toNat ≠ 2 ^ shift

theorem bootSector_none_iff :
    bootSector volumeStartBlock block = none ↔ Refused block := by
  rw [bootSector, Refused, ← clusterShift_none_iff]
  split
  · next hinvalid =>
    refine ⟨fun _ => ?_, fun _ => rfl⟩
    rcases hinvalid with hbytes | hfats | hreserved | hblocks
    · exact .inl hbytes
    · exact .inr (.inl hfats)
    · exact .inr (.inr (.inl hreserved))
    · refine .inr (.inr (.inr (clusterShift_none_iff.mpr fun shift _ hpow => ?_)))
      rw [hblocks, UInt8.toNat_zero] at hpow
      exact absurd hpow.symm (Nat.two_pow_pos shift).ne'
  · next hvalid =>
    rw [Option.map_eq_none_iff]
    refine ⟨fun hnone => .inr (.inr (.inr hnone)), ?_⟩
    rintro (hbytes | hfats | hreserved | hnone)
    · exact absurd (.inl hbytes) hvalid
    · exact absurd (.inr (.inl hfats)) hvalid
    · exact absurd (.inr (.inr (.inl hreserved))) hvalid
    · exact hnone

/-- A volume that its boot sector describes is one that the library can use. -/
theorem bootSector_sound (hboot : bootSector volumeStartBlock block = some (some layout))
    (hformatted : Formatted volumeStartBlock block layout) : layout.Sound := by
  obtain ⟨hcard, hroom, hentries, hcount⟩ := hformatted
  unfold bootSector at hboot
  split at hboot
  · cases hboot
  · next hvalid =>
    have hfats : block 16 ≠ 0 := fun hnone => hvalid (.inr (.inl hnone))
    obtain ⟨shift, hshift, hlayout⟩ := Option.map_eq_some_iff.mp hboot
    have hsmall := (clusterShift_some hshift).1
    obtain ⟨hstart, hdata⟩ :=
      toNat_dataStart (by omega : volumeStartBlock.toNat + systemBlocks block < 2 ^ 32)
    have hclusters := toNat_clusters hsmall hcard hroom
    have hshift' : (UInt8.ofNat shift).toNat = shift := by
      rw [UInt8.toNat_ofNat']
      exact Nat.mod_eq_of_lt (by omega)
    unfold bootLayout at hlayout
    dsimp only at hlayout
    split at hlayout
    · cases hlayout
    · cases hlayout
      have hused := Nat.div_mul_le_self
        ((totalBlocks block).toNat - systemBlocks block) (2 ^ shift)
      have hfats' : (block 16).toNat ≠ 0 := fun hnat => hfats (UInt8.toNat_inj.mp hnat)
      refine ⟨⟨Nat.pos_of_ne_zero hfats', ?_⟩, ?_, ?_, hentries, ?_⟩
      · dsimp only
        rw [hstart, hdata, systemBlocks]
        omega
      · dsimp only
        rw [hshift']
        exact hsmall
      · dsimp only
        rw [hdata, hclusters, hshift']
        omega
      · unfold Layout.eocMin
        dsimp only at hcount ⊢
        split
        · next htype =>
          split at htype
          · next hless =>
            have hlt := UInt32.lt_iff_toNat_lt.mp hless
            have hbound : (65525 : UInt32).toNat = 65525 := rfl
            have hmin : (0xFFF8 : UInt32).toNat = 0xFFF8 := rfl
            omega
          · cases htype
        · exact hcount

end Boot

namespace SdVolume

/-- Nothing of the card has been changed since the board has started. -/
structure Clean (card : UInt32 → Block) (volume : SdVolume) : Prop where
  blocks : volume.blocks = card
  dirty : volume.cacheDirty = false
  mirror : volume.cacheMirrorBlock = 0
  buffer : volume.cacheBlockNumber ≠ noBlock →
    volume.cacheBuffer = card volume.cacheBlockNumber
  allocSearchStart : volume.allocSearchStart = 2

theorem clean_powerOn (volume : SdVolume) : Clean volume.blocks (powerOn volume) where
  blocks := rfl
  dirty := rfl
  mirror := rfl
  buffer hnumber := absurd rfl hnumber
  allocSearchStart := rfl

variable {io : Accesses} {card : UInt32 → Block} {volume : SdVolume} {layout : Layout}

/-- The two FATs of a card agree. -/
def Copied (layout : Layout) (card : UInt32 → Block) : Prop :=
  layout.mirrored = true → ∀ block, layout.First block →
    card (block + layout.blocksPerFat) = card block

theorem Clean.coherent (hclean : Clean card volume) (hcopied : Copied layout card) :
    Coherent layout volume where
  clean _ hnumber := by
    rw [hclean.blocks]
    exact hclean.buffer hnumber
  pending hmirror := absurd hclean.mirror hmirror
  waiting hdirty := by
    rw [hclean.dirty] at hdirty
    cases hdirty
  logical hdirty := by
    rw [hclean.dirty] at hdirty
    cases hdirty
  copies hmirrored block hfirst _ := by
    rw [hclean.blocks]
    exact hcopied hmirrored block hfirst

theorem Clean.startable (hclean : Clean card volume) : Startable layout volume := by
  have htwo : volume.allocSearchStart.toNat = 2 := by
    rw [hclean.allocSearchStart]
    rfl
  exact ⟨htwo.ge, by omega⟩

theorem Clean.accessed (hclean : Clean card volume) (accesses : Nat) :
    Clean card { volume with accesses := accesses } :=
  ⟨hclean.blocks, hclean.dirty, hclean.mirror, hclean.buffer, hclean.allocSearchStart⟩

theorem ends_cacheRawBlock_clean (hclean : Clean card volume) {block : UInt32}
    (hvalid : block = volume.cacheBlockNumber → block ≠ noBlock) :
    Ends (cacheRawBlock io block .forRead) volume
      (fun _ after => Clean card after ∧ after.cacheBlockNumber = block ∧
        after.cacheBuffer = card block)
      (fun after => Clean card after ∧ Broken io) := by
  rw [cacheRawBlock, loadBlock, ends_bind, ends_bind, ends_get]
  by_cases hcached : volume.cacheBlockNumber = block
  · rw [if_neg (not_not_intro hcached), ends_pure]
    refine ⟨hclean, hcached, ?_⟩
    rw [hclean.buffer (by rw [hcached]; exact hvalid hcached.symm), hcached]
  · rw [if_pos hcached, ends_bind, cacheFlush, ends_bind, ends_get, hclean.dirty,
      if_neg Bool.false_ne_true, ends_pure, ends_bind, ends_readBlock]
    have hread := hclean.accessed (volume.accesses + 1)
    split
    · rw [ends_modify, hclean.blocks]
      exact ⟨⟨rfl, hread.dirty, hread.mirror, fun _ => rfl, hread.allocSearchStart⟩,
        rfl, rfl⟩
    · next hbad =>
      exact ⟨hread, _, _, Bool.eq_false_iff.mpr hbad⟩

/-- Where a partition starts. -/
def partitionOf (card : UInt32 → Block) (part : UInt8) : Option UInt32 :=
  if part = 0 then some 0
  else if part > 4 then none
  else partitionStart (card 0) part

theorem partitionStart_ne_zero {block : Block} {part : UInt8} {first : UInt32}
    (hstart : partitionStart block part = some first) : first ≠ 0 := by
  unfold partitionStart at hstart
  dsimp only at hstart
  split at hstart
  · cases hstart
  · next hvalid =>
    cases hstart
    exact fun hzero => hvalid (.inr (.inr hzero))

theorem ends_startBlock (hclean : Clean card volume)
    (hnumber : volume.cacheBlockNumber = noBlock) (part : UInt8) :
    Ends (startBlock io part) volume
      (fun start after => Clean card after ∧ partitionOf card part = some start ∧
        (start = after.cacheBlockNumber → start ≠ noBlock))
      (fun after => Clean card after ∧ (Broken io ∨ partitionOf card part = none)) := by
  rw [startBlock, partitionOf]
  by_cases hfloppy : part = 0
  · rw [if_pos hfloppy, if_pos hfloppy, ends_pure, hnumber]
    exact ⟨hclean, rfl, fun _ => by decide⟩
  · rw [if_neg hfloppy, if_neg hfloppy]
    by_cases hlarge : part > 4
    · rw [if_pos hlarge, if_pos hlarge, ends_failure]
      exact ⟨hclean, .inr rfl⟩
    · rw [if_neg hlarge, if_neg hlarge]
      have hvalid : (0 : UInt32) = volume.cacheBlockNumber → (0 : UInt32) ≠ noBlock :=
        fun _ => by decide
      apply (ends_cacheRawBlock_clean hclean hvalid).bind
      · rintro - after ⟨hafter, hnumber', hbuffer⟩
        rw [ends_bind, ends_get, hbuffer]
        cases hstart : partitionStart (card 0) part with
        | none => exact ⟨hafter, .inr rfl⟩
        | some first =>
            refine ⟨hafter, rfl, fun hsame => ?_⟩
            exact absurd (hsame.trans hnumber') (partitionStart_ne_zero hstart)
      · rintro after ⟨hafter, hbroken⟩
        exact ⟨hafter, .inl hbroken⟩

/-- What the card says of a partition. -/
def formatOf (card : UInt32 → Block) (part : UInt8) : Option (Option Layout) :=
  (partitionOf card part).bind fun start => bootSector start (card start)

theorem formatOf_none_iff {part : UInt8} : formatOf card part = none ↔
    partitionOf card part = none ∨
      ∃ start, partitionOf card part = some start ∧ Refused (card start) := by
  rw [formatOf]
  cases hpart : partitionOf card part with
  | none =>
      rw [Option.bind_none]
      exact ⟨fun _ => .inl rfl, fun _ => rfl⟩
  | some start =>
      rw [Option.bind_some, bootSector_none_iff]
      refine ⟨fun hrefused => .inr ⟨start, rfl, hrefused⟩, ?_⟩
      rintro (hnone | ⟨other, hother, hrefused⟩)
      · cases hnone
      · cases hother
        exact hrefused

/-- `init` returns what the boot sector of the partition says, or an access has
failed, or there is no valid volume. -/
theorem ends_init (hclean : Clean card volume)
    (hnumber : volume.cacheBlockNumber = noBlock) (part : UInt8) :
    Ends (init io part) volume
      (fun format after => Clean card after ∧ formatOf card part = some format)
      (fun after => Clean card after ∧ (Broken io ∨ formatOf card part = none)) := by
  rw [init, formatOf]
  apply (ends_startBlock hclean hnumber part).bind
  · rintro start started ⟨hstarted, hpart, hvalid⟩
    rw [hpart, Option.bind_some, readBootSector]
    apply (ends_cacheRawBlock_clean hstarted hvalid).bind
    · rintro - after ⟨hafter, -, hbuffer⟩
      rw [ends_bind, ends_get, hbuffer]
      cases hformat : bootSector start (card start) with
      | none => exact ⟨hafter, .inr rfl⟩
      | some format => exact ⟨hafter, rfl⟩
    · rintro after ⟨hafter, hbroken⟩
      exact ⟨hafter, .inl hbroken⟩
  · rintro after ⟨hafter, hreason⟩
    refine ⟨hafter, hreason.imp_right fun hnone => ?_⟩
    rw [hnone, Option.bind_none]

theorem Clean.memory (hclean : Clean card volume) {block : UInt32}
    (hvalid : block ≠ noBlock) : volume.memory block = card block := by
  by_cases hcached : volume.cacheBlockNumber = block
  · subst hcached
    rw [memory_cached rfl, hclean.buffer hvalid]
  · rw [memory_uncached hcached, hclean.blocks]

theorem local_init (part : UInt8) : Local accesses fun io => init io part := by
  have hstart : Local accesses fun io => startBlock io part := by
    refine .ite (local_pure _) (.ite local_failure ?_)
    refine (local_cacheRawBlock 0 .forRead).bind fun _ => local_get.bind fun volume => ?_
    cases partitionStart volume.cacheBuffer part with
    | none => exact local_failure
    | some firstSector => exact local_pure _
  refine hstart.bind fun start => (local_cacheRawBlock start .forRead).bind fun _ => ?_
  refine local_get.bind fun volume => ?_
  cases bootSector start volume.cacheBuffer with
  | none => exact local_failure
  | some layout => exact local_pure _

structure Prepared (card : UInt32 → Block) (part : UInt8) (layout : Layout)
    (after : SdVolume) : Prop where
  startable : Startable layout after
  memory : ∀ block, layout.Logical block → after.memory block = card block
  sound : ∀ start, partitionOf card part = some start →
    Formatted start (card start) layout → layout.Sound
  coherent : Copied layout card → Coherent layout after

theorem Clean.prepared (hclean : Clean card volume) {part : UInt8}
    (hformat : formatOf card part = some (some layout)) :
    Prepared card part layout volume where
  startable := hclean.startable
  memory _ hlogical := hclean.memory hlogical.1
  sound start hpart hformatted := by
    rw [formatOf, hpart, Option.bind_some] at hformat
    exact bootSector_sound hformat hformatted
  coherent := hclean.coherent

/-- On a board that starts, `init` returns what the boot sector of the partition says,
or an access of its own fails or there is no volume; and it leaves the card as it is.
Where the boot sector describes the volume, every later call finds what it relies on. -/
theorem init_prepares {volume after : SdVolume} {part : UInt8}
    {answer : Option (Option Layout)}
    (hinit : observe (init io part) answer (powerOn volume) = some after) :
    after.blocks = volume.blocks ∧
      match answer with
      | none => BrokenIn io volume.accesses after.accesses ∨
          partitionOf volume.blocks part = none ∨
          ∃ start, partitionOf volume.blocks part = some start ∧
            Refused (volume.blocks start)
      | some format => formatOf volume.blocks part = some format ∧
          ∀ layout, format = some layout → Prepared volume.blocks part layout after := by
  have hrun := (local_init part).within (observe_some_iff.mp hinit)
  rw [← observe_some_iff] at hrun
  obtain ⟨hreturned, hfailed⟩ :=
    (ends_init (clean_powerOn volume) rfl part).observed hrun
  cases answer with
  | none =>
      obtain ⟨hclean, hreason⟩ := hfailed rfl
      exact ⟨hclean.blocks, hreason.imp broken_within_iff.mp formatOf_none_iff.mp⟩
  | some format =>
      obtain ⟨hclean, hformat⟩ := hreturned format rfl
      refine ⟨hclean.blocks, hformat, ?_⟩
      rintro layout rfl
      exact hclean.prepared hformat

end SdVolume

end SenseBox.SD
