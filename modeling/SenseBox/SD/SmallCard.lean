import SenseBox.SD.Mount

namespace SenseBox.SD

open SenseBox.Data
open SdVolume

/-! A small card that has just been formatted: a partition table in its first block, and
after it a volume of FAT16 with as few clusters as there can be. -/

/-- The first partition starts at block 1 and has 4119 blocks. -/
def smallTable : Block := fun place =>
  match place with
  | 454 => 1
  | 458 => 0x17
  | 459 => 0x10
  | _ => 0

/-- Blocks of 512 bytes, one of them for a cluster, one reserved block, two FATs of 16
blocks, 16 entries in the root directory. -/
def smallBoot : Block := fun place =>
  match place with
  | 12 => 2
  | 13 => 1
  | 14 => 1
  | 16 => 2
  | 17 => 16
  | 19 => 0x17
  | 20 => 0x10
  | 22 => 16
  | _ => 0

/-- The first two entries of the FAT, which are those of no cluster. -/
def smallFat : Block := fun place =>
  match place with
  | 0 => 0xF8
  | 1 => 0xFF
  | 2 => 0xFF
  | 3 => 0xFF
  | _ => 0

def smallCard (block : UInt32) : Block :=
  if block = 0 then smallTable
  else if block = 1 then smallBoot
  else if block = 2 ∨ block = 18 then smallFat
  else fun _ => 0

def smallLayout : Layout where
  fatType := .fat16
  fatCount := 2
  clusterSizeShift := 0
  blocksPerFat := 16
  clusterCount := 4085
  fatStartBlock := 2
  rootDirEntryCount := 16
  rootDirStart := 34
  dataStartBlock := 35

def failingAt (bad : Nat) : Accesses := fun place _ => decide (place ≠ bad)

def failingFrom (first : Nat) : Accesses := fun place _ => decide (place < first)

/-- The volume before it is started. -/
def smallPower : SdVolume where
  blocks := smallCard
  cacheBlockNumber := noBlock
  cacheBuffer _ := 0
  cacheDirty := false
  cacheMirrorBlock := 0
  allocSearchStart := 2
  accesses := 0

def blankVolume : SdVolume :=
  { smallPower with
    cacheBlockNumber := 1
    cacheBuffer := smallBoot
    accesses := 2 }

theorem smallBoot_layout : bootSector 1 smallBoot = some (some smallLayout) := by
  have hshift : clusterShift (smallBoot 13) 0 = some 0 :=
    clusterShift_pow (le_refl 0) (Nat.zero_le 7) rfl
  have hvalid : ¬ (bootWord smallBoot 11 ≠ 512 ∨ smallBoot 16 = 0 ∨ bootWord smallBoot 14 = 0 ∨
      smallBoot 13 = 0) := by decide
  rw [bootSector, if_neg hvalid, hshift]
  rfl

/-- The board finds the volume of the card with its first two accesses. -/
theorem smallPower_init {io : Accesses} (hio : ∀ place < 2, io place = fun _ => true) :
    observe (init io 1) (some (some smallLayout)) (powerOn smallPower) = some blankVolume := by
  rw [observe_some_iff]
  have hstart : (startBlock (fun _ _ => true) 1).run.run (powerOn smallPower) =
      (some 1, { smallPower with
        cacheBlockNumber := 0
        cacheBuffer := smallTable
        accesses := 1 }) := rfl
  have hload : (cacheRawBlock (fun _ _ => true) 1 .forRead).run.run
      { smallPower with
        cacheBlockNumber := 0
        cacheBuffer := smallTable
        accesses := 1 } = (some (), blankVolume) := rfl
  have hboot : bootSector 1 blankVolume.cacheBuffer = some (some smallLayout) :=
    smallBoot_layout
  have hget : (get : Failing SdVolume SdVolume).run.run blankVolume =
      (some blankVolume, blankVolume) := rfl
  have hinit : (init (fun _ _ => true) 1).run.run (powerOn smallPower) =
      (some (some smallLayout), blankVolume) := by
    rw [init, run_bind_some hstart, readBootSector, run_bind_some hload, run_bind_some hget,
      hboot]
    rfl
  exact (local_init 1 _ _ _ _ hinit).2 io fun place _ hplace => hio place hplace

theorem smallCard_formatted : Formatted 1 smallBoot smallLayout :=
  ⟨by decide, by decide, by decide, by decide⟩

theorem smallLayout_sound : smallLayout.Sound :=
  bootSector_sound smallBoot_layout smallCard_formatted

/-- The block of the root directory. -/
theorem smallLayout_plain : smallLayout.Plain 34 := by
  unfold Layout.Plain Layout.Logical Layout.First Layout.Second
  decide

/-- Blocks without data. -/
theorem smallCard_blank {block : UInt32} (hlow : 2 < block.toNat) (hother : block ≠ 18) :
    smallCard block = fun _ => 0 := by
  have hapart : ∀ first : UInt32, first.toNat ≤ 2 → block ≠ first := by
    rintro first hfirst rfl
    omega
  rw [smallCard, if_neg (hapart 0 (by decide)), if_neg (hapart 1 (by decide)),
    if_neg (not_or.mpr ⟨hapart 2 (by decide), hother⟩)]

theorem smallCard_copied : Copied smallLayout smallCard := by
  rintro - block ⟨hlow, hhigh⟩
  have hfrom : 2 ≤ block.toNat := hlow
  have hto : block.toNat < 18 := hhigh
  have hcopy : (block + smallLayout.blocksPerFat).toNat = block.toNat + 16 := by
    rw [UInt32.toNat_add]
    exact Nat.mod_eq_of_lt (by change block.toNat + 16 < 2 ^ 32; omega)
  by_cases hfirst : block = 2
  · subst hfirst
    rfl
  · have hnat : block.toNat ≠ 2 := fun hsame => hfirst (UInt32.toNat_inj.mp hsame)
    have hnext : block + smallLayout.blocksPerFat ≠ 18 := by
      intro hsame
      rw [hsame] at hcopy
      have h18 : (18 : UInt32).toNat = 18 := rfl
      omega
    have hthis : block ≠ 18 := by
      rintro rfl
      exact absurd hto (by decide)
    rw [smallCard_blank (by omega) hnext, smallCard_blank (by omega) hthis]

theorem blankVolume_clean : Clean smallCard blankVolume := ⟨rfl, rfl, rfl, fun _ => rfl, rfl⟩

theorem blankVolume_coherent : Coherent smallLayout blankVolume :=
  blankVolume_clean.coherent smallCard_copied

theorem init_prepares_small :
    smallLayout.Sound ∧ Coherent smallLayout blankVolume ∧
      ∀ block, smallLayout.Logical block → blankVolume.memory block = smallCard block := by
  obtain ⟨-, -, hprepared⟩ := init_prepares (smallPower_init fun _ _ => rfl)
  exact ⟨(hprepared smallLayout rfl).sound 1 rfl smallCard_formatted,
    (hprepared smallLayout rfl).coherent smallCard_copied, (hprepared smallLayout rfl).memory⟩

theorem blankVolume_startable : Startable smallLayout blankVolume :=
  blankVolume_clean.startable

theorem blankVolume_memory {block : UInt32} (hvalid : block ≠ noBlock) :
    blankVolume.memory block = smallCard block :=
  blankVolume_clean.memory hvalid

end SenseBox.SD
