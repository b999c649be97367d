import SenseBox.SD.Volume
import SenseBox.Data.Failing
import Mathlib.Logic.Function.Basic

namespace SenseBox.SD

open SenseBox.Data

/-! The blocks of a card, and the cache of one block that `SdVolume` keeps in front
of them. -/

/-- The bytes of a block are those at the first 512 places. -/
abbrev Block := Nat → UInt8

/-- What `SdVolume::init` finds out about a volume. -/
structure Layout where
  fatType : FatType
  fatCount : UInt8
  clusterSizeShift : UInt8
  blocksPerFat : UInt32
  clusterCount : UInt32
  fatStartBlock : UInt32
  rootDirEntryCount : UInt16
  rootDirStart : UInt32
  dataStartBlock : UInt32
  deriving DecidableEq

/-- The card with the cache, and the other variables of an `SdVolume`; `accesses`
counts the accesses of the card. -/
structure SdVolume where
  blocks : UInt32 → Block
  cacheBlockNumber : UInt32
  cacheBuffer : Block
  cacheDirty : Bool
  cacheMirrorBlock : UInt32
  allocSearchStart : UInt32
  accesses : Nat

def noBlock : UInt32 := 0xFFFFFFFF

/-- Which accesses of the card succeed: each has its number, and the block that it
is of. -/
abbrev Accesses := Nat → UInt32 → Bool

namespace SdVolume

variable (io : Accesses)

def access (block : UInt32) : Failing SdVolume Unit := do
  let volume ← get
  set { volume with accesses := volume.accesses + 1 }
  if io volume.accesses block then pure () else failure

def readBlock (block : UInt32) : Failing SdVolume Block := do
  access io block
  let volume ← get
  return volume.blocks block

def writeBlock (block : UInt32) (data : Block) : Failing SdVolume Unit := do
  access io block
  modify fun volume =>
    { volume with blocks := Function.update volume.blocks block data }

def flushMirror : Failing SdVolume Unit := do
  let volume ← get
  if volume.cacheMirrorBlock ≠ 0 then
    writeBlock io volume.cacheMirrorBlock volume.cacheBuffer
    modify fun volume => { volume with cacheMirrorBlock := 0 }
  else return

def cacheFlush : Failing SdVolume Unit := do
  let volume ← get
  if volume.cacheDirty then
    writeBlock io volume.cacheBlockNumber volume.cacheBuffer
    flushMirror io
    modify fun volume => { volume with cacheDirty := false }
  else return

inductive CacheAction where
  | forRead
  | forWrite
  deriving DecidableEq

def cacheSetDirty (volume : SdVolume) : SdVolume := { volume with cacheDirty := true }

def loadBlock (blockNumber : UInt32) : Failing SdVolume Unit := do
  let volume ← get
  if volume.cacheBlockNumber ≠ blockNumber then
    cacheFlush io
    let data ← readBlock io blockNumber
    modify fun volume =>
      { volume with cacheBuffer := data, cacheBlockNumber := blockNumber }
  else return

def cacheRawBlock (blockNumber : UInt32) (action : CacheAction) :
    Failing SdVolume Unit := do
  loadBlock io blockNumber
  match action with
  | .forRead => return
  | .forWrite => modify cacheSetDirty

def cacheZeroBlock (blockNumber : UInt32) : Failing SdVolume Unit := do
  cacheFlush io
  modify fun volume =>
    { volume with
      cacheBuffer := fun _ => 0
      cacheBlockNumber := blockNumber
      cacheDirty := true }

end SdVolume

namespace Layout

variable (layout : Layout)

def mirrored : Bool := layout.fatCount > 1

def First (block : UInt32) : Prop :=
  layout.fatStartBlock.toNat ≤ block.toNat ∧
    block.toNat < layout.fatStartBlock.toNat + layout.blocksPerFat.toNat

def Second (block : UInt32) : Prop :=
  layout.mirrored = true ∧
    layout.fatStartBlock.toNat + layout.blocksPerFat.toNat ≤ block.toNat ∧
    block.toNat < layout.fatStartBlock.toNat + 2 * layout.blocksPerFat.toNat

/-- The blocks that the library reads back: all but the copy of the FAT. -/
def Logical (block : UInt32) : Prop := block ≠ noBlock ∧ ¬ layout.Second block

/-- The blocks that the library changes without a copy. -/
def Plain (block : UInt32) : Prop := layout.Logical block ∧ ¬ layout.First block

def entriesPerBlock : Nat :=
  match layout.fatType with
  | .fat16 => 256
  | .fat32 => 128

/-- The first value that ends a chain. -/
def eocMin : UInt32 :=
  match layout.fatType with
  | .fat16 => 0xFFF8
  | .fat32 => 0x0FFFFFF8

/-- A formatted volume: the FATs have room for all clusters and lie before them,
and the card has no more blocks than a block number counts. -/
structure Sound : Prop where
  fats : 0 < layout.fatCount.toNat ∧
    layout.fatStartBlock.toNat +
      layout.fatCount.toNat * layout.blocksPerFat.toNat ≤
        layout.dataStartBlock.toNat
  shift : layout.clusterSizeShift.toNat ≤ 7
  data : layout.dataStartBlock.toNat +
    layout.clusterCount.toNat * 2 ^ layout.clusterSizeShift.toNat < 2 ^ 32
  entries : layout.clusterCount.toNat + 2 ≤
    layout.blocksPerFat.toNat * layout.entriesPerBlock
  count : layout.clusterCount.toNat + 1 < layout.eocMin.toNat

end Layout

namespace SdVolume

def memory (volume : SdVolume) (block : UInt32) : Block :=
  if block = volume.cacheBlockNumber then volume.cacheBuffer
  else volume.blocks block

/-- A clean cache holds a block of the card.  A changed block of the FAT waits to be
written twice, and everywhere else the two FATs agree. -/
structure Coherent (layout : Layout) (volume : SdVolume) : Prop where
  clean : volume.cacheDirty = false → volume.cacheBlockNumber ≠ noBlock →
    volume.cacheBuffer = volume.blocks volume.cacheBlockNumber
  pending : volume.cacheMirrorBlock ≠ 0 → volume.cacheDirty = true ∧
    layout.mirrored = true ∧ layout.First volume.cacheBlockNumber ∧
    volume.cacheMirrorBlock = volume.cacheBlockNumber + layout.blocksPerFat
  waiting : volume.cacheDirty = true → layout.mirrored = true →
    layout.First volume.cacheBlockNumber → volume.cacheMirrorBlock ≠ 0
  logical : volume.cacheDirty = true → ¬ layout.Second volume.cacheBlockNumber
  copies : layout.mirrored = true → ∀ block, layout.First block →
    (volume.cacheDirty = true → block ≠ volume.cacheBlockNumber) →
    volume.blocks (block + layout.blocksPerFat) = volume.blocks block

/-- The same is read of every block that is read at all. -/
structure Same (layout : Layout) (before after : SdVolume) : Prop where
  memory : ∀ block, layout.Logical block →
    after.memory block = before.memory block
  allocSearchStart : after.allocSearchStart = before.allocSearchStart

variable {layout : Layout}

theorem Same.refl (volume : SdVolume) : Same layout volume volume :=
  ⟨fun _ _ => rfl, rfl⟩

theorem Same.trans {first second third : SdVolume} (hfirst : Same layout first second)
    (hsecond : Same layout second third) : Same layout first third where
  memory block hblock := (hsecond.memory block hblock).trans (hfirst.memory block hblock)
  allocSearchStart := hsecond.allocSearchStart.trans hfirst.allocSearchStart

variable {io : Accesses}

section Accesses

variable {volume : SdVolume} {failed : SdVolume → Prop}

theorem ends_access {block : UInt32} {returned : Unit → SdVolume → Prop} :
    Ends (access io block) volume returned failed ↔
      if io volume.accesses block = true
      then returned () { volume with accesses := volume.accesses + 1 }
      else failed { volume with accesses := volume.accesses + 1 } := by
  simp only [access, ends_bind, ends_get, ends_set]
  split <;> simp

theorem ends_readBlock {block : UInt32} {returned : Block → SdVolume → Prop} :
    Ends (readBlock io block) volume returned failed ↔
      if io volume.accesses block = true
      then returned (volume.blocks block)
        { volume with accesses := volume.accesses + 1 }
      else failed { volume with accesses := volume.accesses + 1 } := by
  simp only [readBlock, ends_bind, ends_access, ends_get, ends_pure]

theorem ends_writeBlock {block : UInt32} {data : Block}
    {returned : Unit → SdVolume → Prop} :
    Ends (writeBlock io block data) volume returned failed ↔
      if io volume.accesses block = true
      then returned ()
        { volume with
          blocks := Function.update volume.blocks block data
          accesses := volume.accesses + 1 }
      else failed { volume with accesses := volume.accesses + 1 } := by
  simp only [writeBlock, ends_bind, ends_access, ends_modify]

end Accesses

end SdVolume

namespace Layout

variable {layout : Layout}

theorem Sound.first_lt (hsound : layout.Sound) (hmirrored : layout.mirrored = true) :
    layout.fatStartBlock.toNat + 2 * layout.blocksPerFat.toNat < 2 ^ 32 := by
  have hcount : 2 ≤ layout.fatCount.toNat := by
    have htwo : layout.fatCount > 1 := by simpa [mirrored] using hmirrored
    exact UInt8.lt_iff_toNat_lt.mp htwo
  have hfats := hsound.fats.2
  have hdata := hsound.data
  have hmul := Nat.mul_le_mul_right layout.blocksPerFat.toNat hcount
  omega

theorem Sound.toNat_mirror (hsound : layout.Sound)
    (hmirrored : layout.mirrored = true) {block : UInt32}
    (hblock : layout.First block) :
    (block + layout.blocksPerFat).toNat =
      block.toNat + layout.blocksPerFat.toNat := by
  have hlt := hsound.first_lt hmirrored
  have hend := hblock.2
  rw [UInt32.toNat_add, Nat.mod_eq_of_lt (by omega)]

theorem Sound.second_mirror (hsound : layout.Sound)
    (hmirrored : layout.mirrored = true) {block : UInt32}
    (hblock : layout.First block) : layout.Second (block + layout.blocksPerFat) := by
  obtain ⟨hlow, hhigh⟩ := hblock
  refine ⟨hmirrored, ?_⟩
  rw [hsound.toNat_mirror hmirrored ⟨hlow, hhigh⟩]
  omega

theorem First.not_second {block : UInt32} (hblock : layout.First block) :
    ¬ layout.Second block := by
  rintro ⟨-, hlow, -⟩
  have hhigh := hblock.2
  omega

end Layout

namespace SdVolume

variable {layout : Layout} {io : Accesses}

def Broken (io : Accesses) : Prop := ∃ place block, io place block = false

structure Kept (layout : Layout) (before after : SdVolume) : Prop where
  coherent : Coherent layout after
  same : Same layout before after

theorem Kept.trans {first second third : SdVolume} (hfirst : Kept layout first second)
    (hsecond : Kept layout second third) : Kept layout first third :=
  ⟨hsecond.coherent, hfirst.same.trans hsecond.same⟩

theorem memory_update (volume : SdVolume) {block : UInt32} {data : Block}
    {other : UInt32} (hdata : other = block → data = volume.memory other) :
    ({ volume with blocks := Function.update volume.blocks block data }).memory other =
      volume.memory other := by
  unfold memory at hdata ⊢
  dsimp only
  split
  · rfl
  · next hother =>
    rw [if_neg hother] at hdata
    by_cases hblock : other = block
    · rw [hblock] at hdata ⊢
      rw [Function.update_self]
      exact hdata rfl
    · rw [Function.update_of_ne hblock]

theorem Coherent.accessed {volume : SdVolume} (hcoherent : Coherent layout volume)
    (accesses : Nat) : Coherent layout { volume with accesses := accesses } :=
  ⟨hcoherent.clean, hcoherent.pending, hcoherent.waiting, hcoherent.logical,
    hcoherent.copies⟩

theorem Coherent.writtenBack (hsound : layout.Sound) {volume : SdVolume}
    (hcoherent : Coherent layout volume) (hdirty : volume.cacheDirty = true) :
    Coherent layout
      { volume with
        blocks := Function.update volume.blocks volume.cacheBlockNumber
          volume.cacheBuffer } where
  clean hclean := absurd (hclean.symm.trans hdirty) Bool.false_ne_true
  pending := hcoherent.pending
  waiting := hcoherent.waiting
  logical := hcoherent.logical
  copies hmirrored block hfirst hother := by
    have hblock : block ≠ volume.cacheBlockNumber := hother hdirty
    have hcopy : block + layout.blocksPerFat ≠ volume.cacheBlockNumber := by
      intro hsecond
      apply hcoherent.logical hdirty
      rw [← hsecond]
      exact hsound.second_mirror hmirrored hfirst
    dsimp only
    rw [Function.update_of_ne hblock, Function.update_of_ne hcopy]
    exact hcoherent.copies hmirrored block hfirst fun _ => hblock

theorem Coherent.cleaned {volume : SdVolume} (hcoherent : Coherent layout volume)
    (hback : volume.blocks volume.cacheBlockNumber = volume.cacheBuffer)
    (hmirror : volume.cacheMirrorBlock = 0) :
    Coherent layout { volume with cacheDirty := false } where
  clean _ _ := hback.symm
  pending hpending := absurd hmirror hpending
  waiting hdirty := by cases hdirty
  logical hdirty := by cases hdirty
  copies hmirrored block hfirst _ := by
    apply hcoherent.copies hmirrored block hfirst
    rintro hdirty rfl
    exact hcoherent.waiting hdirty hmirrored hfirst hmirror

theorem Coherent.mirroredBack (hsound : layout.Sound) {volume : SdVolume}
    (hcoherent : Coherent layout volume)
    (hback : volume.blocks volume.cacheBlockNumber = volume.cacheBuffer)
    (hmirror : volume.cacheMirrorBlock ≠ 0) :
    Coherent layout
      { volume with
        blocks := Function.update volume.blocks volume.cacheMirrorBlock
          volume.cacheBuffer
        cacheMirrorBlock := 0
        cacheDirty := false } := by
  obtain ⟨-, hmirrored, hfirst, hcopy⟩ := hcoherent.pending hmirror
  have hsecond : layout.Second volume.cacheMirrorBlock := by
    rw [hcopy]
    exact hsound.second_mirror hmirrored hfirst
  have hapart : ∀ block, layout.First block → block ≠ volume.cacheMirrorBlock := by
    rintro block hblock rfl
    exact hblock.not_second hsecond
  refine ⟨fun _ _ => ?_, fun hpending => absurd rfl hpending, nofun, nofun, ?_⟩
  · dsimp only
    rw [Function.update_of_ne (hapart _ hfirst), hback]
  · intro _ block hblock _
    dsimp only
    rw [Function.update_of_ne (hapart _ hblock)]
    by_cases hcached : block = volume.cacheBlockNumber
    · rw [hcached, hcopy, Function.update_self, hback]
    · have hother : block + layout.blocksPerFat ≠ volume.cacheMirrorBlock := by
        rw [hcopy]
        exact fun hsame => hcached ((UInt32.add_left_inj _).mp hsame)
      rw [Function.update_of_ne hother]
      exact hcoherent.copies hmirrored block hblock fun _ => hcached

theorem Same.writtenBack {volume : SdVolume} :
    Same layout volume
      { volume with
        blocks := Function.update volume.blocks volume.cacheBlockNumber
          volume.cacheBuffer } where
  memory block _ := by
    apply memory_update volume
    intro hblock
    rw [SdVolume.memory, if_pos hblock]
  allocSearchStart := rfl

/-- The copy is written, and the block is clean after that. -/
theorem ends_flushMirror (hsound : layout.Sound) {volume : SdVolume}
    (hcoherent : Coherent layout volume)
    (hback : volume.blocks volume.cacheBlockNumber = volume.cacheBuffer) :
    Ends (flushMirror io) volume
      (fun _ after => Kept layout volume { after with cacheDirty := false } ∧
        after.cacheBlockNumber = volume.cacheBlockNumber ∧
        after.cacheBuffer = volume.cacheBuffer)
      (fun after => Kept layout volume after ∧ Broken io) := by
  rw [flushMirror, ends_bind, ends_get]
  by_cases hmirror : volume.cacheMirrorBlock = 0
  · rw [if_neg (not_not_intro hmirror), ends_pure]
    exact ⟨⟨hcoherent.cleaned hback hmirror, ⟨fun _ _ => rfl, rfl⟩⟩, rfl, rfl⟩
  · rw [if_pos hmirror, ends_bind, ends_writeBlock]
    split
    · rw [ends_modify]
      obtain ⟨-, hmirrored, hfirst, hcopy⟩ := hcoherent.pending hmirror
      have hcoherent' := (hcoherent.mirroredBack hsound hback hmirror).accessed
        (volume.accesses + 1)
      refine ⟨⟨hcoherent', ⟨fun block hblock => ?_, rfl⟩⟩, rfl, rfl⟩
      refine memory_update volume fun hmirrorBlock => ?_
      have hsecond := hsound.second_mirror hmirrored hfirst
      rw [← hcopy, ← hmirrorBlock] at hsecond
      exact absurd hsecond hblock.2
    · next hfails =>
      exact ⟨⟨hcoherent.accessed _, ⟨fun _ _ => rfl, rfl⟩⟩,
        volume.accesses, _, Bool.eq_false_iff.mpr hfails⟩

/-- A flush makes the cache clean, or the card is broken; either way nothing else is
read than before. -/
theorem ends_cacheFlush (hsound : layout.Sound) {volume : SdVolume}
    (hcoherent : Coherent layout volume) :
    Ends (cacheFlush io) volume
      (fun _ after => Kept layout volume after ∧ after.cacheDirty = false ∧
        after.cacheBlockNumber = volume.cacheBlockNumber ∧
        after.cacheBuffer = volume.cacheBuffer)
      (fun after => Kept layout volume after ∧ Broken io) := by
  rw [cacheFlush, ends_bind, ends_get]
  cases hdirty : volume.cacheDirty with
  | false =>
      rw [if_neg Bool.false_ne_true, ends_pure]
      exact ⟨⟨hcoherent, .refl volume⟩, hdirty, rfl, rfl⟩
  | true =>
      rw [if_pos rfl, ends_bind, ends_writeBlock]
      split
      · have hback := (hcoherent.writtenBack hsound hdirty).accessed
          (volume.accesses + 1)
        have hsame : Same layout volume _ := .writtenBack
        apply (ends_flushMirror hsound hback (Function.update_self _ _ _)).bind
        · rintro - after ⟨hkept, hnumber, hbuffer⟩
          rw [ends_modify]
          exact ⟨⟨hkept.coherent, hsame.trans ⟨hkept.same.memory, hkept.same.2⟩⟩,
            rfl, hnumber, hbuffer⟩
        · rintro after ⟨hkept, hbroken⟩
          exact ⟨⟨hkept.coherent, hsame.trans ⟨hkept.same.memory, hkept.same.2⟩⟩,
            hbroken⟩
      · next hfails =>
        exact ⟨⟨hcoherent.accessed _, ⟨fun _ _ => rfl, rfl⟩⟩,
          volume.accesses, _, Bool.eq_false_iff.mpr hfails⟩

/-! Loading and storing blocks. -/

theorem memory_cached {volume : SdVolume} {block : UInt32}
    (hcached : volume.cacheBlockNumber = block) :
    volume.memory block = volume.cacheBuffer := by
  rw [memory, if_pos hcached.symm]

theorem memory_uncached {volume : SdVolume} {block : UInt32}
    (hcached : volume.cacheBlockNumber ≠ block) :
    volume.memory block = volume.blocks block := by
  rw [memory, if_neg hcached.symm]

theorem Coherent.memory_clean {volume : SdVolume} (hcoherent : Coherent layout volume)
    (hclean : volume.cacheDirty = false) {block : UInt32} (hvalid : block ≠ noBlock) :
    volume.memory block = volume.blocks block := by
  by_cases hcached : volume.cacheBlockNumber = block
  · subst hcached
    rw [memory_cached rfl, hcoherent.clean hclean hvalid]
  · exact memory_uncached hcached

theorem Coherent.mirror_clean {volume : SdVolume} (hcoherent : Coherent layout volume)
    (hclean : volume.cacheDirty = false) : volume.cacheMirrorBlock = 0 := by
  by_contra hpending
  have hdirty := (hcoherent.pending hpending).1
  exact Bool.false_ne_true (hclean.symm.trans hdirty)

theorem Coherent.copies_clean {volume : SdVolume} (hcoherent : Coherent layout volume)
    (hclean : volume.cacheDirty = false) (hmirrored : layout.mirrored = true)
    {block : UInt32} (hfirst : layout.First block) :
    volume.blocks (block + layout.blocksPerFat) = volume.blocks block := by
  apply hcoherent.copies hmirrored block hfirst
  intro hdirty
  exact absurd (hclean.symm.trans hdirty) Bool.false_ne_true

/-- The cache holds the block, with what is read of it. -/
structure Loaded (layout : Layout) (block : UInt32) (before after : SdVolume) :
    Prop extends Kept layout before after where
  number : after.cacheBlockNumber = block
  buffer : after.cacheBuffer = before.memory block

theorem ends_loadBlock (hsound : layout.Sound) {volume : SdVolume}
    (hcoherent : Coherent layout volume) {block : UInt32}
    (hlogical : layout.Logical block) :
    Ends (loadBlock io block) volume
      (fun _ after => Loaded layout block volume after)
      (fun after => Kept layout volume after ∧ Broken io) := by
  rw [loadBlock, ends_bind, ends_get]
  by_cases hcached : volume.cacheBlockNumber = block
  · rw [if_neg (not_not_intro hcached), ends_pure]
    exact ⟨⟨hcoherent, .refl volume⟩, hcached, (memory_cached hcached).symm⟩
  · rw [if_pos hcached]
    apply (ends_cacheFlush hsound hcoherent).bind
    · rintro - flushed ⟨hkept, hclean, hnumber, -⟩
      rw [ends_bind, ends_readBlock]
      have hother : flushed.cacheBlockNumber ≠ block := by
        rw [hnumber]
        exact hcached
      have hread := hkept.same.memory block hlogical
      rw [memory_uncached hother] at hread
      split
      · rw [ends_modify]
        have hmirror := hkept.coherent.mirror_clean hclean
        refine ⟨⟨⟨fun _ _ => rfl, absurd hmirror, ?_, ?_, ?_⟩,
          ⟨?_, hkept.same.allocSearchStart⟩⟩, rfl, hread⟩
        · exact fun hdirty => absurd (hclean.symm.trans hdirty) Bool.false_ne_true
        · exact fun hdirty => absurd (hclean.symm.trans hdirty) Bool.false_ne_true
        · exact fun hmirrored other hfirst _ =>
            hkept.coherent.copies_clean hclean hmirrored hfirst
        · intro other hother'
          rw [← hkept.same.memory other hother',
            hkept.coherent.memory_clean hclean hother'.1]
          by_cases hblock : block = other
          · rw [hblock, memory_cached rfl]
          · rw [memory_uncached hblock]
      · next hfails =>
        exact ⟨⟨hkept.coherent.accessed _, hkept.same.trans ⟨fun _ _ => rfl, rfl⟩⟩,
          flushed.accesses, _, Bool.eq_false_iff.mpr hfails⟩
    · exact fun _ hfailed => hfailed

theorem ends_cacheRawBlock_read (hsound : layout.Sound) {volume : SdVolume}
    (hcoherent : Coherent layout volume) {block : UInt32}
    (hlogical : layout.Logical block) :
    Ends (cacheRawBlock io block .forRead) volume
      (fun _ after => Loaded layout block volume after)
      (fun after => Kept layout volume after ∧ Broken io) :=
  (ends_loadBlock hsound hcoherent hlogical).bind (fun _ _ hloaded => hloaded)
    fun _ hfailed => hfailed

theorem Coherent.setDirty {volume : SdVolume} (hcoherent : Coherent layout volume)
    (hplain : layout.Plain volume.cacheBlockNumber) :
    Coherent layout volume.cacheSetDirty where
  clean hclean := by cases hclean
  pending hpending := ⟨rfl, (hcoherent.pending hpending).2⟩
  waiting _ _ hfirst := absurd hfirst hplain.2
  logical _ := hplain.1.2
  copies hmirrored block hfirst hother :=
    hcoherent.copies hmirrored block hfirst fun _ => hother rfl

theorem ends_cacheRawBlock_write (hsound : layout.Sound) {volume : SdVolume}
    (hcoherent : Coherent layout volume) {block : UInt32}
    (hplain : layout.Plain block) :
    Ends (cacheRawBlock io block .forWrite) volume
      (fun _ after => Loaded layout block volume after ∧ after.cacheDirty = true)
      (fun after => Kept layout volume after ∧ Broken io) := by
  apply (ends_loadBlock hsound hcoherent hplain.1).bind
  · intro _ loaded hloaded
    have hcached : layout.Plain loaded.cacheBlockNumber := by
      rw [hloaded.number]
      exact hplain
    rw [ends_modify]
    exact ⟨⟨⟨hloaded.coherent.setDirty hcached,
      hloaded.same.trans ⟨fun _ _ => rfl, rfl⟩⟩, hloaded.number, hloaded.buffer⟩, rfl⟩
  · exact fun _ hfailed => hfailed

/-- The block has been given the data, and no other block has changed. -/
structure Stored (layout : Layout) (block : UInt32) (data : Block)
    (before after : SdVolume) : Prop where
  coherent : Coherent layout after
  memory : ∀ other, layout.Logical other →
    after.memory other = Function.update before.memory block data other
  allocSearchStart : after.allocSearchStart = before.allocSearchStart

theorem Same.stored {block : UInt32} {data : Block} {first second third : SdVolume}
    (hsame : Same layout first second) (hstored : Stored layout block data second third) :
    Stored layout block data first third where
  coherent := hstored.coherent
  memory other hlogical := by
    rw [hstored.memory other hlogical]
    by_cases hother : other = block
    · rw [hother, Function.update_self, Function.update_self]
    · rw [Function.update_of_ne hother, Function.update_of_ne hother]
      exact hsame.memory other hlogical
  allocSearchStart := hstored.allocSearchStart.trans hsame.allocSearchStart

theorem Coherent.buffered {volume : SdVolume} (hcoherent : Coherent layout volume)
    (hdirty : volume.cacheDirty = true) (data : Block) :
    Coherent layout { volume with cacheBuffer := data } where
  clean hclean := absurd (hclean.symm.trans hdirty) Bool.false_ne_true
  pending := hcoherent.pending
  waiting := hcoherent.waiting
  logical := hcoherent.logical
  copies := hcoherent.copies

theorem memory_buffered (volume : SdVolume) (data : Block) (other : UInt32) :
    ({ volume with cacheBuffer := data }).memory other =
      Function.update volume.memory volume.cacheBlockNumber data other := by
  by_cases hother : other = volume.cacheBlockNumber
  · rw [hother, Function.update_self, memory_cached rfl]
  · rw [Function.update_of_ne hother]
    unfold memory
    rw [if_neg hother, if_neg hother]

/-- Changing the bytes of a block that the cache holds for writing. -/
theorem Coherent.stored {volume : SdVolume} (hcoherent : Coherent layout volume)
    (hdirty : volume.cacheDirty = true) {block : UInt32}
    (hcached : volume.cacheBlockNumber = block) (data : Block) :
    Stored layout block data volume { volume with cacheBuffer := data } where
  coherent := hcoherent.buffered hdirty data
  memory other _ := by
    rw [memory_buffered volume data other, hcached]
  allocSearchStart := rfl

/-- A block that the cache takes over without reading it. -/
theorem ends_cacheFlush_take (hsound : layout.Sound) {volume : SdVolume}
    (hcoherent : Coherent layout volume) {block : UInt32}
    (hplain : layout.Plain block) :
    Ends (cacheFlush io) volume
      (fun _ after => ∀ data, Stored layout block data volume
        { after with
          cacheBuffer := data
          cacheBlockNumber := block
          cacheDirty := true })
      (fun after => Kept layout volume after ∧ Broken io) := by
  apply (ends_cacheFlush hsound hcoherent).imp
  · rintro - after ⟨hkept, hclean, -, -⟩ data
    have hmirror := hkept.coherent.mirror_clean hclean
    refine hkept.same.stored ⟨⟨nofun, absurd hmirror, ?_, ?_, ?_⟩, ?_, rfl⟩
    · exact fun _ _ hfirst => absurd hfirst hplain.2
    · exact fun _ => hplain.1.2
    · exact fun hmirrored other hfirst _ =>
        hkept.coherent.copies_clean hclean hmirrored hfirst
    · intro other hlogical
      by_cases hother : block = other
      · subst hother
        rw [Function.update_self, memory_cached rfl]
      · rw [Function.update_of_ne (Ne.symm hother), memory_uncached hother,
          hkept.coherent.memory_clean hclean hlogical.1]
  · exact fun _ hfailed => hfailed

theorem ends_cacheZeroBlock (hsound : layout.Sound) {volume : SdVolume}
    (hcoherent : Coherent layout volume) {block : UInt32}
    (hplain : layout.Plain block) :
    Ends (cacheZeroBlock io block) volume
      (fun _ after => Stored layout block (fun _ => 0) volume after ∧
        after.cacheBlockNumber = block ∧ after.cacheDirty = true)
      (fun after => Kept layout volume after ∧ Broken io) := by
  apply (ends_cacheFlush_take hsound hcoherent hplain).bind
  · intro _ flushed htake
    exact ⟨htake _, rfl, rfl⟩
  · exact fun _ hfailed => hfailed

end SdVolume

end SenseBox.SD
