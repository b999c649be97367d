import SenseBox.Data.Run
import SenseBox.SD.SmallCard

namespace SenseBox.SD

open SenseBox.Data
open SdVolume

/-! Runs of calls on the cache of a volume. -/

/-- A use of the cache: bytes of blocks, whole blocks of zeros, and entries of the
FAT. -/
inductive CacheCall where
  | read (block : UInt32) (place : Nat)
  | write (block : UInt32) (place : Nat) (byte : UInt8)
  | zero (block : UInt32)
  | fatGet (cluster : UInt32)
  | fatPut (cluster value : UInt32)
  | flush

namespace CacheCall

variable (io : Accesses) (layout : Layout)

def perform : CacheCall → Failing SdVolume UInt32
  | .read block place => do
      cacheRawBlock io block .forRead
      let volume ← get
      return (volume.cacheBuffer place).toUInt32
  | .write block place byte => do
      cacheRawBlock io block .forWrite
      modify fun volume =>
        { volume with cacheBuffer := Function.update volume.cacheBuffer place byte }
      return 0
  | .zero block => do
      cacheZeroBlock io block
      return 0
  | .fatGet cluster => SdVolume.fatGet io layout cluster
  | .fatPut cluster value => do
      SdVolume.fatPut io layout cluster value
      return 0
  | .flush => do
      cacheFlush io
      return 0

/-- The calls that the library makes: on blocks that have no copy, and on entries that
are in the FAT. -/
def Proper : CacheCall → Prop
  | .read block _ => layout.Plain block
  | .write block _ _ => layout.Plain block
  | .zero block => layout.Plain block
  | .fatGet cluster => cluster.toNat ≤ layout.clusterCount.toNat + 1
  | .fatPut cluster _ => layout.Cluster cluster
  | .flush => True

end CacheCall

/-- A card without a cache: the blocks that have no copy, and the entries of the
FAT. -/
structure PlainCard where
  block : UInt32 → Block
  table : UInt32 → UInt32

/-- What a call returns and leaves on a card without a cache. -/
def PlainCard.call (layout : Layout) (card : PlainCard) : CacheCall → UInt32 × PlainCard
  | .read block place => ((card.block block place).toUInt32, card)
  | .write block place byte =>
      (0, { card with
        block := Function.update card.block block
          (Function.update (card.block block) place byte) })
  | .zero block => (0, { card with block := Function.update card.block block fun _ => 0 })
  | .fatGet cluster => (card.table cluster, card)
  | .fatPut cluster value =>
      (0, { card with table := Function.update card.table cluster (layout.kept value) })
  | .flush => (0, card)

/-- Through the cache the volume is this card. -/
structure Cached (layout : Layout) (volume : SdVolume) (card : PlainCard) : Prop where
  coherent : Coherent layout volume
  block : ∀ block, layout.Plain block → volume.memory block = card.block block
  table : volume.fat layout = card.table

variable {layout : Layout} {io : Accesses} {volume after : SdVolume} {card : PlainCard}

namespace Cached

theorem kept (hsound : layout.Sound) (hcached : Cached layout volume card)
    (hkept : Kept layout volume after) : Cached layout after card where
  coherent := hkept.coherent
  block block hplain := (hkept.same.memory block hplain.1).trans (hcached.block block hplain)
  table := (hkept.same.fat hsound).trans hcached.table

theorem stored (hsound : layout.Sound) (hcached : Cached layout volume card)
    {block : UInt32} (hplain : layout.Plain block) {data : Block}
    (hstored : Stored layout block data volume after) :
    Cached layout after { card with block := Function.update card.block block data } where
  coherent := hstored.coherent
  block other hother := by
    dsimp only
    rw [hstored.memory other hother.1, Function.update_apply, Function.update_apply,
      hcached.block other hother]
  table := (hstored.fat hsound hplain).trans hcached.table

/-- A call does what it does on a card without a cache, or an access has failed and
nothing has changed. -/
theorem ends_perform (hsound : layout.Sound) (hcached : Cached layout volume card)
    {call : CacheCall} (hproper : call.Proper layout) :
    Ends (call.perform io layout) volume
      (fun answer after => answer = (card.call layout call).1 ∧
        Cached layout after (card.call layout call).2)
      (fun after => Cached layout after card ∧ Broken io) := by
  have hcoherent := hcached.coherent
  have hfailed : ∀ after, Kept layout volume after ∧ Broken io →
      Cached layout after card ∧ Broken io :=
    fun after ⟨hkept, hbroken⟩ => ⟨hcached.kept hsound hkept, hbroken⟩
  cases call with
  | read block place =>
      have hplain : layout.Plain block := hproper
      apply (ends_cacheRawBlock_read hsound hcoherent hplain.1).bind _ hfailed
      rintro - after hloaded
      rw [ends_bind, ends_get, ends_pure, hloaded.buffer, hcached.block block hplain]
      exact ⟨rfl, hcached.kept hsound hloaded.toKept⟩
  | write block place byte =>
      have hplain : layout.Plain block := hproper
      apply (ends_cacheRawBlock_write hsound hcoherent hplain).bind _ hfailed
      rintro - after ⟨hloaded, hdirty⟩
      rw [ends_bind, ends_modify, ends_pure, hloaded.buffer, hcached.block block hplain]
      have hkept := hcached.kept hsound hloaded.toKept
      exact ⟨rfl, hkept.stored hsound hplain
        (hloaded.coherent.stored hdirty hloaded.number _)⟩
  | zero block =>
      have hplain : layout.Plain block := hproper
      apply (ends_cacheZeroBlock hsound hcoherent hplain).bind _ hfailed
      rintro - after ⟨hstored, -⟩
      rw [ends_pure]
      exact ⟨rfl, hcached.stored hsound hplain hstored⟩
  | fatGet cluster =>
      apply (ends_fatGet hsound hcoherent hproper).imp _ hfailed
      rintro value after ⟨rfl, hkept⟩
      exact ⟨congrFun hcached.table cluster, hcached.kept hsound hkept⟩
  | fatPut cluster value =>
      apply (ends_fatPut hsound hcoherent hproper value).bind _ hfailed
      rintro - after ⟨honly, htable⟩
      rw [ends_pure]
      refine ⟨rfl, honly.coherent, fun block hplain => ?_, ?_⟩
      · exact (honly.plain block hplain).trans (hcached.block block hplain)
      · rw [htable, hcached.table]
        rfl
  | flush =>
      apply (ends_cacheFlush hsound hcoherent).bind _ hfailed
      rintro - after ⟨hkept, -, -⟩
      rw [ends_pure]
      exact ⟨rfl, hcached.kept hsound hkept⟩

end Cached

/-- A call with its answer; `none` is that it has failed. -/
structure CacheStep where
  call : CacheCall
  answer : Option UInt32

def SdVolume.step (io : Accesses) (layout : Layout) (step : CacheStep) :
    SdVolume → Option SdVolume :=
  observe (step.call.perform io layout) step.answer

def PlainCard.step (layout : Layout) (step : CacheStep) (card : PlainCard) :
    Option PlainCard :=
  match step.answer with
  | none => some card
  | some answer =>
      if answer = (card.call layout step.call).1 then some (card.call layout step.call).2
      else none

theorem Cached.step (hsound : layout.Sound) (hcached : Cached layout volume card)
    {step : CacheStep} (hproper : step.call.Proper layout)
    (hstep : SdVolume.step io layout step volume = some after) :
    ∃ next, card.step layout step = some next ∧ Cached layout after next := by
  obtain ⟨hreturned, hfailed⟩ := (hcached.ends_perform hsound hproper).observed hstep
  rw [PlainCard.step]
  cases hanswer : step.answer with
  | none => exact ⟨card, rfl, (hfailed hanswer).1⟩
  | some answer =>
      obtain ⟨rfl, hnext⟩ := hreturned answer hanswer
      exact ⟨_, if_pos rfl, hnext⟩

theorem Cached.run (hsound : layout.Sound) (hcached : Cached layout volume card)
    {steps : List CacheStep} (hproper : ∀ step ∈ steps, step.call.Proper layout)
    (hrun : Data.run (SdVolume.step io layout) steps volume = some after) :
    ∃ next, Data.run (PlainCard.step layout) steps card = some next ∧
      Cached layout after next := by
  have hsimulates := run_simulates (PlainCard.step layout) (Cached layout) id
    (fun step hin _ _ _ hrel hstep => Cached.step hsound hrel (hproper step hin) hstep)
    hcached hrun
  rwa [List.map_id] at hsimulates

/-- The card itself is the card without a cache, and its two FATs agree. -/
structure Written (layout : Layout) (volume : SdVolume) (card : PlainCard) : Prop where
  block : ∀ block, layout.Plain block → volume.blocks block = card.block block
  table : ∀ cluster, cluster.toNat ≤ layout.clusterCount.toNat + 1 →
    layout.entry (volume.blocks (layout.fatBlock cluster)) cluster = card.table cluster
  copies : layout.mirrored = true → ∀ block, layout.First block →
    volume.blocks (block + layout.blocksPerFat) = volume.blocks block

theorem Cached.written (hsound : layout.Sound) (hcached : Cached layout volume card)
    (hclean : volume.cacheDirty = false) : Written layout volume card where
  block block hplain := by
    rw [← hcached.block block hplain,
      hcached.coherent.memory_clean hclean hplain.1.1]
  table cluster hcluster := by
    have hlogical := hsound.logical_of_first (hsound.first_fatBlock hcluster)
    rw [← hcached.table, SdVolume.fat, if_pos hcluster,
      hcached.coherent.memory_clean hclean hlogical.1]
  copies hmirrored block hfirst :=
    hcached.coherent.copies_clean hclean hmirrored hfirst

def smallPlain : PlainCard := ⟨smallCard, blankVolume.fat smallLayout⟩

theorem smallPlain_cached : Cached smallLayout blankVolume smallPlain where
  coherent := blankVolume_coherent
  block _ hplain := blankVolume_memory hplain.1.1
  table := rfl

def entryAndByte : List CacheStep :=
  [⟨.fatPut 5 0x0FFFFFFF, some 0⟩, ⟨.write 34 0 7, none⟩, ⟨.fatGet 5, some 0xFFFF⟩,
    ⟨.write 34 0 7, some 0⟩]

theorem entryAndByte_proper : ∀ step ∈ entryAndByte, step.call.Proper smallLayout := by
  intro step hstep
  simp only [entryAndByte, List.mem_cons, List.not_mem_nil, or_false] at hstep
  rcases hstep with rfl | rfl | rfl | rfl
  · exact (⟨by decide, by decide⟩ : smallLayout.Cluster 5)
  · exact smallLayout_plain
  · exact (by decide : (5 : UInt32).toNat ≤ smallLayout.clusterCount.toNat + 1)
  · exact smallLayout_plain

theorem entryAndByte_isSome :
    (Data.run (SdVolume.step (failingAt 3) smallLayout) entryAndByte
      blankVolume).isSome = true := by
  decide +kernel

def entryCached : SdVolume :=
  (Data.run (SdVolume.step (failingAt 3) smallLayout) entryAndByte blankVolume).get
    entryAndByte_isSome

theorem entryCached_flush_isSome :
    (SdVolume.step (failingAt 3) smallLayout ⟨.flush, some 0⟩ entryCached).isSome =
      true := by
  decide +kernel

end SenseBox.SD
