import SenseBox.SD.SDCard

namespace SenseBox.SD

open SenseBox.Data
open SdVolume

/-! A card that does not answer: what only reads it leaves the volume as it is, and a file
that cannot be reached keeps its bytes. -/

namespace SdVolume

/-- There is nothing to be written back, and the next accesses of the card fail. -/
structure Silent (io : Accesses) (count : Nat) (volume : SdVolume) : Prop where
  clean : volume.cacheDirty = false
  fails : ∀ place < count, ∀ block, io (volume.accesses + place) block = false

/-- The volume after an access that has failed. -/
def tried (volume : SdVolume) : SdVolume := { volume with accesses := volume.accesses + 1 }

/-- The volume as it is, or after an access that has failed. -/
def Unchanged (before after : SdVolume) : Prop := after = before ∨ after = before.tried

/-- No block of the card is changed, and none waits to be written back. -/
structure Unwritten (before after : SdVolume) : Prop where
  blocks : after.blocks = before.blocks
  clean : after.cacheDirty = false

theorem Unwritten.trans {first second third : SdVolume} (hfirst : first.Unwritten second)
    (hsecond : second.Unwritten third) : first.Unwritten third :=
  ⟨hsecond.blocks.trans hfirst.blocks, hsecond.clean⟩

namespace Silent

variable {io : Accesses} {count fewer : Nat} {volume after : SdVolume}

theorem less (hsilent : volume.Silent io count) (hfewer : fewer ≤ count) :
    volume.Silent io fewer :=
  ⟨hsilent.clean, fun place hplace => hsilent.fails place (hplace.trans_le hfewer)⟩

theorem next (hsilent : volume.Silent io (count + 1)) (block : UInt32) :
    io volume.accesses block = false := hsilent.fails 0 (Nat.succ_pos count) block

theorem unchanged (hsilent : volume.Silent io (count + 1)) (hafter : volume.Unchanged after) :
    after.Silent io count := by
  rcases hafter with rfl | rfl
  · exact hsilent.less (Nat.le_succ count)
  · refine ⟨hsilent.clean, fun place hplace block => ?_⟩
    have hplace' := hsilent.fails (place + 1) (Nat.succ_lt_succ hplace) block
    rw [← Nat.add_assoc, Nat.add_right_comm] at hplace'
    exact hplace'

end Silent

end SdVolume

/-- The computation writes nothing.  On a card that does not answer it leaves the volume as it
is, or it fails, with one access at most. -/
def Reads {State Value : Type} (io : Accesses) (part : State → SdVolume)
    (program : Failing State Value) : Prop :=
  ∀ start, (part start).cacheDirty = false → Ends program start
    (fun _ finish => (part start).Unwritten (part finish) ∧
      ((part start).Silent io 1 → part finish = part start))
    (fun finish => (part start).Unwritten (part finish) ∧
      ((part start).Silent io 1 → (part start).Unchanged (part finish)))

section Rules

variable {State Value Other : Type} {io : Accesses} {part : State → SdVolume}

theorem reads_pure (value : Value) : Reads io part (pure value : Failing State Value) :=
  fun _ hclean => ⟨⟨rfl, hclean⟩, fun _ => rfl⟩

theorem reads_failure : Reads io part (failure : Failing State Value) :=
  fun _ hclean => ⟨⟨rfl, hclean⟩, fun _ => .inl rfl⟩

theorem reads_get : Reads io part (get : Failing State State) :=
  fun _ hclean => ⟨⟨rfl, hclean⟩, fun _ => rfl⟩

theorem reads_modify {change : State → State}
    (hchange : ∀ state, part (change state) = part state) :
    Reads io part (modify change : Failing State PUnit) := by
  intro start hclean
  have hsame := hchange start
  exact ⟨⟨congrArg SdVolume.blocks hsame, (congrArg SdVolume.cacheDirty hsame).trans hclean⟩,
    fun _ => hsame⟩

theorem Reads.bind {program : Failing State Value} {rest : Value → Failing State Other}
    (hprogram : Reads io part program) (hrest : ∀ value, Reads io part (rest value)) :
    Reads io part (program >>= rest) := by
  intro start hclean
  apply (hprogram start hclean).bind
  · rintro value middle ⟨hwritten, hsame⟩
    apply (hrest value middle hwritten.clean).imp
    · rintro other finish ⟨hwritten', hsame'⟩
      refine ⟨hwritten.trans hwritten', fun hsilent => ?_⟩
      rw [hsame hsilent] at hsame'
      exact hsame' hsilent
    · rintro finish ⟨hwritten', hsame'⟩
      refine ⟨hwritten.trans hwritten', fun hsilent => ?_⟩
      rw [hsame hsilent] at hsame'
      exact hsame' hsilent
  · exact fun _ hfailed => hfailed

theorem Reads.ite {condition : Prop} [Decidable condition]
    {first second : Failing State Value} (hfirst : Reads io part first)
    (hsecond : Reads io part second) :
    Reads io part (if condition then first else second) := by
  split
  · exact hfirst
  · exact hsecond

theorem Reads.onPart {Whole : Type} {whole : Whole → SdVolume} {get : Whole → State}
    {put : Whole → State → Whole} (hget : ∀ all, whole all = part (get all))
    (hput : ∀ all state, whole (put all state) = part state)
    {program : Failing State Value} (hprogram : Reads io part program) :
    Reads io whole (onPart get put program) := by
  intro start hclean
  rw [hget] at hclean ⊢
  rw [ends_onPart]
  apply (hprogram (get start) hclean).imp
  · intro value finish hfinish
    rw [hput]
    exact hfinish
  · intro finish hfinish
    rw [hput]
    exact hfinish

end Rules

section Programs

variable (io : Accesses) (layout : Layout) (rounds : Nat)

namespace SdVolume

theorem reads_readBlock (block : UInt32) : Reads io id (readBlock io block) := by
  intro volume hclean
  rw [ends_readBlock]
  split
  · next hanswers =>
    refine ⟨⟨rfl, hclean⟩, fun hsilent => ?_⟩
    have hfails : io volume.accesses block = false := hsilent.next block
    exact absurd (hfails.symm.trans hanswers) Bool.false_ne_true
  · exact ⟨⟨rfl, hclean⟩, fun _ => .inr rfl⟩

/-- Another block cannot be taken into the cache. -/
theorem ends_loadBlock_silent {volume : SdVolume} (hsilent : volume.Silent io 1)
    (block : UInt32) : Ends (loadBlock io block) volume
      (fun _ after => after = volume ∧ volume.cacheBlockNumber = block)
      (fun after => after = volume.tried ∧ volume.cacheBlockNumber ≠ block) := by
  rw [loadBlock, ends_bind, ends_get]
  by_cases hcached : volume.cacheBlockNumber = block
  · rw [if_neg (not_not_intro hcached)]
    exact ⟨rfl, hcached⟩
  · rw [if_pos hcached, cacheFlush, ends_bind, ends_bind, ends_get, hsilent.clean,
      if_neg Bool.false_ne_true, ends_pure, ends_bind, ends_readBlock, hsilent.next block]
    exact ⟨rfl, hcached⟩

theorem reads_cacheRawBlock (block : UInt32) :
    Reads io id (cacheRawBlock io block .forRead) := by
  intro volume hclean
  have hclean : volume.cacheDirty = false := hclean
  rw [cacheRawBlock, ends_bind, loadBlock, ends_bind, ends_get]
  by_cases hcached : volume.cacheBlockNumber = block
  · rw [if_neg (not_not_intro hcached)]
    exact ⟨⟨rfl, hclean⟩, fun _ => rfl⟩
  · rw [if_pos hcached, cacheFlush, ends_bind, ends_bind, ends_get, hclean,
      if_neg Bool.false_ne_true, ends_pure, ends_bind, ends_readBlock]
    split
    · next hanswers =>
      refine ⟨⟨rfl, hclean⟩, fun hsilent => ?_⟩
      have hfails : io volume.accesses block = false := hsilent.next block
      exact absurd (hfails.symm.trans hanswers) Bool.false_ne_true
    · exact ⟨⟨rfl, hclean⟩, fun _ => .inr rfl⟩

theorem reads_fatGet (cluster : UInt32) : Reads io id (fatGet io layout cluster) := by
  have hblock : ∀ lba, Reads io id (cacheFatBlock io lba) := fun lba =>
    reads_get.bind fun _ => .ite (reads_cacheRawBlock io lba) (reads_pure _)
  exact .ite reads_failure ((hblock _).bind fun _ => reads_get.bind fun _ => reads_pure _)

theorem reads_chainSize (cluster size : UInt32) :
    Reads io id (chainSize io layout rounds cluster size) := by
  induction rounds generalizing cluster size with
  | zero => exact reads_pure _
  | succ left ih =>
      refine (reads_fatGet io layout cluster).bind fun next => ?_
      exact .ite (reads_pure _) (ih _ _)

theorem reads_readPart (unbuffered : Bool) (block : UInt32) (offset n : Nat) :
    Reads io id (readPart io unbuffered block offset n) :=
  reads_get.bind fun _ => .ite ((reads_readBlock io block).bind fun _ => reads_pure _)
    ((reads_cacheRawBlock io block).bind fun _ => reads_get.bind fun _ => reads_pure _)

end SdVolume

namespace FatFile

variable {Value : Type}

theorem reads_onVolume {program : Failing SdVolume Value} (hprogram : Reads io id program) :
    Reads io Prod.fst (onVolume program) := by
  refine .onPart ?_ ?_ hprogram
  · exact fun _ => rfl
  · exact fun _ _ => rfl

theorem reads_getFile : Reads io Prod.fst getFile := reads_get.bind fun _ => reads_pure _

theorem reads_modifyFile (change : FatFile → FatFile) :
    Reads io Prod.fst (modifyFile change) := reads_modify fun _ => rfl

theorem reads_readLocate : Reads io Prod.fst (readLocate io layout) := by
  have hblock : ∀ blockOfCluster : UInt8, Reads io Prod.fst (do
      let file ← getFile
      return layout.clusterStartBlock file.curCluster + blockOfCluster.toUInt32) :=
    fun _ => (reads_getFile io).bind fun _ => reads_pure _
  refine (reads_getFile io).bind fun file => .ite (reads_pure _) (.ite (.ite ?_ ?_) (hblock _))
  · exact (reads_modifyFile io _).bind fun _ => hblock _
  · refine (reads_onVolume io (reads_fatGet io layout _)).bind fun cluster => ?_
    exact (reads_modifyFile io _).bind fun _ => hblock _

theorem reads_readLoop (toRead : Nat) : Reads io Prod.fst (readLoop io layout toRead) := by
  induction toRead using Nat.strong_induction_on with
  | _ toRead ih =>
    rw [readLoop]
    split
    · exact reads_pure []
    · next hmore =>
      refine (reads_getFile io).bind fun file => ?_
      refine (reads_readLocate io layout).bind fun block => ?_
      refine (reads_onVolume io (reads_readPart io _ _ _ _)).bind fun bytes => ?_
      refine (reads_modifyFile io _).bind fun _ => ?_
      have hoffset := blockOffset_lt file
      exact (ih _ (by omega)).bind fun rest => reads_pure _

theorem reads_readDirCache : Reads io Prod.fst (readDirCache io layout) := by
  refine (reads_getFile io).bind fun file => .ite reads_failure ?_
  refine ((reads_getFile io).bind fun _ =>
    .ite reads_failure (reads_readLoop io layout _)).bind fun bytes => ?_
  exact .ite reads_failure ((reads_modifyFile io _).bind fun _ => reads_pure _)

theorem reads_onDirFile {program : Failing Opened Value}
    (hprogram : Reads io Prod.fst program) : Reads io Prod.fst (onDirFile program) := by
  refine .onPart ?_ ?_ hprogram
  · exact fun _ => rfl
  · exact fun _ _ => rfl

theorem reads_onFile {program : Failing Opened Value}
    (hprogram : Reads io Prod.fst program) : Reads io Prod.fst (onFile program) := by
  refine .onPart ?_ ?_ hprogram
  · exact fun _ => rfl
  · exact fun _ _ => rfl

theorem reads_searchLoop (dname : Name) (left : Nat) (emptyFound : Bool) :
    Reads io Prod.fst (searchLoop io layout dname left emptyFound) := by
  induction left generalizing emptyFound with
  | zero => exact reads_pure _
  | succ left ih =>
      have hremember : ∀ block index, Reads io Prod.fst
          (onFile (modifyFile (rememberSlot emptyFound block index))) :=
        fun _ _ => reads_onFile io (reads_modifyFile io _)
      refine reads_get.bind fun opening => .ite ?_ (reads_pure _)
      refine (reads_onDirFile io (reads_readDirCache io layout)).bind fun index => ?_
      refine reads_get.bind fun opening' => .ite ?_ (.ite ?_ (.ite (reads_pure _) (ih _)))
      · exact (hremember _ _).bind fun _ => reads_pure _
      · exact (hremember _ _).bind fun _ => ih _

theorem reads_openKind (block : Block) (dirIndex : UInt8) :
    Reads io Prod.fst (openKind io layout rounds block dirIndex) := by
  refine .ite ((reads_modifyFile io _).bind fun _ => reads_pure _) (.ite ?_ reads_failure)
  refine (reads_getFile io).bind fun file => ?_
  refine (reads_onVolume io (reads_chainSize io layout rounds _ _)).bind fun size => ?_
  cases size with
  | none => exact reads_pure none
  | some size => exact (reads_modifyFile io _).bind fun _ => reads_pure _

theorem reads_openCachedEntry (dirIndex : UInt8) {oflag : UInt8}
    (htrunc : oflag &&& oTrunc = 0) :
    Reads io Prod.fst (openCachedEntry io layout rounds dirIndex oflag) := by
  refine reads_get.bind fun opened => .ite reads_failure ?_
  refine (reads_modifyFile io _).bind fun _ => ?_
  refine (reads_openKind io layout rounds _ _).bind fun sized => ?_
  cases sized with
  | none => exact reads_pure none
  | some _ =>
      refine (reads_modifyFile io _).bind fun _ => ?_
      rw [if_neg (not_not_intro htrunc)]
      exact reads_pure _

end FatFile

end Programs

namespace FatFile

variable {io : Accesses} {layout : Layout} {rounds : Nat} {volume : SdVolume}
  {file : FatFile} {oflag : UInt8}

/-- The handle is that of the entry in the cache. -/
theorem ends_openCachedEntry_handle (dirIndex : UInt8) (htrunc : oflag &&& oTrunc = 0) :
    Ends (openCachedEntry io layout rounds dirIndex oflag) (volume, file)
      (fun done after => done = some () →
        after.2.dirBlock = volume.cacheBlockNumber ∧ after.2.flags = openFlags oflag)
      (fun _ => True) := by
  have hkind : ∀ handle : FatFile, handle.dirBlock = volume.cacheBlockNumber →
      Ends (openKind io layout rounds volume.cacheBuffer dirIndex) (volume, handle)
        (fun _ after => after.2.dirBlock = volume.cacheBlockNumber) (fun _ => True) := by
    intro handle hblock
    unfold openKind
    dsimp only
    split
    · exact hblock
    · split
      · rw [ends_bind, ends_getFile, ends_bind, ends_onVolume]
        apply Ends.of_forall
        · rintro (_ | size) after
          · exact hblock
          · exact hblock
        · exact fun _ => trivial
      · trivial
  rw [openCachedEntry, ends_bind, ends_get]
  dsimp only
  split
  · trivial
  · rw [ends_bind, ends_modifyFile]
    apply (hkind _ rfl).bind
    · rintro (_ | _) ⟨after, handle⟩ hblock
      · exact fun hnone => absurd hnone.symm (Option.some_ne_none _)
      · dsimp only
        rw [ends_bind, ends_modifyFile, if_neg (not_not_intro htrunc)]
        exact fun _ => ⟨hblock, rfl⟩
    · exact fun _ _ => trivial

/-- The FAT cannot be read where another block is in the cache. -/
theorem ends_fatGet_silent (hsound : layout.Sound) (hsilent : volume.Silent io 1)
    (hplain : layout.Plain volume.cacheBlockNumber) (cluster : UInt32) :
    Ends (fatGet io layout cluster) volume (fun _ _ => False) volume.Unchanged := by
  by_cases hlast : cluster > layout.clusterCount + 1
  · rw [fatGet, if_pos hlast]
    exact .inl rfl
  · have hcluster : cluster.toNat ≤ layout.clusterCount.toNat + 1 := by
      rw [← hsound.toNat_last]
      exact Nat.le_of_not_lt (mt UInt32.lt_iff_toNat_lt.mpr hlast)
    have hother : volume.cacheBlockNumber ≠ layout.fatBlock cluster := by
      intro hsame
      rw [hsame] at hplain
      exact hplain.2 (hsound.first_fatBlock hcluster)
    rw [fatGet, if_neg hlast, ends_bind, cacheFatBlock, ends_bind, ends_get,
      if_pos hother.symm, cacheRawBlock]
    apply (ends_loadBlock_silent io hsilent _).bind
    · exact fun _ _ hloaded => absurd hloaded.2 hother
    · exact fun _ hfailed => .inr hfailed.1

/-- The search for a free cluster is to start anew. -/
def restarted (volume : SdVolume) : SdVolume := { volume with allocSearchStart := 2 }

/-- No cluster of a file is freed where the FAT cannot be read. -/
theorem ends_truncate_silent (hsound : layout.Sound) (hsilent : volume.Silent io 1)
    (hplain : layout.Plain volume.cacheBlockNumber) (htype : file.type = .normal)
    (hwrite : file.flags &&& oWrite ≠ 0) (hsize : file.fileSize ≠ 0) (hrounds : 0 < rounds) :
    Ends (truncate io layout rounds 0) (volume, file) (fun _ _ => False)
      (fun after => (restarted volume).Unchanged after.1) := by
  obtain ⟨left, rfl⟩ := Nat.exists_eq_succ_of_ne_zero (Nat.ne_of_gt hrounds)
  have hopen : ¬ (file.type ≠ .normal ∨ file.flags &&& oWrite = 0) :=
    not_or.mpr ⟨not_not_intro htype, hwrite⟩
  have hshort : ¬ (0 : UInt32) > file.fileSize := fun hpast =>
    absurd (UInt32.lt_iff_toNat_lt.mp hpast) (Nat.not_lt_zero _)
  have hopen' : ¬ (file.type = .closed ∨ (0 : UInt32) > file.fileSize) := by
    rw [htype]
    rintro (hclosed | hpast)
    · cases hclosed
    · exact hshort hpast
  have hroot : ¬ file.type = .root16 := by
    rw [htype]
    decide
  rw [truncate, ends_bind, ends_getFile, if_neg hopen, if_neg hshort, if_neg hsize, ends_bind,
    seekSet, ends_bind, ends_getFile, if_neg hopen', if_neg hroot, if_pos rfl, ends_bind,
    ends_modifyFile, ends_modifyFile, ends_bind, freeAfter, ends_bind, ends_getFile, if_pos rfl,
    ends_onVolume, freeChain, ends_bind, ends_modify, freeLoop, ends_bind]
  have hsilent' : (restarted volume).Silent io 1 := ⟨hsilent.clean, hsilent.fails⟩
  apply (ends_fatGet_silent hsound hsilent' hplain _).imp
  · exact fun _ _ hfalse => hfalse.elim
  · exact fun _ hafter => hafter

/-- A handle is moved to a place in the first block without an access. -/
theorem ends_seekSet_short (hsound : layout.Sound) (htype : file.type = .normal)
    (hstart : file.curPosition = 0) {pos : UInt32} (hpos : pos ≠ 0)
    (hinside : pos.toNat ≤ file.fileSize.toNat) (hshort : pos.toNat ≤ 512) :
    Ends (seekSet io layout pos) (volume, file)
      (fun _ after => after = (volume, setPosition pos (setCluster file.firstCluster file)))
      (fun _ => False) := by
  have hopen : ¬ (file.type = .closed ∨ pos > file.fileSize) := by
    rw [htype, gt_iff_lt, UInt32.lt_iff_toNat_lt]
    rintro (hclosed | hpast)
    · cases hclosed
    · omega
  have hroot : ¬ file.type = .root16 := by
    rw [htype]
    decide
  have hindex : (clusterIndex layout pos).toNat = 0 := by
    have hbytes : 512 ≤ layout.clusterBytes :=
      Nat.le_mul_of_pos_right 512 (Nat.two_pow_pos _)
    have hnonzero : pos.toNat ≠ 0 := fun hnat => hpos (UInt32.toNat_inj.mp hnat)
    rw [toNat_clusterIndex hsound hpos]
    exact Nat.div_eq_of_lt (by omega)
  rw [seekSet, ends_bind, ends_getFile, if_neg hopen, if_neg hroot, if_neg hpos]
  dsimp only
  rw [if_pos (.inr hstart), ends_bind, ends_modifyFile, ends_bind, hindex]
  rfl

/-- Nothing is written after the end of a file whose last block is not in the cache. -/
theorem ends_write_silent (hsilent : volume.Silent io 1) (htype : file.type = .normal)
    (hwrite : file.flags &&& oWrite ≠ 0) (happend : file.flags &&& oAppend = 0)
    (hsync : file.flags &&& oSync = 0) (hend : file.curPosition = file.fileSize)
    (hinside : file.blockOffset ≠ 0)
    (hother : volume.cacheBlockNumber ≠ layout.clusterStartBlock file.curCluster +
      (layout.blockOfCluster file.curPosition).toUInt32) (buf : List UInt8) :
    Ends (write io layout buf) (volume, file) (fun _ after => after = (volume, file))
      (fun after => after = (volume.tried, file)) := by
  have hopen : ¬ (file.type ≠ .normal ∨ file.flags &&& oWrite = 0) :=
    not_or.mpr ⟨not_not_intro htype, hwrite⟩
  have hstay : ¬ (file.flags &&& oAppend ≠ 0 ∧ file.curPosition ≠ file.fileSize) :=
    fun hboth => hboth.1 happend
  rw [write, ends_bind, ends_getFile, if_neg hopen, ends_bind, seekToAppend, ends_bind,
    ends_getFile, if_neg hstay, ends_pure, ends_bind, writeLoop]
  by_cases hdone : buf = []
  · have hgrow : grow file = file := by
      rw [grow, hend]
      exact if_neg (UInt32.lt_irrefl _)
    rw [dif_pos hdone, ends_pure, writeEnd, ends_bind, ends_modifyFile, hgrow, ends_bind,
      ends_getFile, if_neg (not_not_intro hsync)]
    exact rfl
  · have hstart : ¬ (layout.blockOfCluster file.curPosition = 0 ∧ file.blockOffset = 0) :=
      fun hboth => hinside hboth.2
    have hpart : ¬ (buf.take (min (512 - file.blockOffset) buf.length)).length = 512 := by
      rw [List.length_take]
      omega
    have hfresh : ¬ (decide (file.blockOffset = 0) && decide (file.curPosition ≥ file.fileSize)) =
        true := by
      rw [decide_eq_false hinside]
      exact Bool.false_ne_true
    rw [dif_neg hdone, ends_bind, ends_getFile, ends_bind, writeRound, ends_bind, writeLocate,
      ends_bind, ends_getFile, if_neg hstart, ends_pure, ends_bind, ends_getFile, ends_bind,
      ends_onVolume, writePart, if_neg hpart, if_neg hfresh, ends_bind, cacheRawBlock]
    apply (ends_loadBlock_silent io hsilent _).bind
    · exact fun _ _ hloaded => absurd hloaded.2 hother
    · rintro after ⟨rfl, -⟩
      rfl

/-- A handle without anything to be recorded is closed without an access. -/
theorem ends_close_clean (hclean : volume.cacheDirty = false) (htype : file.type ≠ .closed)
    (hrecorded : file.flags &&& fFileDirDirty = 0) :
    Ends (close io) (volume, file)
      (fun _ after => after = (volume, { file with type := .closed })) (fun _ => False) := by
  rw [close, ends_bind, sync, ends_bind, ends_getFile, if_neg htype,
    if_neg (not_not_intro hrecorded), ends_onVolume, cacheFlush, ends_bind, ends_get, hclean]
  exact rfl

end FatFile

section Agreed

variable {io : Accesses} {layout : Layout} {rounds : Nat} {volume after : SdVolume}
  {root file : FatFile} {opening : FatFile.Opening} {sites : Name → Option Site}
  {files : Files} {fileName : Text} {name : Name} {bytes : List UInt8} {locked : Bool}
  {oflag : UInt8}

section Agrees

variable {flags : Nat → UInt8} {chains : Nat → List UInt32} {extent : List UInt32}
  {count : Nat} {handles : Nat → FatFile} {views : Views Nat}

/-- What is known stays so where no block is changed. -/
theorem Agrees.untouched (hsound : layout.Sound)
    (hagrees : Agrees layout sites flags chains extent count handles views
      (volume, root, file) files)
    (hwithin : Within layout (fun _ => False) (fun _ _ => False) volume after) :
    Agrees layout sites flags chains extent count handles views (after, root, file) files := by
  obtain ⟨hdisk, hslots⟩ := hagrees.disk.untouched hsound hwithin (rfl : root.Turned root)
  have hmarks := marksAt_kept (rfl : root.type = root.type) hslots
  exact ⟨hdisk, hagrees.slots, fun hspare => (hagrees.vacant hspare).kept hmarks,
    hagrees.lists.kept hmarks, hagrees.holding.kept hmarks fun _ _ => rfl,
    hagrees.pinned.kept hmarks fun _ _ => rfl⟩

theorem Agrees.handed
    (hagrees : Agrees layout sites flags chains extent count handles views
      (volume, root, file) files)
    {root' : FatFile} (htype : root'.type = root.type)
    (hdirectory : Directory layout (volume.fat layout) extent root' count) :
    Agrees layout sites flags chains extent count handles views (volume, root', file) files := by
  obtain ⟨hdisk, hslots, hvacant, hlists, hholding, hpinned⟩ := hagrees
  dsimp only at hvacant hlists hholding hpinned
  rw [← htype] at hvacant hlists hholding hpinned
  exact ⟨hdisk.handed htype hdirectory, hslots, hvacant, hlists, hholding, hpinned⟩

end Agrees

theorem AgreedAt.untouched (hsound : layout.Sound)
    (hagreed : AgreedAt layout sites (volume, root, file) files)
    (hwithin : Within layout (fun _ => False) (fun _ _ => False) volume after) :
    AgreedAt layout sites (after, root, file) files := by
  obtain ⟨flags, chains, extent, count, handles, views, hagrees⟩ := hagreed
  exact ⟨flags, chains, extent, count, handles, views, hagrees.untouched hsound hwithin⟩

/-- An access that has failed is nothing but counted, and the search for a free cluster may
always start anew. -/
theorem SdVolume.Coherent.counted (hcoherent : Coherent layout volume)
    (hstart : Startable layout after) {accesses : Nat}
    (hafter : after = { volume with
      accesses := accesses
      allocSearchStart := after.allocSearchStart }) :
    Within layout (fun _ => False) (fun _ _ => False) volume after := by
  obtain ⟨hclean, hpending, hwaiting, hlogical, hcopies⟩ := hcoherent
  have hmemory : after.memory = volume.memory := by
    rw [hafter]
    rfl
  have hfat : after.fat layout = volume.fat layout := by
    rw [hafter]
    rfl
  refine ⟨?_, hstart, fun cluster _ _ => by rw [hfat],
    fun cluster _ hfree => .inr (by rw [← hfat]; exact hfree),
    fun block place _ _ _ => by rw [hmemory]⟩
  rw [hafter]
  exact ⟨hclean, hpending, hwaiting, hlogical, hcopies⟩

theorem SdVolume.Startable.restarted (layout : Layout) (volume : SdVolume) :
    Startable layout (FatFile.restarted volume) :=
  ⟨le_refl 2, Nat.le_add_left 2 _⟩

theorem AgreedAt.unchanged (hsound : layout.Sound)
    (hagreed : AgreedAt layout sites (volume, root, file) files)
    (hafter : volume.Unchanged after) : AgreedAt layout sites (after, root, file) files := by
  obtain ⟨_, _, _, _, _, _, hagrees⟩ := id hagreed
  have hshared := hagrees.disk.shared
  rcases hafter with rfl | rfl
  · exact hagreed
  · exact hagreed.untouched hsound (hshared.coherent.counted
      ⟨hshared.startable.bgn, hshared.startable.last⟩ rfl)

theorem AgreedAt.restarted (hsound : layout.Sound)
    (hagreed : AgreedAt layout sites (volume, root, file) files) :
    AgreedAt layout sites (FatFile.restarted volume, root, file) files := by
  obtain ⟨_, _, _, _, _, _, hagrees⟩ := id hagreed
  exact hagreed.untouched hsound
    (hagrees.disk.shared.coherent.counted (.restarted layout volume) rfl)

/-- Nothing is written where a file that is there is opened.  It is opened without an access
then, or not at all, where the card does not answer. -/
theorem Agreed.ends_openIn_unwritten (hsound : layout.Sound)
    (hagreed : Agreed layout opening files) (hclosed : opening.2.2.type = .closed)
    (hname : make83Name fileName = some name)
    (hentry : files.entry name = .file bytes locked) (htrunc : oflag &&& oTrunc = 0)
    (hclean : opening.1.cacheDirty = false) :
    Ends (FatFile.openIn io layout rounds fileName oflag) opening
      (fun done after => opening.1.Unwritten after.1 ∧ (opening.1.Silent io 1 →
        after.1 = opening.1 ∧ (done = some () →
          after.2.2.dirBlock = opening.1.cacheBlockNumber ∧
          after.2.2.flags = openFlags oflag)))
      (fun after => opening.1.Unwritten after.1 ∧ (opening.1.Silent io 1 →
        opening.1.Unchanged after.1)) := by
  obtain ⟨volume, dir, file⟩ := opening
  obtain ⟨flags, chains, extent, count, handles, views, hagrees⟩ := hagreed
  have hused := make83Name_used hname
  obtain ⟨slot, hslot, hmarks, -⟩ := hagrees.listed hused hentry
  have hdisk := hagrees.disk
  have hat : nameAt layout extent dir.type volume slot = name := congrArg Prod.fst hmarks
  subst hat
  rw [FatFile.openIn, ends_bind, ends_get]
  dsimp only
  rw [if_neg (not_not_intro hclosed), hname]
  dsimp only
  rw [ends_bind, ends_onDirFile, ends_modifyFile, ends_bind]
  apply ((hdisk.ends_searchLoop hsound _ file).and
    (FatFile.reads_searchLoop io layout _ _ _ (volume, dir.rewind, file) hclean)).imp
  · rintro found ⟨searched, dir', file'⟩ ⟨⟨-, -, -, -, hsearched⟩, hwritten, hsame⟩
    rw [hdisk.tidy.search_listed hused (getElem?_namesOf hslot)] at hsearched
    obtain ⟨-, rfl, -, -⟩ := hsearched
    have hwritten : volume.Unwritten searched := hwritten
    have hsame : volume.Silent io 1 → searched = volume := hsame
    dsimp only
    split
    · exact ⟨hwritten, fun hsilent => .inl (hsame hsilent)⟩
    · rw [ends_onFile]
      apply ((FatFile.ends_openCachedEntry_handle _ htrunc).and
        (FatFile.reads_openCachedEntry io layout rounds _ htrunc _ hwritten.clean)).imp
      · rintro done after ⟨hhandle, hwritten', hsame'⟩
        refine ⟨hwritten.trans hwritten', fun hsilent => ?_⟩
        obtain rfl := hsame hsilent
        exact ⟨hsame' hsilent, hhandle⟩
      · rintro after ⟨-, hwritten', hsame'⟩
        refine ⟨hwritten.trans hwritten', fun hsilent => ?_⟩
        obtain rfl := hsame hsilent
        exact hsame' hsilent
  · exact fun after hfailed => hfailed.2

/-- A removal that fails may have changed nothing, neither on the card nor in the cache. -/
theorem Agreed.ends_removeIn_unwritten (hsound : layout.Sound)
    (hagreed : Agreed layout (volume, root, file) files)
    (hrounds : layout.clusterCount.toNat ≤ rounds) (hcurrent : files.current = .closed)
    (hname : make83Name fileName = some name)
    (hentry : files.entry name = .file bytes locked) (hclean : volume.cacheDirty = false) :
    Ends (FatFile.removeIn io layout rounds fileName) (volume, root) (fun _ _ => True)
      (fun after => volume.Unwritten after.1 → Agreed layout (after.1, after.2, file) files) := by
  obtain ⟨flags, chains, extent, count, handles, views, hagrees⟩ := hagreed
  have hused := make83Name_used hname
  have hdisk := hagrees.disk
  obtain ⟨slot, hslot, hmarks, hopen, place, hview⟩ := hagrees.listed hused hentry
  have hat : nameAt layout extent root.type volume slot = name := congrArg Prod.fst hmarks
  have hrecorded := hagrees.holding.clean hopen hat (by
    rw [hcurrent]
    exact Current.closed_ne name)
  rw [← hat] at hname
  apply (hdisk.ends_removeIn_listed hsound hview hrecorded hrounds hname).imp
  · exact fun _ _ _ => trivial
  · rintro ⟨after, root'⟩ ⟨htype, -, hcase⟩ hwritten
    obtain ⟨left, hdisk'⟩ : ∃ left,
        Disk layout flags chains extent count (after, handles) root' left := by
      rcases hcase with ⟨-, -, hkept⟩ | ⟨-, -, -, hlost⟩
      · exact ⟨_, hkept⟩
      · exact ⟨_, hlost⟩
    have hcoherent := hdisk'.shared.coherent
    have hwithin : Within layout (fun _ => False) (fun _ _ => False) volume after := by
      refine .of_memory hsound hcoherent hdisk'.shared.startable fun block hblock => ?_
      rw [hcoherent.memory_clean hwritten.clean hblock.1, hwritten.blocks,
        hdisk.shared.coherent.memory_clean hclean hblock.1]
    exact ⟨flags, chains, extent, count, handles, views,
      (hagrees.untouched hsound hwithin).handed htype hdisk'.directory⟩

end Agreed

namespace SdCard

variable {io : Accesses} {rounds : Nat} {card : SdCard} {files : Files} {fileName : Text}
  {oflag : UInt8} {name : Name} {bytes : List UInt8} {handle : FatFile}

theorem Ordered.shows {flags : UInt8} {place : Nat} {locked : Bool}
    (hordered : card.Ordered (some handle) files)
    (hentry : files.entry name = .file bytes locked)
    (hcurrent : files.current = .file name flags place) :
    ∃ chain, Shows card.layout card.volume chain handle ⟨bytes, place⟩ := by
  obtain ⟨flags, chains, extent, count, handles, views, hagrees⟩ := hordered
  obtain ⟨_, _, _, chain, _, _, _, _, _, hshows⟩ := hagrees.onVolume.current hentry hcurrent
  exact ⟨chain, hshows⟩

/-- The file is open, its entry is in the cache, and there is nothing to be recorded. -/
structure Reached (name : Name) (bytes : List UInt8) (oflag : UInt8) (place : Nat)
    (card : SdCard) (handle : FatFile) (files : Files) : Prop where
  ordered : card.Ordered (some handle) (files.setEntry name (.file bytes false)
    (.file name (openFlags oflag) place))
  cached : handle.dirBlock = card.volume.cacheBlockNumber
  flags : handle.flags = openFlags oflag

theorem Reached.shows {place : Nat} (hreached : Reached name bytes oflag place card handle files) :
    ∃ chain, Shows card.layout card.volume chain handle ⟨bytes, place⟩ :=
  hreached.ordered.shows (Function.update_self ..) rfl

/-- The file is opened without an access, or not at all. -/
theorem openIn_silent (husable : card.Usable rounds) (hordered : card.Ordered none files)
    (hcurrent : files.current = .closed) (hname : make83Name fileName = some name)
    (hentry : files.entry name = .file bytes false)
    (hexcl : oflag &&& (oCreat ||| oExcl) ≠ oCreat ||| oExcl) (htrunc : oflag &&& oTrunc = 0)
    (hsilent : card.volume.Silent io 1) :
    ∃ file after, card.openIn io rounds fileName oflag = some (file, after) ∧
      after.layout = card.layout ∧
      (file = none ∧ card.volume.Unchanged after.volume ∧ after.Ordered none files ∨
        ∃ handle, file = some handle ∧ after.volume = card.volume ∧
          Reached name bytes oflag 0 after handle files) := by
  have hagreed : Agreed card.layout card.opening files := hordered
  have hends : Ends (FatFile.openIn io card.layout rounds fileName oflag) card.opening _ _ :=
    hagreed.ends_openIn_unwritten husable.sound rfl hname hentry htrunc hsilent.clean
  obtain ⟨file, after, hopen, hlayout, hcase⟩ := openIn_ordered husable hordered
    (Files.expect_listed hcurrent hname hentry hexcl htrunc) hcurrent
  refine ⟨file, after, hopen, hlayout, ?_⟩
  unfold Ends at hends
  rcases hcase with ⟨rfl, hordered'⟩ | ⟨hfile, _, left, hleft, hordered'⟩
  · obtain ⟨-, file, hrun⟩ := openIn_run_none hopen
    rw [hrun] at hends
    exact .inl ⟨rfl, hends.2 hsilent, hordered'⟩
  · obtain ⟨handle, rfl⟩ := Option.ne_none_iff_exists'.mp hfile
    cases hleft
    rw [openIn_run hopen] at hends
    obtain ⟨hvolume, hhandle⟩ := hends.2 hsilent
    obtain ⟨hblock, hflags⟩ := hhandle rfl
    have hvolume : after.volume = card.volume := hvolume
    refine .inr ⟨handle, rfl, hvolume, hordered', ?_, hflags⟩
    rw [hvolume]
    exact hblock

/-- What is known of the files when the handle has been closed again. -/
theorem Files.reclosed (hcurrent : files.current = .closed)
    (hentry : files.entry name = .file bytes false) (current : Current) :
    { files.setEntry name (.file bytes false) current with current := .closed } = files := by
  rw [← hentry, Files.setEntry, Function.update_eq_self, ← hcurrent]

/-- A handle that has been reached is closed without an access. -/
theorem Reached.close (io : Accesses) (husable : card.Usable rounds) {place : Nat}
    (hreached : Reached name bytes oflag place card handle files)
    (hcurrent : files.current = .closed) (hentry : files.entry name = .file bytes false)
    (hclean : card.volume.cacheDirty = false) :
    card.close io (some handle) = (true, card) ∧ card.Ordered none files := by
  obtain ⟨chain, hshows⟩ := hreached.shows
  have hopen : handle.type ≠ .closed := by
    rw [hshows.type]
    decide
  have hrecorded : handle.flags &&& fFileDirDirty = 0 := by
    rw [hreached.flags]
    exact openFlags_clean oflag
  have hends : Ends (FatFile.close io) (card.volume, handle) _ _ :=
    FatFile.ends_close_clean hclean hopen hrecorded
  obtain ⟨_, finish, hrun, rfl⟩ := hends.run_returned
  have hclose : card.close io (some handle) = (true, card) := by
    rw [SdCard.close, hrun]
    rfl
  have hdone : (card.close io (some handle)).1 = true := by rw [hclose]
  obtain ⟨after, hrun', -, hordered⟩ := close_ordered husable hreached.ordered rfl hdone
  rw [hclose] at hrun'
  cases hrun'
  have hfiles := Files.reclosed hcurrent hentry (.file name (openFlags oflag) place)
  rw [hfiles] at hordered
  exact ⟨hclose, hordered⟩

/-- The files are as they were after a removal that fails before it changes anything. -/
theorem remove_unwritten (hrest : card.AtRest rounds files)
    (hname : make83Name fileName = some name) (hentry : files.entry name = .file bytes false)
    (hclean : card.volume.cacheDirty = false) {after : SdCard}
    (hremove : card.remove io rounds fileName = some (false, after))
    (hwritten : card.volume.Unwritten after.volume) : after.AtRest rounds files := by
  have hagreed : Agreed card.layout (card.volume, card.root, FatFile.closedFile) files :=
    hrest.ordered
  have hends : Ends (FatFile.removeIn io card.layout rounds fileName)
      (card.volume, card.root) _ _ :=
    hagreed.ends_removeIn_unwritten hrest.usable.sound hrest.usable.rounds hrest.current hname
      hentry hclean
  obtain ⟨hlayout, hrun⟩ := remove_run_none hremove
  unfold Ends at hends
  rw [hrun] at hends
  refine ⟨hrest.usable.of_layout hlayout, ?_, hrest.current⟩
  rw [Ordered, hlayout]
  exact hends hwritten

/-- Nor is anything written where the file is not opened. -/
theorem openIn_unwritten (hrest : card.AtRest rounds files)
    (hname : make83Name fileName = some name) (hentry : files.entry name = .file bytes false)
    (hexcl : oflag &&& (oCreat ||| oExcl) ≠ oCreat ||| oExcl) (htrunc : oflag &&& oTrunc = 0)
    (hclean : card.volume.cacheDirty = false) {after : SdCard}
    (hopen : card.openIn io rounds fileName oflag = some (none, after)) :
    after.AtRest rounds files ∧ after.volume.cacheDirty = false := by
  have hagreed : Agreed card.layout card.opening files := hrest.ordered
  have hends : Ends (FatFile.openIn io card.layout rounds fileName oflag) card.opening _ _ :=
    hagreed.ends_openIn_unwritten hrest.usable.sound rfl hname hentry htrunc hclean
  obtain ⟨hlayout, hordered⟩ :=
    openIn_failed hrest.usable hrest.ordered hrest.current hname hentry hexcl htrunc hopen
  obtain ⟨-, file, hrun⟩ := openIn_run_none hopen
  unfold Ends at hends
  rw [hrun] at hends
  exact ⟨⟨hrest.usable.of_layout hlayout, hordered, hrest.current⟩, hends.1.clean⟩

/-- A removal does no more than open a file that it cannot cut. -/
theorem remove_uncut {volume volume' : SdVolume} {root cut : FatFile}
    (hopen : (FatFile.openIn io card.layout rounds fileName oWrite).run.run card.opening =
      (some (some ()), volume, root, handle))
    (hcut : (FatFile.truncate io card.layout rounds 0).run.run (volume, handle) =
      (none, volume', cut)) :
    card.remove io rounds fileName =
      some (false, { card with volume := volume', root := root }) := by
  have hremove : (FatFile.onFile (FatFile.remove io card.layout rounds)).run.run
      (volume, root, handle) = (none, volume', root, cut) := by
    rw [FatFile.onFile, run_onPart, FatFile.remove, run_bind_none hcut]
  have hall : (FatFile.removeIn io card.layout rounds fileName).run.run
      (card.volume, card.root) = (none, volume', root) := by
    refine (congrArg (fun result : Option (Option Unit) × FatFile.Opening =>
      (result.1, result.2.1, result.2.2.1)) (run_bind_some hopen)).trans ?_
    exact congrArg (fun result : Option (Option Unit) × FatFile.Opening =>
      (result.1, result.2.1, result.2.2.1)) hremove
  rw [SdCard.remove, hall]

/-- A file that is not empty is not removed. -/
theorem remove_silent (husable : card.Usable rounds) (hordered : card.Ordered none files)
    (hcurrent : files.current = .closed) (hname : make83Name fileName = some name)
    (hentry : files.entry name = .file bytes false) (hbytes : bytes ≠ [])
    (hsilent : card.volume.Silent io 1) :
    ∃ after, card.remove io rounds fileName = some (false, after) ∧
      after.layout = card.layout ∧ after.Ordered none files ∧ ∀ {more},
        card.volume.Silent io (more + 1) → after.volume.Silent io more := by
  obtain ⟨file, after, hopen, hlayout, hcase⟩ := openIn_silent husable hordered hcurrent hname
    hentry (by decide : oWrite &&& (oCreat ||| oExcl) ≠ oCreat ||| oExcl) (by decide) hsilent
  rcases hcase with ⟨rfl, hvolume, hordered'⟩ | ⟨handle, rfl, hvolume, hreached⟩
  · exact ⟨after, remove_unopened hopen, hlayout, hordered',
      fun hmore => hmore.unchanged hvolume⟩
  · obtain ⟨chain, hshows⟩ := hreached.shows
    have husable' := husable.of_layout hlayout
    rw [← hvolume] at hsilent
    obtain ⟨-, hclosed⟩ := hreached.close io husable' hcurrent hentry hsilent.clean
    have hplain : after.layout.Plain after.volume.cacheBlockNumber := by
      rw [← hreached.cached]
      exact hshows.plain
    have hwrite : handle.flags &&& oWrite ≠ 0 := by
      rw [hreached.flags]
      decide
    have hlength := hshows.length
    have hsize : handle.fileSize ≠ 0 := by
      intro hzero
      rw [hzero] at hlength
      exact hbytes (List.length_eq_zero_iff.mp hlength)
    have hrounds : 0 < rounds := by
      have hchain := hshows.toChained.length_le
      have hbound := hshows.size
      have hclusters : chain.length ≠ 0 := by
        intro hnone
        rw [hnone, Nat.zero_mul] at hbound
        exact hsize (UInt32.toNat_inj.mp (Nat.le_zero.mp hbound))
      have hrounds := husable'.rounds
      omega
    obtain ⟨⟨volume, cut⟩, hrun, hafter⟩ := (FatFile.ends_truncate_silent husable'.sound hsilent
      hplain hshows.type hwrite hsize hrounds).run_failed
    rw [hlayout] at hrun
    refine ⟨{ card with volume := volume, root := after.root },
      remove_uncut (openIn_run hopen) hrun, rfl, ?_, fun {more} hmore => ?_⟩
    · have hagreed : Agreed card.layout (after.volume, after.root, FatFile.closedFile) files := by
        rw [← hlayout]
        exact hclosed
      exact (hagreed.restarted husable.sound).unchanged husable.sound hafter
    · rw [← hvolume] at hmore
      have hmore' : (FatFile.restarted after.volume).Silent io (more + 1) :=
        ⟨hmore.clean, hmore.fails⟩
      exact hmore'.unchanged hafter

/-- A file that is opened to be written stands at its end. -/
theorem openFile_silent (husable : card.Usable rounds) (hordered : card.Ordered none files)
    (hcurrent : files.current = .closed) (hname : make83Name fileName = some name)
    (hentry : files.entry name = .file bytes false) (hbytes : bytes ≠ [])
    (hshort : bytes.length ≤ 512) (hsilent : card.volume.Silent io 1) :
    ∃ file after, card.openFile io rounds fileName fileWrite = some (file, after) ∧
      after.layout = card.layout ∧
      (file = none ∧ card.volume.Unchanged after.volume ∧ after.Ordered none files ∨
        ∃ handle, file = some handle ∧ after.volume = card.volume ∧
          Reached name bytes fileWrite bytes.length after handle files) := by
  obtain ⟨file, after, hopen, hlayout, hcase⟩ := openIn_silent husable hordered hcurrent hname
    hentry (by decide : fileWrite &&& (oCreat ||| oExcl) ≠ oCreat ||| oExcl) (by decide) hsilent
  rw [openFile, hopen]
  rcases hcase with ⟨rfl, hkept⟩ | ⟨handle, rfl, hvolume, hreached⟩
  · exact ⟨none, after, rfl, hlayout, .inl ⟨rfl, hkept⟩⟩
  · obtain ⟨chain, hshows⟩ := hreached.shows
    have husable' := husable.of_layout hlayout
    have hlength : bytes.length = handle.fileSize.toNat := hshows.length
    have hstart : handle.curPosition = 0 := UInt32.toNat_inj.mp hshows.place
    have hsize : handle.fileSize ≠ 0 := by
      intro hzero
      rw [hzero] at hlength
      exact hbytes (List.length_eq_zero_iff.mp hlength)
    have hends : Ends (FatFile.seekSet io after.layout handle.fileSize) (after.volume, handle)
        _ _ := FatFile.ends_seekSet_short husable'.sound hshows.type hstart hsize (le_refl _)
      (by rw [← hlength]; exact hshort)
    obtain ⟨_, finish, hseek, rfl⟩ := hends.run_returned
    dsimp only [Option.map_some]
    rw [if_pos (by decide : fileWrite &&& (oAppend ||| oWrite) ≠ 0), hseek]
    refine ⟨_, _, rfl, hlayout, .inr ⟨_, rfl, hvolume, ?_, hreached.cached, hreached.flags⟩⟩
    have hview : (FileView.mk bytes 0).call (openFlags fileWrite) (.seekSet handle.fileSize) =
        some ([], ⟨bytes, bytes.length⟩) := by
      rw [FileView.call, if_pos (by rw [hlength]), ← hlength]
    have hexpect : (files.setEntry name (.file bytes false)
          (.file name (openFlags fileWrite) 0)).expect after.layout
          (.call (.seekSet handle.fileSize)) = some
        { done := some ([], files.setEntry name (.file bytes false)
            (.file name (openFlags fileWrite) bytes.length))
          failed := (files.setEntry name (.file bytes false)
            (.file name (openFlags fileWrite) 0)).lose name .lost } := by
      rw [Files.expect, Files.call]
      dsimp only [Files.setEntry]
      rw [Function.update_self]
      dsimp only
      have hfits : (FileView.mk bytes 0).Fits (openFlags fileWrite)
          (.seekSet handle.fileSize) := trivial
      rw [hview, if_pos hfits]
      dsimp only
      rw [Function.update_idem]
    have hperform : (FatFile.perform io after.layout rounds (.seekSet handle.fileSize)).run.run
        (after.volume, handle) = (some (some []), after.volume,
          FatFile.setPosition handle.fileSize
            (FatFile.setCluster handle.firstCluster handle)) := run_bind_some hseek
    obtain ⟨left, hanswered, hagreed⟩ := Agreed.answered husable'.sound husable'.rounds
      hreached.ordered hexpect (exchange_call hperform after.root)
    cases hanswered
    exact hagreed

/-- Nothing is written at the end of a file that does not end with a block. -/
theorem write_silent (husable : card.Usable rounds)
    (hreached : Reached name bytes fileWrite bytes.length card handle files)
    (hinside : bytes.length % 512 ≠ 0) (hsilent : card.volume.Silent io 1) (buf : Text) :
    ∃ done after, card.write io buf (some handle) = (done, some handle, after) ∧
      after.layout = card.layout ∧ card.volume.Unchanged after.volume ∧
      Reached name bytes fileWrite bytes.length after handle files := by
  obtain ⟨chain, hshows⟩ := hreached.shows
  have hlength : bytes.length = handle.fileSize.toNat := hshows.length
  have hplace : handle.curPosition.toNat = bytes.length := hshows.place
  have hend : handle.curPosition = handle.fileSize :=
    UInt32.toNat_inj.mp (hplace.trans hlength)
  have hoffset : handle.blockOffset ≠ 0 := by
    rw [FatFile.blockOffset_eq, hplace]
    exact hinside
  have hnonzero : 0 < handle.curPosition.toNat := by
    rw [hplace]
    exact Nat.pos_of_ne_zero fun hzero => hinside (by rw [hzero])
  have hcluster : handle.curCluster ∈ chain := by
    have hat := FatFile.index_before hnonzero hshows.reached
    have hcur : handle.curPosition ≠ 0 := by
      intro hzero
      rw [hzero] at hnonzero
      exact absurd hnonzero (Nat.lt_irrefl 0)
    rw [hshows.cluster, if_neg hcur]
    exact List.mem_of_getElem? hat
  have hother : card.volume.cacheBlockNumber ≠
      card.layout.clusterStartBlock handle.curCluster +
        (card.layout.blockOfCluster handle.curPosition).toUInt32 := by
    rw [← hreached.cached, husable.sound.toUInt32_blockOfCluster]
    intro hsame
    exact hshows.apart _ (hshows.clusters _ hcluster) (.inl hcluster)
      ⟨_, Nat.mod_lt _ (Nat.two_pow_pos _), hsame⟩
  have hwrite : handle.flags &&& oWrite ≠ 0 := by
    rw [hreached.flags]
    decide
  have happend : handle.flags &&& oAppend = 0 := by
    rw [hreached.flags]
    decide
  have hsync : handle.flags &&& oSync = 0 := by
    rw [hreached.flags]
    decide
  have hends := FatFile.ends_write_silent hsilent hshows.type hwrite happend hsync hend hoffset
    hother buf
  obtain ⟨done, ⟨volume, file⟩, hrun⟩ : ∃ done finish,
      (FatFile.write io card.layout buf).run.run (card.volume, handle) = (done, finish) :=
    ⟨_, _, rfl⟩
  have hafter : file = handle ∧ card.volume.Unchanged volume := by
    unfold Ends at hends
    rw [hrun] at hends
    cases done with
    | none =>
        cases hends
        exact ⟨rfl, .inr rfl⟩
    | some done =>
        cases hends
        exact ⟨rfl, .inl rfl⟩
  obtain ⟨rfl, hvolume⟩ := hafter
  rw [SdCard.write, hrun]
  refine ⟨_, _, rfl, rfl, hvolume, hreached.ordered.unchanged husable.sound hvolume, ?_,
    hreached.flags⟩
  rw [hreached.cached]
  rcases hvolume with rfl | rfl
  · rfl
  · rfl

/-- Nor is anything printed. -/
theorem printAll_silent (husable : card.Usable rounds)
    (hreached : Reached name bytes fileWrite bytes.length card handle files)
    (hinside : bytes.length % 512 ≠ 0) {pieces : List Text}
    (hsilent : card.volume.Silent io pieces.length) :
    ∃ done after, card.printAll io pieces (some handle) = (done, some handle, after) ∧
      after.layout = card.layout ∧ after.volume.cacheDirty = card.volume.cacheDirty ∧
      Reached name bytes fileWrite bytes.length after handle files := by
  induction pieces generalizing card with
  | nil => exact ⟨true, card, rfl, rfl, rfl, hreached⟩
  | cons buf rest ih =>
      have hfirst : card.volume.Silent io (rest.length + 1) := hsilent
      obtain ⟨done, after, hwrite, hlayout, hvolume, hreached'⟩ :=
        write_silent husable hreached hinside (hfirst.less (Nat.le_add_left 1 _)) buf
      obtain ⟨others, after', hrest, hlayout', hdirty, hreached''⟩ :=
        ih (husable.of_layout hlayout) hreached' (hfirst.unchanged hvolume)
      have hsame : after.volume.cacheDirty = card.volume.cacheDirty := by
        rcases hvolume with hvolume | hvolume
        · rw [hvolume]
        · rw [hvolume]
          rfl
      refine ⟨done && others, after', ?_, hlayout'.trans hlayout, hdirty.trans hsame,
        hreached''⟩
      rw [printAll, hwrite]
      dsimp only
      rw [hrest]

end SdCard

end SenseBox.SD
