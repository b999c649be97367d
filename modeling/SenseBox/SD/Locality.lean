import SenseBox.Data.Local
import SenseBox.SD.Command
import SenseBox.SD.FatDir

namespace SenseBox.SD

open SenseBox.Data

/-! What the library does depends on those accesses of the card only that it makes. -/

/-- Some access between these numbers fails. -/
def BrokenIn (io : Accesses) (first last : Nat) : Prop :=
  ∃ place block, first ≤ place ∧ place < last ∧ io place block = false

theorem broken_within_iff {io : Accesses} {first last : Nat} :
    SdVolume.Broken (Oracle.within io first last) ↔ BrokenIn io first last := by
  unfold SdVolume.Broken BrokenIn
  simp only [Oracle.within_false_iff]

variable (layout : Layout) (rounds : Nat)

namespace SdVolume

theorem local_access (block : UInt32) : Local accesses fun io => access io block := by
  have hrun : ∀ (io : Accesses) (volume : SdVolume), (access io block).run.run volume =
      (if io volume.accesses block then some () else none,
        { volume with accesses := volume.accesses + 1 }) := by
    intro io volume
    rw [access]
    simp only [OptionT.run_bind, Option.elimM, StateT.run_bind]
    change ((if io volume.accesses block then pure () else failure :
      Failing SdVolume Unit).run.run _) = _
    split <;> rfl
  intro io volume value finish hfinish
  rw [hrun] at hfinish
  cases hfinish
  refine ⟨Nat.le_succ _, fun io' hsame => ?_⟩
  rw [hrun, hsame volume.accesses (Nat.le_refl _) (Nat.lt_succ_self _)]

theorem local_readBlock (block : UInt32) : Local accesses fun io => readBlock io block :=
  (local_access block).bind fun _ => local_get.bind fun _ => local_pure _

theorem local_writeBlock (block : UInt32) (data : Block) :
    Local accesses fun io => writeBlock io block data :=
  (local_access block).bind fun _ => local_modify fun _ => rfl

theorem local_flushMirror : Local accesses flushMirror :=
  local_get.bind fun _ =>
    .ite ((local_writeBlock _ _).bind fun _ => local_modify fun _ => rfl) (local_pure _)

theorem local_cacheFlush : Local accesses cacheFlush :=
  local_get.bind fun _ =>
    .ite ((local_writeBlock _ _).bind fun _ => local_flushMirror.bind fun _ =>
      local_modify fun _ => rfl) (local_pure _)

theorem local_loadBlock (block : UInt32) : Local accesses fun io => loadBlock io block :=
  local_get.bind fun _ =>
    .ite (local_cacheFlush.bind fun _ => (local_readBlock block).bind fun _ =>
      local_modify fun _ => rfl) (local_pure _)

theorem local_cacheRawBlock (block : UInt32) (action : CacheAction) :
    Local accesses fun io => cacheRawBlock io block action := by
  refine (local_loadBlock block).bind fun _ => ?_
  cases action with
  | forRead => exact local_pure _
  | forWrite => exact local_modify fun _ => rfl

theorem local_cacheZeroBlock (block : UInt32) :
    Local accesses fun io => cacheZeroBlock io block :=
  local_cacheFlush.bind fun _ => local_modify fun _ => rfl

theorem local_cacheFatBlock (lba : UInt32) : Local accesses fun io => cacheFatBlock io lba :=
  local_get.bind fun _ => .ite (local_cacheRawBlock lba .forRead) (local_pure _)

theorem local_fatGet (cluster : UInt32) : Local accesses fun io => fatGet io layout cluster :=
  .ite local_failure ((local_cacheFatBlock _).bind fun _ => local_get.bind fun _ =>
    local_pure _)

theorem local_fatPut (cluster value : UInt32) :
    Local accesses fun io => fatPut io layout cluster value :=
  .ite local_failure (.ite local_failure ((local_cacheFatBlock _).bind fun _ =>
    local_modify fun _ => rfl))

theorem local_allocSearch (count : UInt32) (left : Nat) (bgnCluster endCluster : UInt32) :
    Local accesses fun io => allocSearch io layout count left bgnCluster endCluster := by
  induction left generalizing bgnCluster endCluster with
  | zero => exact local_failure
  | succ left ih =>
      refine (local_fatGet layout _).bind fun f => ?_
      exact .ite (ih _ _) (.ite (local_pure _) (ih _ _))

theorem local_linkClusters (bgnCluster : UInt32) (left : Nat) :
    Local accesses fun io => linkClusters io layout bgnCluster left := by
  induction left with
  | zero => exact local_pure _
  | succ left ih => exact (local_fatPut layout _ _).bind fun _ => ih

theorem local_allocContiguous (count curCluster : UInt32) :
    Local accesses fun io => allocContiguous io layout count curCluster := by
  have henter : ∀ bgnCluster endCluster, Local accesses fun io =>
      enterGroup io layout curCluster bgnCluster endCluster := fun bgnCluster endCluster =>
    (local_fatPut layout _ _).bind fun _ => (local_linkClusters layout _ _).bind fun _ =>
      .ite (local_fatPut layout _ _) (local_pure _)
  refine local_get.bind fun volume => (local_allocSearch layout count _ _ _).bind fun group => ?_
  refine (henter _ _).bind fun _ => .bind (local_modify ?_) fun _ => local_pure _
  exact fun _ => rfl

theorem local_freeChain (cluster : UInt32) :
    Local accesses fun io => freeChain io layout rounds cluster := by
  have hloop : Local accesses fun io => freeLoop io layout rounds cluster := by
    induction rounds generalizing cluster with
    | zero => exact local_pure _
    | succ left ih =>
        refine (local_fatGet layout cluster).bind fun next => ?_
        exact (local_fatPut layout cluster 0).bind fun _ => .ite (local_pure _) (ih next)
  refine .bind (local_modify ?_) fun _ => hloop
  exact fun _ => rfl

theorem local_chainSize (cluster size : UInt32) :
    Local accesses fun io => chainSize io layout rounds cluster size := by
  induction rounds generalizing cluster size with
  | zero => exact local_pure _
  | succ left ih =>
      refine (local_fatGet layout cluster).bind fun next => ?_
      exact .ite (local_pure _) (ih _ _)

theorem local_writePart (fresh : Bool) (block : UInt32) (offset : Nat) (bytes : List UInt8) :
    Local accesses fun io => writePart io fresh block offset bytes := by
  have hcopy : ∀ volume, (copyToCache offset bytes volume).accesses = volume.accesses :=
    fun _ => rfl
  refine .ite ((local_modify fun volume => ?_).bind fun _ => local_writeBlock _ _) (.ite ?_ ?_)
  · split <;> rfl
  · refine Local.bind ?_ fun _ => local_modify hcopy
    exact local_cacheFlush.bind fun _ => local_modify fun _ => rfl
  · exact (local_cacheRawBlock _ _).bind fun _ => local_modify hcopy

theorem local_readPart (unbuffered : Bool) (block : UInt32) (offset n : Nat) :
    Local accesses fun io => readPart io unbuffered block offset n :=
  local_get.bind fun _ => .ite ((local_readBlock _).bind fun _ => local_pure _)
    ((local_cacheRawBlock _ _).bind fun _ => local_get.bind fun _ => local_pure _)

theorem local_zeroBlocks (block : UInt32) (left : Nat) :
    Local accesses fun io => zeroBlocks io block left := by
  induction left with
  | zero => exact local_pure _
  | succ left ih => exact (local_cacheZeroBlock _).bind fun _ => ih

end SdVolume

namespace FatFile

/-- The accesses of the volume with an open file. -/
def made (opened : Opened) : Nat := opened.1.accesses

theorem local_onVolume {Value : Type} {program : Accesses → Failing SdVolume Value}
    (hprogram : Local SdVolume.accesses program) :
    Local made fun io => onVolume (program io) := by
  refine .onPart ?_ ?_ hprogram
  · exact fun _ => rfl
  · exact fun _ _ => rfl

theorem local_getFile : Local made fun _ : Accesses => getFile :=
  local_get.bind fun _ => local_pure _

theorem local_modifyFile (change : FatFile → FatFile) :
    Local made fun _ : Accesses => modifyFile change :=
  local_modify fun _ => rfl

theorem local_addCluster : Local made fun io => addCluster io layout :=
  local_getFile.bind fun _ =>
    (local_onVolume (SdVolume.local_allocContiguous layout _ _)).bind fun _ =>
      (local_modifyFile _).bind fun _ => local_modifyFile _

theorem local_followChain (left : Nat) : Local made fun io => followChain io layout left := by
  induction left with
  | zero => exact local_pure _
  | succ left ih =>
      refine local_getFile.bind fun file => ?_
      refine (local_onVolume (SdVolume.local_fatGet layout _)).bind fun cluster => ?_
      exact (local_modifyFile _).bind fun _ => ih

theorem local_seekSet (pos : UInt32) : Local made fun io => seekSet io layout pos := by
  refine local_getFile.bind fun file => .ite local_failure (.ite (local_modifyFile _) ?_)
  refine .ite ((local_modifyFile _).bind fun _ => local_modifyFile _) (.ite ?_ ?_)
  · refine (local_modifyFile _).bind fun _ => ?_
    exact (local_followChain layout _).bind fun _ => local_modifyFile _
  · exact (local_followChain layout _).bind fun _ => local_modifyFile _

theorem local_readLocate : Local made fun io => readLocate io layout := by
  have hblock : ∀ blockOfCluster : UInt8, Local made fun _ : Accesses => (do
      let file ← getFile
      return layout.clusterStartBlock file.curCluster + blockOfCluster.toUInt32) :=
    fun _ => local_getFile.bind fun _ => local_pure _
  refine local_getFile.bind fun file => .ite (local_pure _) (.ite (.ite ?_ ?_) (hblock _))
  · exact (local_modifyFile _).bind fun _ => hblock _
  · refine (local_onVolume (SdVolume.local_fatGet layout _)).bind fun cluster => ?_
    exact (local_modifyFile _).bind fun _ => hblock _

theorem local_readLoop (toRead : Nat) : Local made fun io => readLoop io layout toRead := by
  induction toRead using Nat.strong_induction_on with
  | _ toRead ih =>
    have hunfold : (fun io => readLoop io layout toRead) = fun io : Accesses =>
        if toRead = 0 then (pure [] : Failing Opened (List UInt8))
        else (do
          let file ← getFile
          let block ← readLocate io layout
          let n := min toRead (512 - file.blockOffset)
          let bytes ← onVolume (SdVolume.readPart io
            (decide (file.flags &&& fFileUnbufferedRead ≠ 0)) block file.blockOffset n)
          modifyFile (advance n)
          let rest ← readLoop io layout (toRead - n)
          return bytes ++ rest) := by
      funext io
      rw [readLoop]
    rw [hunfold]
    by_cases hmore : toRead = 0
    · simpa only [if_pos hmore] using local_pure _
    · simp only [if_neg hmore]
      refine local_getFile.bind fun file => (local_readLocate layout).bind fun block => ?_
      refine (local_onVolume (SdVolume.local_readPart _ _ _ _)).bind fun bytes => ?_
      have hoffset := blockOffset_lt file
      refine (local_modifyFile _).bind fun _ => ?_
      exact (ih _ (by omega)).bind fun rest => local_pure _

theorem local_read (nbyte : UInt16) : Local made fun io => read io layout nbyte :=
  local_getFile.bind fun _ => .ite local_failure (local_readLoop layout _)

theorem local_writeCluster : Local made fun io => writeCluster io layout := by
  refine local_getFile.bind fun file => .ite (.ite (local_addCluster layout) ?_) ?_
  · exact local_modifyFile _
  · refine (local_onVolume (SdVolume.local_fatGet layout _)).bind fun next => ?_
    exact .ite (local_addCluster layout) (local_modifyFile _)

theorem local_writeRound (bytes : List UInt8) :
    Local made fun io => writeRound io layout bytes := by
  have hlocate : Local made fun io => writeLocate io layout :=
    local_getFile.bind fun _ => .ite (local_writeCluster layout) (local_pure _)
  refine hlocate.bind fun _ => local_getFile.bind fun file => ?_
  exact (local_onVolume (SdVolume.local_writePart _ _ _ _)).bind fun _ => local_modifyFile _

theorem local_writeLoop (src : List UInt8) : Local made fun io => writeLoop io layout src := by
  induction hlength : src.length using Nat.strong_induction_on generalizing src with
  | _ length ih =>
    subst hlength
    by_cases hdone : src = []
    · have hunfold : (fun io => writeLoop io layout src) = fun _ : Accesses =>
          (pure () : Failing Opened Unit) := by
        funext io
        rw [writeLoop, dif_pos hdone]
      rw [hunfold]
      exact local_pure ()
    · have hunfold : (fun io => writeLoop io layout src) = fun io : Accesses => (do
          let file ← getFile
          let n := min (512 - file.blockOffset) src.length
          writeRound io layout (src.take n)
          writeLoop io layout (src.drop n)) := by
        funext io
        rw [writeLoop, dif_neg hdone]
      rw [hunfold]
      refine local_getFile.bind fun file => (local_writeRound layout _).bind fun _ => ?_
      have hoffset := blockOffset_lt file
      have hpos := List.length_pos_iff.mpr hdone
      exact ih _ (by rw [List.length_drop]; omega) _ rfl

theorem local_sync : Local made sync := by
  refine local_getFile.bind fun file => .ite local_failure (.ite ?_ ?_)
  · refine (local_onVolume (SdVolume.local_cacheRawBlock _ _)).bind fun _ => ?_
    refine .bind (local_onVolume (local_modify ?_)) fun _ => ?_
    · exact fun _ => rfl
    · exact (local_modifyFile _).bind fun _ => local_onVolume SdVolume.local_cacheFlush
  · exact local_onVolume SdVolume.local_cacheFlush

theorem local_write (buf : List UInt8) : Local made fun io => write io layout buf := by
  have happend : Local made fun io => seekToAppend io layout :=
    local_getFile.bind fun _ => .ite (local_seekSet layout _) (local_pure _)
  have hend : Local made writeEnd :=
    (local_modifyFile _).bind fun _ => local_getFile.bind fun _ =>
      .ite local_sync (local_pure _)
  refine local_getFile.bind fun file => .ite local_failure ?_
  exact happend.bind fun _ => (local_writeLoop layout buf).bind fun _ => hend

theorem local_truncate (length : UInt32) :
    Local made fun io => truncate io layout rounds length := by
  have hrest : Local made fun io => freeRest io layout rounds := by
    refine local_getFile.bind fun file => ?_
    refine (local_onVolume (SdVolume.local_fatGet layout _)).bind fun toFree => ?_
    refine .ite (local_pure _) ?_
    refine (local_onVolume (SdVolume.local_freeChain layout rounds _)).bind fun freed => ?_
    cases freed with
    | none => exact local_pure _
    | some _ =>
        refine (local_onVolume (SdVolume.local_fatPut layout _ _)).bind fun _ => local_pure _
  have hafter : Local made fun io => freeAfter io layout rounds length :=
    local_getFile.bind fun _ =>
      .ite (local_onVolume (SdVolume.local_freeChain layout rounds _)) hrest
  have hend : ∀ newPos, Local made fun io => truncateEnd io layout length newPos :=
    fun newPos => (local_modifyFile _).bind fun _ => local_sync.bind fun _ =>
      local_seekSet layout newPos
  refine local_getFile.bind fun file => .ite local_failure (.ite local_failure ?_)
  refine .ite (local_pure _) ((local_seekSet layout length).bind fun _ => ?_)
  refine hafter.bind fun freed => ?_
  cases freed with
  | none => exact local_pure _
  | some _ => exact (hend _).bind fun _ => local_pure _

theorem local_perform (command : Command) :
    Local made fun io => perform io layout rounds command := by
  cases command with
  | seekSet pos => exact (local_seekSet layout pos).bind fun _ => local_pure _
  | read nbyte => exact (local_read layout nbyte).bind fun _ => local_pure _
  | write buf => exact (local_write layout buf).bind fun _ => local_pure _
  | truncate length =>
      exact (local_truncate layout rounds length).bind fun _ => local_pure _
  | sync => exact local_sync.bind fun _ => local_pure _

/-! The directory. -/

theorem local_openKind (block : Block) (dirIndex : UInt8) :
    Local made fun io => openKind io layout rounds block dirIndex := by
  refine .ite ((local_modifyFile _).bind fun _ => local_pure _) (.ite ?_ local_failure)
  refine local_getFile.bind fun file => ?_
  refine (local_onVolume (SdVolume.local_chainSize layout rounds _ _)).bind fun size => ?_
  cases size with
  | none => exact local_pure _
  | some size => exact (local_modifyFile _).bind fun _ => local_pure _

theorem local_openCachedEntry (dirIndex oflag : UInt8) :
    Local made fun io => openCachedEntry io layout rounds dirIndex oflag := by
  refine local_get.bind fun opened => .ite local_failure ?_
  refine (local_modifyFile _).bind fun _ => (local_openKind layout rounds _ _).bind fun sized => ?_
  cases sized with
  | none => exact local_pure _
  | some _ =>
      exact (local_modifyFile _).bind fun _ => .ite (local_truncate layout rounds 0) (local_pure _)

theorem local_close : Local made close :=
  local_sync.bind fun _ => local_modifyFile _

theorem local_readDirCache : Local made fun io => readDirCache io layout := by
  refine local_getFile.bind fun file => .ite local_failure ?_
  refine (local_read layout 1).bind fun bytes => .ite local_failure ?_
  exact (local_modifyFile _).bind fun _ => local_pure _

theorem local_addDirCluster : Local made fun io => addDirCluster io layout := by
  refine (local_addCluster layout).bind fun _ => local_getFile.bind fun file => ?_
  exact (local_onVolume (SdVolume.local_zeroBlocks _ _)).bind fun _ => local_modifyFile _

theorem local_remove : Local made fun io => remove io layout rounds := by
  refine (local_truncate layout rounds 0).bind fun done => ?_
  cases done with
  | none => exact local_pure _
  | some _ =>
      refine local_getFile.bind fun file => ?_
      refine (local_onVolume (SdVolume.local_cacheRawBlock _ _)).bind fun _ => ?_
      refine .bind (local_onVolume (local_modify ?_)) fun _ => ?_
      · exact fun _ => rfl
      · refine (local_modifyFile _).bind fun _ => ?_
        exact (local_onVolume SdVolume.local_cacheFlush).bind fun _ => local_pure _

/-- The accesses of the volume with a directory and a file. -/
def madeIn (opening : Opening) : Nat := opening.1.accesses

theorem local_onDirFile {Value : Type} {program : Accesses → Failing Opened Value}
    (hprogram : Local made program) : Local madeIn fun io => onDirFile (program io) := by
  refine .onPart ?_ ?_ hprogram
  · exact fun _ => rfl
  · exact fun _ _ => rfl

theorem local_onFile {Value : Type} {program : Accesses → Failing Opened Value}
    (hprogram : Local made program) : Local madeIn fun io => onFile (program io) := by
  refine .onPart ?_ ?_ hprogram
  · exact fun _ => rfl
  · exact fun _ _ => rfl

theorem local_searchLoop (dname : Name) (left : Nat) (emptyFound : Bool) :
    Local madeIn fun io => searchLoop io layout dname left emptyFound := by
  induction left generalizing emptyFound with
  | zero => exact local_pure _
  | succ left ih =>
      refine local_get.bind fun opening => .ite ?_ (local_pure _)
      refine (local_onDirFile (local_readDirCache layout)).bind fun index => ?_
      refine local_get.bind fun opening => .ite ?_ (.ite ?_ (.ite (local_pure _) (ih _)))
      · exact (local_onFile (local_modifyFile _)).bind fun _ => local_pure _
      · exact (local_onFile (local_modifyFile _)).bind fun _ => ih true

theorem local_create (dname : Name) (oflag : UInt8) (emptyFound : Bool) :
    Local madeIn fun io => create io layout rounds dname oflag emptyFound := by
  have hplace : Local madeIn fun io => placeEntry io layout emptyFound := by
    refine local_get.bind fun opening => .ite ?_ (.ite local_failure ?_)
    · exact local_onFile (local_onVolume (SdVolume.local_cacheRawBlock _ _))
    · refine (local_onDirFile (local_addDirCluster layout)).bind fun _ => ?_
      exact local_onFile (local_modifyFile _)
  have hcreated : Local made fun io => createCached io layout rounds dname oflag := by
    refine local_getFile.bind fun file => .bind (local_onVolume (local_modify ?_)) fun _ => ?_
    · exact fun _ => rfl
    · refine (local_onVolume SdVolume.local_cacheFlush).bind fun _ => ?_
      exact local_openCachedEntry layout rounds _ _
  exact .ite local_failure (hplace.bind fun _ => local_onFile hcreated)

theorem local_openIn (fileName : Text) (oflag : UInt8) :
    Local madeIn fun io => openIn io layout rounds fileName oflag := by
  refine local_get.bind fun opening => .ite local_failure ?_
  cases make83Name fileName with
  | none => exact local_failure
  | some dname =>
      refine (local_onDirFile (local_modifyFile rewind)).bind fun _ => ?_
      refine (local_searchLoop layout dname _ _).bind fun slot => ?_
      cases slot with
      | found index =>
          exact .ite local_failure (local_onFile (local_openCachedEntry layout rounds _ _))
      | absent emptyFound => exact local_create layout rounds dname oflag emptyFound

theorem local_removeIn (fileName : Text) :
    Local made fun io => removeIn io layout rounds fileName := by
  refine .onPart ?_ ?_ ((local_openIn layout rounds fileName oWrite).bind fun done => ?_)
  · exact fun _ => rfl
  · exact fun _ _ => rfl
  · cases done with
    | none => exact local_pure _
    | some _ => exact local_onFile (local_remove layout rounds)

end FatFile

end SenseBox.SD
