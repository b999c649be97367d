import SenseBox.SD.Command

namespace SenseBox.SD

open SenseBox.Data
open SdVolume

/-! However a call ends, its handle stays that of the same directory entry. -/

namespace FatFile

def Stays {Value : Type} (program : Failing Opened Value) : Prop :=
  Relates (fun before after => before.2.SameHandle after.2) program

section Rules

variable {Value Other : Type}

theorem stays_pure (value : Value) : Stays (pure value) :=
  relates_pure (fun opened => .refl opened.2) value

theorem stays_failure : Stays (failure : Failing Opened Value) :=
  relates_failure fun opened => .refl opened.2

theorem Stays.bind {program : Failing Opened Value} {rest : Value → Failing Opened Other}
    (hprogram : Stays program) (hrest : ∀ value, Stays (rest value)) :
    Stays (program >>= rest) :=
  Relates.bind (fun hfirst hsecond => hfirst.trans hsecond) hprogram hrest

theorem stays_getFile : Stays getFile := by
  intro start
  rw [ends_getFile]
  exact .refl start.2

theorem stays_onVolume (program : Failing SdVolume Value) : Stays (onVolume program) := by
  intro start
  rw [ends_onVolume]
  exact .of_forall program (fun _ _ => .refl start.2) (fun _ => .refl start.2)

theorem stays_modifyFile {change : FatFile → FatFile}
    (hchange : ∀ file : FatFile, file.SameHandle (change file)) :
    Stays (modifyFile change) := by
  intro start
  rw [ends_modifyFile]
  exact hchange start.2

end Rules

variable (io : Accesses) (layout : Layout)

theorem sameHandle_setCluster (cluster : UInt32) (file : FatFile) :
    file.SameHandle (setCluster cluster file) := ⟨rfl, rfl, rfl, rfl⟩

theorem sameHandle_setPosition (position : UInt32) (file : FatFile) :
    file.SameHandle (setPosition position file) := ⟨rfl, rfl, rfl, rfl⟩

theorem sameHandle_advance (n : Nat) (file : FatFile) :
    file.SameHandle (advance n file) := ⟨rfl, rfl, rfl, rfl⟩

theorem sameHandle_linkFirst (file : FatFile) : file.SameHandle (linkFirst file) := by
  unfold linkFirst
  split
  · exact ⟨rfl, rfl, rfl, sameFlags_dirty file.flags⟩
  · exact .refl file

theorem sameHandle_cutTo (length : UInt32) (file : FatFile) :
    file.SameHandle (cutTo length file) := ⟨rfl, rfl, rfl, sameFlags_dirty file.flags⟩

theorem stays_addCluster : Stays (addCluster io layout) := by
  refine stays_getFile.bind fun file => (stays_onVolume _).bind fun cluster => ?_
  refine (stays_modifyFile (sameHandle_setCluster cluster)).bind fun _ => ?_
  exact stays_modifyFile sameHandle_linkFirst

theorem stays_followChain (left : Nat) : Stays (followChain io layout left) := by
  induction left with
  | zero => exact stays_pure ()
  | succ left ih =>
      refine stays_getFile.bind fun file => (stays_onVolume _).bind fun cluster => ?_
      exact (stays_modifyFile (sameHandle_setCluster cluster)).bind fun _ => ih

theorem stays_seekSet (pos : UInt32) : Stays (seekSet io layout pos) := by
  refine stays_getFile.bind fun file => ?_
  split
  · exact stays_failure
  · split
    · exact stays_modifyFile (sameHandle_setPosition pos)
    · split
      · refine (stays_modifyFile (sameHandle_setCluster 0)).bind fun _ => ?_
        exact stays_modifyFile (sameHandle_setPosition 0)
      · dsimp only
        split
        · refine (stays_modifyFile (sameHandle_setCluster _)).bind fun _ => ?_
          refine (stays_followChain io layout _).bind fun _ => ?_
          exact stays_modifyFile (sameHandle_setPosition pos)
        · refine (stays_followChain io layout _).bind fun _ => ?_
          exact stays_modifyFile (sameHandle_setPosition pos)

theorem stays_readLocate : Stays (readLocate io layout) := by
  have hblock : ∀ blockOfCluster : UInt8, Stays (do
      let file ← getFile
      return layout.clusterStartBlock file.curCluster + blockOfCluster.toUInt32) :=
    fun _ => stays_getFile.bind fun _ => stays_pure _
  refine stays_getFile.bind fun file => ?_
  split
  · exact stays_pure _
  · dsimp only
    split
    · split
      · exact (stays_modifyFile (sameHandle_setCluster _)).bind fun _ => hblock _
      · refine (stays_onVolume _).bind fun cluster => ?_
        exact (stays_modifyFile (sameHandle_setCluster cluster)).bind fun _ => hblock _
    · exact hblock _

theorem stays_readLoop (toRead : Nat) : Stays (readLoop io layout toRead) := by
  induction toRead using Nat.strong_induction_on with
  | _ toRead ih =>
    rw [readLoop]
    split
    · exact stays_pure []
    · next hmore =>
      refine stays_getFile.bind fun file => ?_
      refine (stays_readLocate io layout).bind fun block => ?_
      refine (stays_onVolume _).bind fun bytes => ?_
      refine (stays_modifyFile (sameHandle_advance _)).bind fun _ => ?_
      have hoffset := blockOffset_lt file
      exact (ih _ (by omega)).bind fun rest => stays_pure _

theorem stays_read (nbyte : UInt16) : Stays (read io layout nbyte) := by
  refine stays_getFile.bind fun file => ?_
  split
  · exact stays_failure
  · exact stays_readLoop io layout _

theorem stays_writeCluster : Stays (writeCluster io layout) := by
  refine stays_getFile.bind fun file => ?_
  split
  · split
    · exact stays_addCluster io layout
    · exact stays_modifyFile (sameHandle_setCluster _)
  · refine (stays_onVolume _).bind fun next => ?_
    split
    · exact stays_addCluster io layout
    · exact stays_modifyFile (sameHandle_setCluster next)

theorem stays_writeRound (bytes : List UInt8) : Stays (writeRound io layout bytes) := by
  have hlocate : Stays (writeLocate io layout) := by
    refine stays_getFile.bind fun file => ?_
    split
    · exact stays_writeCluster io layout
    · exact stays_pure ()
  refine hlocate.bind fun _ => stays_getFile.bind fun file => ?_
  exact (stays_onVolume _).bind fun _ => stays_modifyFile (sameHandle_advance _)

theorem stays_writeLoop (src : List UInt8) : Stays (writeLoop io layout src) := by
  induction hlength : src.length using Nat.strong_induction_on generalizing src with
  | _ length ih =>
    subst hlength
    rw [writeLoop]
    split
    · exact stays_pure ()
    · next hmore =>
      refine stays_getFile.bind fun file => ?_
      refine (stays_writeRound io layout _).bind fun _ => ?_
      have hoffset := blockOffset_lt file
      have hpos := List.length_pos_iff.mpr hmore
      exact ih _ (by rw [List.length_drop]; omega) _ rfl

theorem stays_sync : Stays (sync io) := by
  refine stays_getFile.bind fun file => ?_
  split
  · exact stays_failure
  · split
    · refine (stays_onVolume _).bind fun _ => (stays_onVolume _).bind fun _ => ?_
      have hclear : ∀ file : FatFile, file.SameHandle
          { file with flags := file.flags &&& ~~~fFileDirDirty } :=
        fun file => ⟨rfl, rfl, rfl, sameFlags_clear file.flags⟩
      exact (stays_modifyFile hclear).bind fun _ => stays_onVolume _
    · exact stays_onVolume _

theorem stays_write (buf : List UInt8) : Stays (write io layout buf) := by
  have happend : Stays (seekToAppend io layout) := by
    refine stays_getFile.bind fun file => ?_
    split
    · exact stays_seekSet io layout _
    · exact stays_pure ()
  have hend : Stays (writeEnd io) := by
    refine (stays_modifyFile sameHandle_grow).bind fun _ => stays_getFile.bind fun file => ?_
    split
    · exact stays_sync io
    · exact stays_pure ()
  refine stays_getFile.bind fun file => ?_
  split
  · exact stays_failure
  · exact happend.bind fun _ => (stays_writeLoop io layout buf).bind fun _ => hend

theorem stays_freeAfter (rounds : Nat) (length : UInt32) :
    Stays (freeAfter io layout rounds length) := by
  refine stays_getFile.bind fun file => ?_
  split
  · exact stays_onVolume _
  · refine stays_getFile.bind fun file => (stays_onVolume _).bind fun toFree => ?_
    split
    · exact stays_pure _
    · refine (stays_onVolume _).bind fun freed => ?_
      cases freed with
      | none => exact stays_pure none
      | some _ => exact (stays_onVolume _).bind fun _ => stays_pure _

theorem stays_truncate (rounds : Nat) (length : UInt32) :
    Stays (truncate io layout rounds length) := by
  have hend : ∀ newPos, Stays (truncateEnd io layout length newPos) := fun newPos =>
    (stays_modifyFile (sameHandle_cutTo length)).bind fun _ =>
      (stays_sync io).bind fun _ => stays_seekSet io layout newPos
  refine stays_getFile.bind fun file => ?_
  split
  · exact stays_failure
  · split
    · exact stays_failure
    · split
      · exact stays_pure _
      · refine (stays_seekSet io layout length).bind fun _ => ?_
        refine (stays_freeAfter io layout rounds length).bind fun freed => ?_
        cases freed with
        | none => exact stays_pure none
        | some _ => exact (hend _).bind fun _ => stays_pure _

theorem stays_perform (rounds : Nat) (command : Command) :
    Stays (perform io layout rounds command) := by
  cases command with
  | seekSet pos => exact (stays_seekSet io layout pos).bind fun _ => stays_pure _
  | read nbyte => exact (stays_read io layout nbyte).bind fun _ => stays_pure _
  | write buf => exact (stays_write io layout buf).bind fun _ => stays_pure _
  | truncate length =>
      exact (stays_truncate io layout rounds length).bind fun _ => stays_pure _
  | sync => exact (stays_sync io).bind fun _ => stays_pure _

end FatFile

end SenseBox.SD
