import SenseBox.SD.TruncateFile

namespace SenseBox.SD

open SenseBox.Data
open SdVolume

/-! The calls of an open file, and what they mean for its bytes. -/

inductive Command where
  | seekSet (pos : UInt32)
  | read (nbyte : UInt16)
  | write (buf : List UInt8)
  | truncate (length : UInt32)
  | sync

def Command.Writes : Command → Prop
  | .write _ => True
  | _ => False

/-- The call on the handle, with the bytes that it returns; `none` is that it goes
on. -/
def FatFile.perform (io : Accesses) (layout : Layout) (rounds : Nat) :
    Command → Failing FatFile.Opened (Option (List UInt8))
  | .seekSet pos => do
      FatFile.seekSet io layout pos
      return some []
  | .read nbyte => do
      let bytes ← FatFile.read io layout nbyte
      return some bytes
  | .write buf => do
      FatFile.write io layout buf
      return some []
  | .truncate length => do
      let done ← FatFile.truncate io layout rounds length
      return done.map fun _ => []
  | .sync => do
      FatFile.sync io
      return some []

/-- A file as its user sees it: its bytes, and the place of the next one. -/
structure FileView where
  bytes : List UInt8
  place : Nat

namespace FileView

def start (flags : UInt8) (view : FileView) : Nat :=
  if flags &&& oAppend ≠ 0 then view.bytes.length else view.place

/-- What a call returns and leaves; `none` is that it is refused. -/
def call (flags : UInt8) (view : FileView) : Command → Option (List UInt8 × FileView)
  | .seekSet pos =>
      if pos.toNat ≤ view.bytes.length then some ([], { view with place := pos.toNat })
      else none
  | .read nbyte =>
      if flags &&& oRead = 0 then none
      else
        let bytes := (view.bytes.drop view.place).take nbyte.toNat
        some (bytes, { view with place := view.place + bytes.length })
  | .write buf =>
      if flags &&& oWrite = 0 then none
      else some ([], ⟨put view.bytes (view.start flags) buf,
        view.start flags + buf.length⟩)
  | .truncate length =>
      if flags &&& oWrite = 0 ∨ view.bytes.length < length.toNat then none
      else some ([], ⟨view.bytes.take length.toNat, min view.place length.toNat⟩)
  | .sync => some ([], view)

def Fits (flags : UInt8) (view : FileView) : Command → Prop
  | .write buf => view.start flags + buf.length < 2 ^ 32
  | _ => True

end FileView

structure Shows (layout : Layout) (volume : SdVolume) (chain : List UInt32)
    (file : FatFile) (view : FileView) : Prop extends Held layout volume chain file where
  bytes : contentOf layout volume chain file.fileSize.toNat = view.bytes
  place : file.curPosition.toNat = view.place

variable {layout : Layout} {io : Accesses} {chain : List UInt32} {file : FatFile}
  {volume : SdVolume} {view : FileView}

theorem Layout.Chained.length_le {table : UInt32 → UInt32}
    (hchain : layout.Chained table chain) : chain.length ≤ layout.clusterCount.toNat := by
  have hsub : chain.map UInt32.toNat ⊆ List.range' 2 layout.clusterCount.toNat := by
    intro number hnumber
    obtain ⟨cluster, hin, rfl⟩ := List.mem_map.mp hnumber
    obtain ⟨hlow, hhigh⟩ := hchain.clusters cluster hin
    rw [List.mem_range'_1]
    omega
  have hnodup : (chain.map UInt32.toNat).Nodup :=
    hchain.linked.nodup.map fun _ _ hsame => UInt32.toNat_inj.mp hsame
  have hle := (hnodup.subperm hsub).length_le
  rwa [List.length_map, List.length_range'] at hle

namespace Shows

theorem length (hshows : Shows layout volume chain file view) :
    view.bytes.length = file.fileSize.toNat := by
  rw [← hshows.bytes, length_contentOf]

theorem start (hshows : Shows layout volume chain file view) :
    view.start file.flags = file.writeStart := by
  rw [FileView.start, FatFile.writeStart, hshows.length, hshows.place]

end Shows

structure Answered (layout : Layout) (chain chain' : List UInt32) (view' : FileView)
    (before after : FatFile.Opened) : Prop where
  served : Served layout chain chain' view'.bytes before after
  place : after.2.curPosition.toNat = view'.place

theorem Answered.shows {chain' : List UInt32} {view' : FileView}
    {before after : FatFile.Opened}
    (hanswered : Answered layout chain chain' view' before after) :
    Shows layout after.1 chain' after.2 view' where
  toHeld := hanswered.served.held
  bytes := hanswered.served.content
  place := hanswered.place

namespace FatFile

theorem ends_perform_refused (hshows : Shows layout volume chain file view) {rounds : Nat}
    {command : Command} (hrefused : view.call file.flags command = none) :
    Ends (perform io layout rounds command) (volume, file) (fun _ _ => False)
      (fun after => after = (volume, file)) := by
  have hlength := hshows.length
  cases command with
  | seekSet pos =>
      have hpast : file.type = .closed ∨ pos > file.fileSize := by
        right
        rw [gt_iff_lt, UInt32.lt_iff_toNat_lt, ← hlength]
        by_contra hnot
        rw [FileView.call, if_pos (Nat.not_lt.mp hnot)] at hrefused
        cases hrefused
      rw [perform, seekSet, ends_bind, ends_bind, ends_getFile, if_pos hpast, ends_failure]
  | read nbyte =>
      have hflags : file.type = .closed ∨ file.flags &&& oRead = 0 := by
        right
        by_contra hnot
        rw [FileView.call, if_neg hnot] at hrefused
        cases hrefused
      rw [perform, read, ends_bind, ends_bind, ends_getFile, if_pos hflags, ends_failure]
  | write buf =>
      have hflags : file.type ≠ .normal ∨ file.flags &&& oWrite = 0 := by
        right
        by_contra hnot
        rw [FileView.call, if_neg hnot] at hrefused
        cases hrefused
      rw [perform, write, ends_bind, ends_bind, ends_getFile, if_pos hflags, ends_failure]
  | truncate length =>
      have hnone : file.flags &&& oWrite = 0 ∨ length > file.fileSize := by
        rw [gt_iff_lt, UInt32.lt_iff_toNat_lt, ← hlength]
        by_contra hnot
        rw [FileView.call, if_neg hnot] at hrefused
        cases hrefused
      rw [perform, truncate, ends_bind, ends_bind, ends_getFile]
      by_cases hflags : file.type ≠ .normal ∨ file.flags &&& oWrite = 0
      · rw [if_pos hflags, ends_failure]
      · rw [if_neg hflags, if_pos (hnone.resolve_left fun h => hflags (.inr h)),
          ends_failure]
  | sync => cases hrefused

/-- A call does to the bytes what it means, or an access has failed, or a write finds
no cluster free. -/
theorem ends_perform (hsound : layout.Sound) (hcoherent : Coherent layout volume)
    (hstartable : Startable layout volume) (hshows : Shows layout volume chain file view)
    {rounds : Nat} (hrounds : layout.clusterCount.toNat ≤ rounds) {command : Command}
    (hfits : view.Fits file.flags command) {bytes : List UInt8} {view' : FileView}
    (hcall : view.call file.flags command = some (bytes, view')) :
    Ends (perform io layout rounds command) (volume, file)
      (fun answer after => answer = some bytes ∧
        ∃ chain', Answered layout chain chain' view' (volume, file) after)
      (fun after => Within layout (· ∈ chain) file.entryOf volume after.1 ∧
        (Broken io ∨ command.Writes ∧ Full layout after.1)) := by
  have hheld := hshows.toHeld
  have hlength := hshows.length
  have hplace := hshows.place
  have hcontent := hshows.bytes
  cases command with
  | seekSet pos =>
      rw [FileView.call] at hcall
      split at hcall
      · next hle =>
        cases hcall
        rw [hlength] at hle
        rw [perform, ends_bind]
        apply (ends_seekSet hsound hcoherent hheld.toFileAt hle).imp
        · rintro - after ⟨hkept, hmoved, hfile⟩
          have hserved := hheld.moved hsound hstartable hkept hmoved hfile
          rw [hcontent] at hserved
          refine ⟨rfl, chain, hserved, ?_⟩
          rw [hmoved]
        · rintro after ⟨hkept, hbroken⟩
          exact ⟨hkept.within hsound hstartable, .inl hbroken⟩
      · cases hcall
  | read nbyte =>
      rw [FileView.call] at hcall
      split at hcall
      · cases hcall
      · next hflags =>
        cases hcall
        rw [perform, ends_bind]
        apply (ends_read hsound hcoherent hheld.toFileAt hflags nbyte).imp
        · rintro got after ⟨hgot, hkept, hmoved, hfile⟩
          have hserved := hheld.moved hsound hstartable hkept hmoved hfile
          rw [hcontent, hplace] at hgot
          rw [hcontent] at hserved
          have hnat : (file.curPosition + UInt32.ofNat got.length).toNat =
              view.place + got.length := by
            have hposition := hheld.position
            have hlt := file.fileSize.toNat_lt
            have hgot' := congrArg List.length hgot
            rw [List.length_take, List.length_drop, hlength] at hgot'
            rw [toNat_position (by omega), hplace]
          refine ⟨congrArg some hgot, chain, hserved, ?_⟩
          rw [hmoved, ← hgot]
          exact hnat
        · rintro after ⟨hkept, hbroken⟩
          exact ⟨hkept.within hsound hstartable, .inl hbroken⟩
  | write buf =>
      rw [FileView.call] at hcall
      split at hcall
      · cases hcall
      · next hflags =>
        cases hcall
        have hstart := hshows.start
        have hfit : file.writeStart + buf.length < 2 ^ 32 := hstart ▸ hfits
        rw [perform, ends_bind]
        apply (ends_write hsound hcoherent hstartable hheld hflags hfit).imp
        · rintro - after ⟨more, hserved, hposition, -⟩
          rw [hcontent, ← hstart] at hserved
          rw [← hstart] at hposition
          exact ⟨rfl, chain ++ more, hserved, hposition⟩
        · rintro after ⟨hwithin, hreason⟩
          exact ⟨hwithin, hreason.imp_right fun hfull => ⟨trivial, hfull⟩⟩
  | truncate length =>
      rw [FileView.call] at hcall
      split at hcall
      · cases hcall
      · next hnone =>
        cases hcall
        obtain ⟨hflags, hle⟩ := not_or.mp hnone
        rw [Nat.not_lt, hlength] at hle
        rw [perform, ends_bind]
        apply (ends_truncate hsound hcoherent hstartable hheld hflags hle
          (hheld.toChained.length_le.trans hrounds)).imp
        · rintro done after ⟨rfl, kept, hserved, hposition⟩
          rw [hcontent] at hserved
          rw [hplace] at hposition
          exact ⟨rfl, kept, hserved, hposition⟩
        · rintro after ⟨hwithin, hbroken⟩
          exact ⟨hwithin, .inl hbroken⟩
  | sync =>
      cases hcall
      have hopen : ¬ file.type = .closed := by
        rw [hheld.type]
        exact nofun
      rw [perform, ends_bind]
      apply (ends_sync hsound hcoherent hstartable hheld.plain hopen).imp
      · rintro - after hsynced
        obtain ⟨hserved, -⟩ := hheld.synced hsound hstartable hsynced
        rw [hcontent] at hserved
        refine ⟨rfl, chain, hserved, ?_⟩
        rw [hsynced.handle]
        exact hplace
      · rintro after ⟨hwithin, hbroken⟩
        exact ⟨hwithin, .inl hbroken⟩

end FatFile

end SenseBox.SD
