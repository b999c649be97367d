import SenseBox.SD.Session

namespace SenseBox.SD

open SenseBox.Data
open SdVolume

/-! Each request is answered as it is expected, or fails where something hinders it. -/

def RootFull (layout : Layout) (opening : FatFile.Opening) : Prop :=
  ∃ extent count, Directory layout (opening.1.fat layout) extent opening.2.1 count ∧
    DirFull layout extent opening.2.1 count opening.1

/-- What keeps a request from being answered as it is meant: an access that fails, or no
cluster or no entry that is free. -/
def Hindered (broken : Prop) (layout : Layout) (before after : FatFile.Opening) :
    Request → Prop
  | .openIn _ _ => broken ∨ Full layout after.1 ∨ RootFull layout before
  | .call command => broken ∨ command.Writes ∧ Full layout after.1
  | .close => broken
  | .removeIn _ => broken

theorem Hindered.imp {broken broken' : Prop} (hbroken : broken → broken') {layout : Layout}
    {before after : FatFile.Opening} {request : Request}
    (hhindered : Hindered broken layout before after request) :
    Hindered broken' layout before after request := by
  cases request with
  | openIn fileName oflag => exact Or.imp_left hbroken hhindered
  | call command => exact Or.imp_left hbroken hhindered
  | close => exact hbroken hhindered
  | removeIn fileName => exact hbroken hhindered

def Done (layout : Layout) (sites : Name → Option Site) (expected : Expected)
    (answer : Option (List UInt8)) (next : FatFile.Opening) : Prop :=
  ∃ bytes left, expected.done = some (bytes, left) ∧ answer = some bytes ∧
    AgreedAt layout sites next left

def Failed (io : Accesses) (layout : Layout) (sites : Name → Option Site)
    (opening : FatFile.Opening) (files : Files) (request : Request) (expected : Expected)
    (next : FatFile.Opening) : Prop :=
  AgreedAt layout sites next expected.failed ∧
    (expected.done = none ∨ files.current = .lost ∨
      Hindered (Broken io) layout opening next request)

variable {layout : Layout} {io : Accesses} {flags : Nat → UInt8} {chains : Nat → List UInt32}
  {extent : List UInt32} {count rounds : Nat} {handles : Nat → FatFile} {views : Views Nat}
  {opening next : FatFile.Opening} {files : Files} {expected : Expected}
  {request : Request} {volume : SdVolume} {file : FatFile} {sites : Name → Option Site}

theorem sites_free {name : Name} (hnone : ∀ site, sites name ≠ some site) :
    sites name = none :=
  Option.eq_none_iff_forall_ne_some.mpr hnone

theorem Agrees.refused
    (hagrees : Agrees layout sites flags chains extent count handles views opening files) :
    Failed io layout sites opening files request files.refused opening :=
  ⟨hagrees.agreed, .inl rfl⟩

/-- A call or a closing that fails has lost the current file. -/
theorem Agrees.lost_within (hsound : layout.Sound)
    (hagrees : Agrees layout sites flags chains extent count handles views opening files)
    {slot : Nat} {name : Name} {locked : Bool} {view : FileView} (hslot : slot < count)
    (hused : ¬ unused name)
    (hmarks : marksAt layout extent opening.2.1.type opening.1 slot = (name, locked))
    (hfree : sites name = none) (hview : views slot = some view)
    (hhandle : handles slot = opening.2.2)
    (hsettled : Settled views handles (some slot)) {after : FatFile.Opened}
    (hwithin : Within layout (· ∈ chains slot) opening.2.2.entryOf opening.1 after.1)
    (hstays : opening.2.2.SameHandle after.2) :
    AgreedAt layout sites (after.1, opening.2.1, after.2) (files.lose name .lost) := by
  obtain ⟨hopen, hshows, hat⟩ := hagrees.shows hview hhandle
  rw [← hhandle] at hwithin
  obtain ⟨hdisk, hslots⟩ := hagrees.disk.lost hsound hopen hwithin
  exact hagrees.lost hslot hused (congrArg Prod.fst hmarks) hfree hsettled.others
    (hstays.type.trans hshows.type) rfl
    ⟨hstays.dirBlock.trans hat.dirBlock, hstays.dirIndex.trans hat.dirIndex⟩ hdisk hslots

theorem FatFile.ends_perform_closed (hclosed : file.type = .closed) (command : Command) :
    Ends (FatFile.perform io layout rounds command) (volume, file) (fun _ _ => False)
      (fun after => after = (volume, file)) := by
  have hother : file.type ≠ .normal := by
    rw [hclosed]
    decide
  cases command with
  | seekSet pos =>
      rw [perform, seekSet, ends_bind, ends_bind, ends_getFile, if_pos (.inl hclosed),
        ends_failure]
  | read nbyte =>
      rw [perform, read, ends_bind, ends_bind, ends_getFile, if_pos (.inl hclosed),
        ends_failure]
  | write buf =>
      rw [perform, write, ends_bind, ends_bind, ends_getFile, if_pos (.inl hother),
        ends_failure]
  | truncate length =>
      rw [perform, truncate, ends_bind, ends_bind, ends_getFile, if_pos (.inl hother),
        ends_failure]
  | sync =>
      rw [perform, sync, ends_bind, ends_bind, ends_getFile, if_pos hclosed, ends_failure]

theorem Agrees.ends_call (hsound : layout.Sound)
    (hagrees : Agrees layout sites flags chains extent count handles views opening files)
    (hrounds : layout.clusterCount.toNat ≤ rounds) {command : Command}
    (hshut : ∀ name site, sites name = some site → files.Shut name)
    (hexpect : files.call command = some expected) :
    Ends (FatFile.onFile (FatFile.perform io layout rounds command)) opening
      (Done layout sites expected)
      (Failed io layout sites opening files (.call command) expected) := by
  have hholding := hagrees.holding
  have hdisk := hagrees.disk
  rw [Files.call] at hexpect
  rw [ends_onFile]
  cases hcurrent : files.current with
  | closed =>
      rw [hcurrent] at hexpect hholding
      cases hexpect
      apply (FatFile.ends_perform_closed hholding.1 command).imp
      · exact fun _ _ hfalse => hfalse.elim
      · rintro after rfl
        exact hagrees.refused
  | lost =>
      rw [hcurrent] at hexpect
      cases hexpect
  | file name flags' place =>
      rw [hcurrent] at hexpect hholding
      obtain ⟨hused, slot, hslot, bytes, locked, hmarks, hentry, hview, hhandle, hflags,
        hsettled⟩ := hholding
      dsimp only at hexpect
      rw [hentry] at hexpect
      dsimp only at hexpect
      have hfree : sites name = none := sites_free fun site hsite =>
        hshut name site hsite flags' place hcurrent
      obtain ⟨hopen, hshows, -⟩ := hagrees.shows hview hhandle
      obtain ⟨hsame, hsame'⟩ := FileView.call_congr hflags ⟨bytes, place⟩ command
      split at hexpect
      · next hfits =>
        cases hcall : FileView.call flags' ⟨bytes, place⟩ command with
        | none =>
            rw [hcall] at hexpect
            cases hexpect
            apply (FatFile.ends_perform_refused hshows (hsame.trans hcall)).imp
            · exact fun _ _ hfalse => hfalse.elim
            · rintro after rfl
              exact hagrees.refused
        | some result =>
            obtain ⟨answer, view'⟩ := result
            rw [hcall] at hexpect
            cases hexpect
            have hends := (FatFile.ends_perform hsound hdisk.shared.coherent
              hdisk.shared.startable hshows hrounds (hsame'.mpr hfits)
              (hsame.trans hcall)).and (FatFile.stays_perform io layout rounds command _)
            apply hends.imp
            · rintro answer' after ⟨⟨rfl, chain', hanswered⟩, -⟩
              rw [← hhandle] at hanswered
              obtain ⟨hdisk', hslots⟩ := hdisk.answered hsound hopen hanswered
              have hflag := hanswered.served.same.flags
              dsimp only at hflag
              rw [hhandle] at hflag
              exact ⟨answer, _, rfl, rfl, hagrees.holds hslot hused hmarks hfree hsettled.others
                (hflags.trans hflag) rfl hdisk' hslots⟩
            · rintro after ⟨⟨hwithin, hreason⟩, hstays⟩
              exact ⟨hagrees.lost_within hsound hslot hused hmarks hfree hview hhandle hsettled
                hwithin hstays, .inr (.inr hreason)⟩
      · cases hexpect

theorem FatFile.ends_close_closed (hclosed : file.type = .closed)
    {returned : Unit → FatFile.Opened → Prop} {failed : FatFile.Opened → Prop}
    (hfailed : failed (volume, file)) : Ends (close io) (volume, file) returned failed := by
  rw [close, ends_bind, sync, ends_bind, ends_getFile, if_pos hclosed]
  exact hfailed

/-- Closing a handle that has been lost writes to its own entry only. -/
theorem Agrees.ends_close_lost (hsound : layout.Sound)
    (hagrees : Agrees layout sites flags chains extent count handles views opening files)
    (hcurrent : files.current = .lost) :
    Ends (FatFile.onFile (FatFile.close io)) opening
      (fun _ => Done layout sites ⟨some ([], { files with current := .closed }), files⟩ (some []))
      (Failed io layout sites opening files .close
        ⟨some ([], { files with current := .closed }), files⟩) := by
  have hholding := hagrees.holding
  have hdisk := hagrees.disk
  rw [hcurrent] at hholding
  rw [ends_onFile]
  obtain ⟨hsettled, hclosed | ⟨hnormal, slot, hslot, hnone, hused, hhandle⟩⟩ := hholding
  · exact FatFile.ends_close_closed hclosed ⟨hagrees.agreed, .inr (.inl hcurrent)⟩
  · have hopen : ¬ opening.2.2.type = .closed := by
      rw [hnormal]
      decide
    have hplain : layout.Plain opening.2.2.dirBlock := by
      rw [hhandle.dirBlock]
      exact hdisk.directory.plain hsound hslot
    have hsync : Ends (FatFile.sync io) (opening.1, opening.2.2)
        (fun _ after => FatFile.Synced layout opening.2.2 opening.1 after)
        (fun after => Within layout (fun _ => False) opening.2.2.entryOf opening.1
          after.1 ∧ Broken io) :=
      FatFile.ends_sync hsound hdisk.shared.coherent hdisk.shared.startable hplain hopen
    rw [FatFile.close]
    apply (hsync.and (FatFile.stays_sync io _)).bind
    · rintro - after ⟨hsynced, -⟩
      have hwithin : Within layout (fun _ => False) opening.2.2.entryOf opening.1
          after.1 := by
        apply hsynced.stored.within hsound hplain hdisk.shared.startable
        intro place hentry
        apply FatFile.syncedBlock_other
        by_contra hin
        have hbounds := not_or.mp hin
        exact hentry ⟨rfl, by omega, by omega⟩
      obtain ⟨hdisk', hslots⟩ := hdisk.unnoticed hsound hslot hnone hhandle hwithin
      have hmarks := marksAt_kept rfl hslots
      rw [ends_modifyFile]
      exact ⟨[], _, rfl, rfl, flags, chains, extent, count, handles, views, hdisk',
        hagrees.slots, fun hspare => (hagrees.vacant hspare).kept hmarks,
        hagrees.lists.kept hmarks, ⟨rfl, hsettled⟩, hagrees.pinned.kept hmarks fun _ _ => rfl⟩
    · rintro after ⟨⟨hwithin, hbroken⟩, hstays⟩
      obtain ⟨hdisk', hslots⟩ := hdisk.unnoticed hsound hslot hnone hhandle hwithin
      have hmarks := marksAt_kept rfl hslots
      refine ⟨⟨flags, chains, extent, count, handles, views, hdisk', hagrees.slots,
        fun hspare => (hagrees.vacant hspare).kept hmarks, hagrees.lists.kept hmarks, ?_,
        hagrees.pinned.kept hmarks fun _ _ => rfl⟩, .inr (.inl hcurrent)⟩
      rw [hcurrent]
      refine ⟨hsettled, .inr ⟨hstays.type.trans hnormal, slot, hslot, hnone, ?_,
        hstays.dirBlock.trans hhandle.dirBlock, hstays.dirIndex.trans hhandle.dirIndex⟩⟩
      rw [hmarks slot hslot]
      exact hused

theorem Agrees.ends_close_file (hsound : layout.Sound)
    (hagrees : Agrees layout sites flags chains extent count handles views opening files)
    {name : Name} {flag : UInt8} {place : Nat} (hfree : sites name = none)
    (hcurrent : files.current = .file name flag place) :
    Ends (FatFile.onFile (FatFile.close io)) opening
      (fun _ => Done layout sites
        ⟨some ([], { files with current := .closed }), files.lose name .lost⟩ (some []))
      (Failed io layout sites opening files .close
        ⟨some ([], { files with current := .closed }), files.lose name .lost⟩) := by
  have hholding := hagrees.holding
  have hdisk := hagrees.disk
  rw [hcurrent] at hholding
  rw [ends_onFile]
  obtain ⟨hused, slot, hslot, bytes, locked, hmarks, hentry, hview, hhandle, hflags,
    hsettled⟩ := hholding
  obtain ⟨hopen, hshows, -⟩ := hagrees.shows hview hhandle
  have hnormal : ¬ opening.2.2.type = .closed := by
    rw [hshows.type]
    decide
  have hsync : Ends (FatFile.sync io) (opening.1, opening.2.2)
      (fun _ after => FatFile.Synced layout opening.2.2 opening.1 after)
      (fun after => Within layout (· ∈ chains slot) opening.2.2.entryOf opening.1
        after.1 ∧ Broken io) :=
    FatFile.ends_sync hsound hdisk.shared.coherent hdisk.shared.startable hshows.plain
      hnormal
  rw [FatFile.close]
  apply (hsync.and (FatFile.stays_sync io _)).bind
  · rintro - after ⟨hsynced, -⟩
    obtain ⟨hserved, hclean⟩ := hshows.toHeld.synced hsound hdisk.shared.startable hsynced
    rw [hshows.bytes] at hserved
    have hplace : after.2.curPosition.toNat = place := by
      rw [hsynced.handle]
      exact hshows.place
    have hanswered : Answered layout (chains slot) (chains slot) ⟨bytes, place⟩
        (opening.1, opening.2.2) after := ⟨hserved, hplace⟩
    rw [← hhandle] at hanswered
    obtain ⟨hdisk', hslots⟩ := hdisk.answered hsound hopen hanswered
    have hsame := marksAt_kept rfl hslots
    have hnow := (hsame slot hslot).trans hmarks
    have hlists : Lists (marksAt layout extent opening.2.1.type after.1) count
        (Function.update views slot (some ⟨bytes, place⟩))
        (Function.update files.entry name (.file bytes locked)) :=
      hagrees.lists.updated (le_refl count) (fun _ => .inl (congrArg Prod.fst hmarks))
        (.inl (congrArg Prod.fst hnow)) (fun other hother _ => hsame other hother)
        (fun _ hfrom hto => absurd hto (Nat.not_lt.mpr hfrom))
        ⟨slot, hslot, hnow, place, Function.update_self ..⟩
    rw [← hentry, Function.update_eq_self] at hlists
    rw [ends_modifyFile]
    refine ⟨[], _, rfl, rfl, flags, _, extent, count, _, _, hdisk', hagrees.slots,
      fun hspare => (hagrees.vacant hspare).kept hsame, hlists, ⟨rfl, ?_⟩, ?_⟩
    · intro other hother _
      dsimp only
      by_cases hdiffer : other = slot
      · subst hdiffer
        rw [Function.update_self]
        exact hclean
      · rw [Function.update_of_ne hdiffer] at hother
        rw [Function.update_of_ne hdiffer]
        exact hsettled.others other hdiffer hother
    · exact hagrees.pinned.updated hfree (le_refl count)
        (fun _ => .inl (congrArg Prod.fst hmarks)) (fun other hother _ => hsame other hother)
        (fun _ _ => rfl) (fun other hdiffer => Function.update_of_ne hdiffer _ _)
        fun other hdiffer => Function.update_of_ne hdiffer _ _
  · rintro after ⟨⟨hwithin, hbroken⟩, hstays⟩
    exact ⟨hagrees.lost_within hsound hslot hused hmarks hfree hview hhandle hsettled hwithin
      hstays, .inr (.inr hbroken)⟩

theorem Agrees.ends_close (hsound : layout.Sound)
    (hagrees : Agrees layout sites flags chains extent count handles views opening files)
    (hshut : ∀ name site, sites name = some site → files.Shut name) :
    Ends (FatFile.onFile (FatFile.close io)) opening
      (fun _ => Done layout sites files.close (some []))
      (Failed io layout sites opening files .close files.close) := by
  unfold Files.close
  cases hcurrent : files.current with
  | closed =>
      have hholding := hagrees.holding
      rw [hcurrent] at hholding
      rw [ends_onFile]
      exact FatFile.ends_close_closed hholding.1 hagrees.refused
  | lost => exact hagrees.ends_close_lost hsound hcurrent
  | file name flag place =>
      have hfree : sites name = none := sites_free fun site hsite =>
        hshut name site hsite flag place hcurrent
      exact hagrees.ends_close_file hsound hfree hcurrent

theorem FatFile.ends_openIn_open (hopen : ¬ opening.2.2.type = .closed) (fileName : Text)
    (oflag : UInt8) {returned : Option Unit → FatFile.Opening → Prop}
    {failed : FatFile.Opening → Prop} (hfailed : failed opening) :
    Ends (openIn io layout rounds fileName oflag) opening returned failed := by
  rw [openIn, ends_bind, ends_get, if_pos hopen]
  exact hfailed

theorem FatFile.ends_openIn_invalid {fileName : Text} (hname : make83Name fileName = none)
    (oflag : UInt8) {returned : Option Unit → FatFile.Opening → Prop}
    {failed : FatFile.Opening → Prop} (hfailed : failed opening) :
    Ends (openIn io layout rounds fileName oflag) opening returned failed := by
  rw [openIn, ends_bind, ends_get, hname]
  dsimp only
  split
  · exact hfailed
  · exact hfailed

theorem Agrees.ends_openFile (hsound : layout.Sound)
    (hagrees : Agrees layout sites flags chains extent count handles views opening files)
    (hrounds : layout.clusterCount.toNat ≤ rounds)
    (hcurrent : ∀ name flags place, files.current ≠ .file name flags place)
    (hclosed : opening.2.2.type = .closed) {fileName : Text} {name : Name}
    (hname : make83Name fileName = some name) (hfree : sites name = none)
    {bytes : List UInt8} {locked : Bool}
    (hentry : files.entry name = .file bytes locked) (oflag : UInt8) :
    Ends (FatFile.openIn io layout rounds fileName oflag) opening
      (fun done => Done layout sites (files.openFile name bytes locked oflag)
        (done.map fun _ => []))
      (Failed io layout sites opening files (.openIn fileName oflag)
        (files.openFile name bytes locked oflag)) := by
  have hused := make83Name_used hname
  have hsettled := hagrees.holding.settled hcurrent
  obtain ⟨slot, hslot, hmarks, hopen, place, hview⟩ := hagrees.listed hused hentry
  have hclean := hsettled slot hopen (Option.some_ne_none slot).symm
  obtain ⟨hat, hlocked⟩ := Prod.mk.inj hmarks
  rw [← hat] at hname
  apply (hagrees.disk.ends_openIn_listed hsound hview hclean hrounds hname hclosed oflag).imp
  · rintro done after ⟨rfl, htype, hexcl, hopens, htrunc, ⟨chain, hdisk⟩, hslots⟩
    dsimp only at hopens hdisk hslots
    rw [hlocked] at hopens
    have hcut : ¬ (oflag &&& oTrunc ≠ 0 ∧ oflag &&& oWrite = 0) :=
      fun hboth => htrunc hboth.1 hboth.2
    have hflag := hdisk.shared.flags
      (by rw [Function.update_self]; exact Option.some_ne_none _)
    dsimp only at hflag
    rw [Function.update_self, Function.update_self] at hflag
    have hview' : (FileView.opened oflag ⟨bytes, place⟩).bytes =
        (FileView.opened oflag ⟨bytes, 0⟩).bytes ∧
        (FileView.opened oflag ⟨bytes, place⟩).place = 0 := by
      unfold FileView.opened
      split
      · exact ⟨rfl, rfl⟩
      · exact ⟨rfl, rfl⟩
    have hheld := hagrees.holds hslot hused hmarks hfree hsettled.all hflag htype hdisk hslots
    rw [hview'.1, hview'.2] at hheld
    refine ⟨[], _, ?_, rfl, hheld⟩
    rw [Files.openFile, if_neg (not_or.mpr ⟨hexcl, hopens⟩)]
    dsimp only
    rw [if_neg hcut]
  · rintro after ⟨htype, hslots, ⟨hclosed', hreason, hdisk⟩ |
      ⟨hexcl, hopens, htrunc, hreason, hnormal, hhandle, hdisk⟩⟩
    · dsimp only at hreason
      rw [hlocked] at hreason
      have hkept := hagrees.unopened hcurrent hclosed' htype hdisk
        (fun other hother => (hslots other hother).marksAt) fun _ _ => rfl
      unfold Files.openFile
      split
      · exact ⟨hkept.agreed, .inl rfl⟩
      · next hrefused =>
        have hbroken : Broken io := by
          rcases hreason with hexcl | hrefuses | hbroken
          · exact absurd (.inl hexcl) hrefused
          · exact absurd (.inr hrefuses) hrefused
          · exact hbroken
        refine ⟨?_, .inr (.inr (.inl hbroken))⟩
        dsimp only
        split
        · exact hkept.forget hcurrent name (le_refl _) id (.inr rfl)
        · exact hkept.agreed
    · dsimp only at hopens
      rw [hlocked] at hopens
      have hlost := hagrees.lost hslot hused hat hfree hsettled.all hnormal htype hhandle
        hdisk hslots
      rw [Files.openFile, if_neg (not_or.mpr ⟨hexcl, hopens⟩)]
      refine ⟨?_, ?_⟩
      · dsimp only
        rw [if_pos htrunc]
        exact hlost
      · rcases hreason with hread | hbroken
        · left
          dsimp only
          rw [if_pos ⟨htrunc, hread⟩]
        · exact .inr (.inr (.inl hbroken))

theorem Agrees.ends_create (hsound : layout.Sound)
    (hagrees : Agrees layout sites flags chains extent count handles views opening files)
    (hcurrent : ∀ name flags place, files.current ≠ .file name flags place)
    (hclosed : opening.2.2.type = .closed) {fileName : Text} {name : Name}
    (hname : make83Name fileName = some name) (hfree : sites name = none)
    (hentry : files.entry name = .absent) {oflag : UInt8}
    (hexpect : files.create layout name oflag = some expected) :
    Ends (FatFile.openIn io layout rounds fileName oflag) opening
      (fun done => Done layout sites expected (done.map fun _ => []))
      (Failed io layout sites opening files (.openIn fileName oflag) expected) := by
  have hused := make83Name_used hname
  have hsettled := hagrees.holding.settled hcurrent
  have hmissing := hagrees.missing hused hentry
  have hroom : oflag &&& (oCreat ||| oWrite) = oCreat ||| oWrite →
      (∀ slot < count, ¬ unused (nameAt layout extent opening.2.1.type opening.1 slot)) →
        dirEntrySize * (count + layout.slotsPerCluster) < 2 ^ 32 := by
    intro hboth hall
    rw [Files.create, if_neg (not_not_intro hboth)] at hexpect
    split at hexpect
    · cases hexpect
    · next hlt =>
      exact Nat.lt_of_le_of_lt (Nat.mul_le_mul_left dirEntrySize (hagrees.room_full hall))
        (Nat.not_le.mp hlt)
  apply (hagrees.disk.ends_openIn_missing hsound hname hmissing hclosed oflag hroom).imp
  · rintro done after ⟨rfl, htype, hboth, extent', count', slot, hdisk, hcreated,
      hlocked⟩
    rw [Files.create, if_neg (not_not_intro hboth)] at hexpect
    split at hexpect
    · cases hexpect
    · cases hexpect
      have hself : Function.update views slot (some (⟨[], 0⟩ : FileView)) slot =
          some ⟨[], 0⟩ := Function.update_self ..
      have hmarks : marksAt layout extent' after.2.1.type after.1 slot = (name, false) := by
        rw [htype, marksAt, hcreated.name, hlocked]
      have hflag := hdisk.shared.flags (by rw [hself]; exact Option.some_ne_none _)
      dsimp only at hflag
      rw [Function.update_self, Function.update_self] at hflag
      refine ⟨[], _, rfl, rfl, _, _, extent', count', _, _, hdisk, hagrees.room hcreated,
        fun hspare => absurd hspare Bool.false_ne_true,
        hagrees.entered htype hcreated ⟨slot, hcreated.inside, hmarks, 0, hself⟩, ?_, ?_⟩
      · exact ⟨hused, slot, hcreated.inside, [], false, hmarks, Function.update_self .., hself,
          Function.update_self .., hflag, .opened hsettled.all _ _⟩
      · exact hagrees.pinned_entered htype hfree hcreated
          (fun other hdiffer => Function.update_of_ne hdiffer _ _)
          fun other hdiffer => Function.update_of_ne hdiffer _ _
  · rintro after ⟨htype, hclosed', hreason, hleft⟩
    have hhindered : oflag &&& (oCreat ||| oWrite) = oCreat ||| oWrite →
        Hindered (Broken io) layout opening after (.openIn fileName oflag) := by
      intro hboth
      rcases hreason with hnone | hbroken | hfull | hroot
      · exact absurd hboth hnone
      · exact .inl hbroken
      · exact .inr (.inl hfull)
      · exact .inr (.inr ⟨extent, count, hagrees.disk.directory, hroot⟩)
    obtain ⟨extent', count', views', hdisk,
      ⟨rfl, rfl, hextended⟩ | ⟨hboth, slot, rfl, hcreated⟩⟩ := hleft
    · have hkept := hagrees.unopened hcurrent hclosed' htype hdisk hextended.old
        hextended.blocks
      rw [Files.create] at hexpect
      split at hexpect
      · cases hexpect
        exact ⟨hkept.agreed, .inl rfl⟩
      · next hboth =>
        split at hexpect
        · cases hexpect
        · cases hexpect
          exact ⟨hkept.forget hcurrent name (files.slots_le_room layout)
            (fun hspare => absurd hspare Bool.false_ne_true) (.inl rfl),
            .inr (.inr (hhindered (not_not.mp hboth)))⟩
    · rw [Files.create, if_neg (not_not_intro hboth)] at hexpect
      split at hexpect
      · cases hexpect
      · cases hexpect
        exact ⟨⟨flags, chains, extent', count', handles, _, hdisk, hagrees.room hcreated,
        fun hspare => absurd hspare Bool.false_ne_true,
          hagrees.entered htype hcreated trivial,
          .of_closed (hsettled.lost slot) hclosed' hcurrent,
          hagrees.pinned_entered htype hfree hcreated (fun _ _ => rfl)
            fun other hdiffer => Function.update_of_ne hdiffer _ _⟩,
          .inr (.inr (hhindered hboth))⟩

/-- Where the handle has been lost and is still open, opening changes nothing, which is no
more than is expected of a failure. -/
theorem Agrees.failed_openFile
    (hagrees : Agrees layout sites flags chains extent count handles views opening files)
    (hcurrent : ∀ name flags place, files.current ≠ .file name flags place) (name : Name)
    (bytes : List UInt8) (locked : Bool) (oflag : UInt8) :
    AgreedAt layout sites opening (files.openFile name bytes locked oflag).failed := by
  unfold Files.openFile
  split
  · exact hagrees.agreed
  · dsimp only
    split
    · exact hagrees.forget hcurrent name (le_refl _) id (.inr rfl)
    · exact hagrees.agreed

theorem Agrees.failed_create
    (hagrees : Agrees layout sites flags chains extent count handles views opening files)
    (hcurrent : ∀ name flags place, files.current ≠ .file name flags place) {name : Name}
    {oflag : UInt8} (hexpect : files.create layout name oflag = some expected) :
    AgreedAt layout sites opening expected.failed := by
  rw [Files.create] at hexpect
  split at hexpect
  · cases hexpect
    exact hagrees.agreed
  · split at hexpect
    · cases hexpect
    · cases hexpect
      exact hagrees.forget hcurrent name (files.slots_le_room layout)
            (fun hspare => absurd hspare Bool.false_ne_true) (.inl rfl)

theorem Files.expect_openIn
    (hcurrent : ∀ name flags place, files.current ≠ .file name flags place) {fileName : Text}
    {name : Name} (hname : make83Name fileName = some name) (oflag : UInt8) :
    files.expect layout (.openIn fileName oflag) =
      match files.entry name with
      | .absent => files.create layout name oflag
      | .file bytes locked => some (files.openFile name bytes locked oflag)
      | .unknown => none := by
  rw [expect, hname]
  cases hleft : files.current with
  | closed => rfl
  | lost => rfl
  | file name flags place => exact absurd hleft (hcurrent name flags place)

theorem Agrees.ends_openIn (hsound : layout.Sound)
    (hagrees : Agrees layout sites flags chains extent count handles views opening files)
    (hrounds : layout.clusterCount.toNat ≤ rounds) {fileName : Text} {oflag : UInt8}
    (hapart : ∀ name site, sites name = some site → make83Name fileName ≠ some name)
    (hexpect : files.expect layout (.openIn fileName oflag) = some expected) :
    Ends (FatFile.openIn io layout rounds fileName oflag) opening
      (fun done => Done layout sites expected (done.map fun _ => []))
      (Failed io layout sites opening files (.openIn fileName oflag) expected) := by
  by_cases hopen : ∃ name flags place, files.current = .file name flags place
  · obtain ⟨name, flag, place, hcurrent⟩ := hopen
    have hholding := hagrees.holding
    rw [hcurrent] at hholding
    rw [Files.expect, hcurrent] at hexpect
    cases hexpect
    exact FatFile.ends_openIn_open (hholding.open_file hagrees.disk) fileName oflag
      hagrees.refused
  · have hcurrent : ∀ name flags place, files.current ≠ .file name flags place :=
      fun name flags place hsame => hopen ⟨name, flags, place, hsame⟩
    cases hname : make83Name fileName with
    | none =>
        apply FatFile.ends_openIn_invalid hname oflag
        rw [Files.expect, hname] at hexpect
        obtain hleft | hleft := Current.closed_or_lost hcurrent
        · rw [hleft] at hexpect
          cases hexpect
          exact hagrees.refused
        · rw [hleft] at hexpect
          cases hexpect
          exact hagrees.refused
    | some name =>
        have hfree : sites name = none := sites_free fun site hsite =>
          hapart name site hsite hname
        rw [Files.expect_openIn hcurrent hname] at hexpect
        by_cases hclosed : opening.2.2.type = .closed
        · cases hentry : files.entry name with
          | absent =>
              rw [hentry] at hexpect
              exact hagrees.ends_create hsound hcurrent hclosed hname hfree hentry hexpect
          | file bytes locked =>
              rw [hentry] at hexpect
              cases hexpect
              exact hagrees.ends_openFile hsound hrounds hcurrent hclosed hname hfree hentry
                oflag
          | unknown =>
              rw [hentry] at hexpect
              cases hexpect
        · have hlost : files.current = .lost := by
            refine (Current.closed_or_lost hcurrent).resolve_left fun hleft => ?_
            have hholding := hagrees.holding
            rw [hleft] at hholding
            exact hclosed hholding.1
          apply FatFile.ends_openIn_open hclosed fileName oflag
          refine ⟨?_, .inr (.inl hlost)⟩
          cases hentry : files.entry name with
          | absent =>
              rw [hentry] at hexpect
              exact hagrees.failed_create hcurrent hexpect
          | file bytes locked =>
              rw [hentry] at hexpect
              cases hexpect
              exact hagrees.failed_openFile hcurrent name bytes locked oflag
          | unknown =>
              rw [hentry] at hexpect
              cases hexpect

theorem Agrees.ends_unlink (hsound : layout.Sound)
    (hagrees : Agrees layout sites flags chains extent count handles views opening files)
    (hrounds : layout.clusterCount.toNat ≤ rounds) {fileName : Text} {name : Name}
    (hname : make83Name fileName = some name) (hfree : sites name = none)
    {bytes : List UInt8} {locked : Bool} (hentry : files.entry name = .file bytes locked)
    (hcurrent : ∀ flags place, files.current ≠ .file name flags place) :
    Ends (FatFile.onDirFile (FatFile.removeIn io layout rounds fileName)) opening
      (fun done => Done layout sites (Files.remove.unlink files name locked)
        (done.map fun _ => []))
      (Failed io layout sites opening files (.removeIn fileName)
        (Files.remove.unlink files name locked)) := by
  have hused := make83Name_used hname
  have hdisk := hagrees.disk
  obtain ⟨slot, hslot, hmarks, hopen, place, hview⟩ := hagrees.listed hused hentry
  obtain ⟨hat, hlocked⟩ := Prod.mk.inj hmarks
  -- The entry is up to date, since the file is not the one that is open.
  have hclean := hagrees.holding.clean hopen hat hcurrent
  have hpinned : ∀ {after : SdVolume} {dir : FatFile},
      (∀ other < count, other ≠ slot → marksAt layout extent dir.type after other =
        marksAt layout extent opening.2.1.type opening.1 other) →
      dir.type = opening.2.1.type →
      Pinned layout extent dir.type (marksAt layout extent dir.type after) chains count
        (Function.update views slot none) sites := by
    intro after dir hmarks' htype
    exact hagrees.pinned.updated hfree (le_refl count) (fun _ => .inl hat) hmarks'
      (fun _ _ => by rw [htype]) (fun _ _ => rfl)
      fun other hdiffer => Function.update_of_ne hdiffer _ _
  rw [← hat] at hname
  rw [ends_onDirFile]
  apply (hdisk.ends_removeIn_listed hsound hview hclean hrounds hname).imp
  · rintro done ⟨after, dir⟩ ⟨rfl, htype, hunlocked, hdisk', hunused, hothers⟩
    dsimp only at htype hunlocked hdisk' hunused hothers ⊢
    obtain rfl : locked = false := hlocked.symm.trans hunlocked
    have hmarks' : ∀ other < count, other ≠ slot →
        marksAt layout extent dir.type after other =
          marksAt layout extent opening.2.1.type opening.1 other := by
      intro other hother hdiffer
      rw [htype]
      exact (hothers other hother hdiffer).marksAt
    have hholding := hagrees.holding.elsewhere hopen hat hcurrent hmarks' .absent
    rw [← htype] at hunused hholding
    refine ⟨[], _, rfl, rfl, flags, chains, extent, count, handles, _, hdisk',
      hagrees.slots, fun _ => ⟨slot, hslot, hunused⟩, ?_, hholding,
      hpinned hmarks' htype⟩
    refine hagrees.lists.updated (le_refl count) (fun _ => .inl hat) (.inr hunused) hmarks'
      (fun _ hfrom hto => absurd hto (Nat.not_lt.mpr hfrom)) ?_
    intro other hother hsame
    by_cases hdiffer : other = slot
    · subst hdiffer
      rw [← hsame] at hused
      exact hused hunused
    · rw [hmarks' other hother hdiffer] at hsame
      exact hdiffer (hagrees.slot_unique hused hslot hat hother hsame)
  · rintro ⟨after, dir⟩ ⟨htype, hothers, hcase⟩
    dsimp only at htype hothers hcase ⊢
    rcases hcase with ⟨hreason, hkept, hdisk'⟩ |
      ⟨hbroken, hunlocked, hnow, hdisk'⟩
    · have hmarks' : ∀ other < count,
          marksAt layout extent dir.type after other =
            marksAt layout extent opening.2.1.type opening.1 other := by
        intro other hother
        rw [htype]
        by_cases hdiffer : other = slot
        · subst hdiffer
          exact hkept.marksAt
        · exact (hothers other hother hdiffer).marksAt
      have hlists := hagrees.lists.kept hmarks'
      have hholding := hagrees.holding.kept hmarks' fun _ _ => rfl
      have hvacant := fun hspare => (hagrees.vacant hspare).kept hmarks'
      have hstays : Pinned layout extent dir.type (marksAt layout extent dir.type after)
          chains count views sites :=
        hagrees.pinned.kept hmarks' fun _ _ => by rw [htype]
      rw [← htype] at hholding
      rw [hlocked] at hreason
      unfold Files.remove.unlink
      split
      · exact ⟨⟨flags, chains, extent, count, handles, views, hdisk', hagrees.slots, hvacant,
          hlists, hholding, hstays⟩, .inl rfl⟩
      · next hunlocked =>
        exact ⟨⟨flags, chains, extent, count, handles, views, hdisk', hagrees.slots, hvacant,
          hlists.lose name, hholding.forget hcurrent, hstays⟩,
          .inr (.inr (hreason.resolve_left hunlocked))⟩
    · have hmarks' : ∀ other < count, other ≠ slot →
          marksAt layout extent dir.type after other =
            marksAt layout extent opening.2.1.type opening.1 other := by
        intro other hother hdiffer
        rw [htype]
        exact (hothers other hother hdiffer).marksAt
      have hholding := hagrees.holding.elsewhere hopen hat hcurrent hmarks' .unknown
      rw [hat] at hnow
      rw [← htype] at hnow hholding
      obtain rfl : locked = false := hlocked.symm.trans hunlocked
      have hvacant := fun hspare =>
        (hagrees.vacant hspare).elsewhere (by rw [hmarks]; exact hused) hmarks'
      refine ⟨⟨flags, chains, extent, count, handles, _, hdisk', hagrees.slots, hvacant, ?_,
        hholding, hpinned hmarks' htype⟩, .inr (.inr hbroken)⟩
      exact hagrees.lists.updated (le_refl count) (fun _ => .inl hat) hnow hmarks'
        (fun _ hfrom hto => absurd hto (Nat.not_lt.mpr hfrom)) trivial

theorem Agrees.ends_removeIn (hsound : layout.Sound)
    (hagrees : Agrees layout sites flags chains extent count handles views opening files)
    (hrounds : layout.clusterCount.toNat ≤ rounds) {fileName : Text}
    (hapart : ∀ name site, sites name = some site → make83Name fileName ≠ some name)
    (hexpect : files.expect layout (.removeIn fileName) = some expected) :
    Ends (FatFile.onDirFile (FatFile.removeIn io layout rounds fileName)) opening
      (fun done => Done layout sites expected (done.map fun _ => []))
      (Failed io layout sites opening files (.removeIn fileName) expected) := by
  rw [Files.expect] at hexpect
  cases hname : make83Name fileName with
  | none =>
      rw [hname] at hexpect
      cases hexpect
      rw [ends_onDirFile, FatFile.removeIn, ends_onPart, ends_bind]
      exact FatFile.ends_openIn_invalid hname oWrite hagrees.refused
  | some name =>
      rw [hname] at hexpect
      dsimp only at hexpect
      have hused := make83Name_used hname
      cases hentry : files.entry name with
      | absent =>
          rw [hentry] at hexpect
          cases hexpect
          rw [ends_onDirFile]
          apply (hagrees.disk.ends_removeIn_missing hsound hname
            (hagrees.missing hused hentry)).imp
          · exact fun _ _ hfalse => hfalse.elim
          · rintro ⟨after, dir⟩ ⟨htype, extent', hdisk, hextended⟩
            dsimp only at htype hdisk hextended ⊢
            have hmarks := hextended.old
            have hblocks := hextended.blocks
            have hholding := hagrees.holding.kept hmarks hblocks
            have hlists := hagrees.lists.kept hmarks
            rw [← htype] at hholding hlists
            exact ⟨⟨flags, chains, extent', count, handles, views, hdisk, hagrees.slots,
              fun hspare => (hagrees.vacant hspare).kept fun slot hslot => by
                rw [htype]
                exact hmarks slot hslot,
              hlists, hholding, hagrees.pinned.kept
                (fun slot hslot => by rw [htype]; exact hmarks slot hslot)
                fun slot hslot => by rw [htype]; exact hblocks slot hslot⟩, .inl rfl⟩
      | file bytes locked =>
          rw [hentry] at hexpect
          dsimp only at hexpect
          rw [Files.remove] at hexpect
          have hunlink : (∀ flags place, files.current ≠ .file name flags place) →
              Ends (FatFile.onDirFile (FatFile.removeIn io layout rounds fileName)) opening
                (fun done => Done layout sites (Files.remove.unlink files name locked)
                  (done.map fun _ => []))
                (Failed io layout sites opening files (.removeIn fileName)
                  (Files.remove.unlink files name locked)) :=
            hagrees.ends_unlink hsound hrounds hname
              (sites_free fun site hsite => hapart name site hsite hname) hentry
          cases hcurrent : files.current with
          | closed =>
              rw [hcurrent] at hexpect hunlink
              cases hexpect
              exact hunlink (Current.closed_ne name)
          | lost =>
              rw [hcurrent] at hexpect hunlink
              cases hexpect
              exact hunlink (Current.lost_ne name)
          | file other flag place =>
              rw [hcurrent] at hexpect hunlink
              dsimp only at hexpect
              split at hexpect
              · cases hexpect
              · next hother =>
                cases hexpect
                apply hunlink
                intro flags' place' hsame
                exact hother (Current.file.inj hsame).1
      | unknown =>
          rw [hentry] at hexpect
          cases hexpect

/-- Each request is answered as it is expected, or fails where something hinders it. -/
theorem Agrees.ends_perform (hsound : layout.Sound)
    (hagrees : Agrees layout sites flags chains extent count handles views opening files)
    (hrounds : layout.clusterCount.toNat ≤ rounds)
    (hapart : ∀ name site, sites name = some site → request.Apart name ∧ files.Shut name)
    (hexpect : files.expect layout request = some expected) :
    Ends (request.perform io layout rounds) opening (Done layout sites expected)
      (Failed io layout sites opening files request expected) := by
  cases request with
  | openIn fileName oflag =>
      rw [Request.perform, ends_bind]
      exact hagrees.ends_openIn hsound hrounds (fun name site hsite => (hapart name site hsite).1)
        hexpect
  | call command =>
      exact hagrees.ends_call hsound hrounds
        (fun name site hsite => (hapart name site hsite).2) hexpect
  | close =>
      cases hexpect
      rw [Request.perform, ends_bind]
      exact hagrees.ends_close hsound fun name site hsite => (hapart name site hsite).2
  | removeIn fileName =>
      rw [Request.perform, ends_bind]
      exact hagrees.ends_removeIn hsound hrounds
        (fun name site hsite => (hapart name site hsite).1) hexpect

end SenseBox.SD
