import SenseBox.SD.DirCluster

namespace SenseBox.SD

open SenseBox.Data
open SdVolume

/-! Opening a file by its name: one of the directory, or a new one. -/

def Printed (byte : UInt8) : Prop := byte = blank ∨ 0x21 ≤ byte ∧ byte ≤ 0x7E

theorem make83Step_printed {c : UInt8} {buffer buffer' : NameBuffer}
    (hbuffer : Printed (firstByte buffer.name)) (hstep : make83Step c buffer = some buffer') :
    Printed (firstByte buffer'.name) := by
  rw [make83Step] at hstep
  split at hstep
  · split at hstep
    · cases hstep
    · cases hstep
      exact hbuffer
  · split at hstep
    · cases hstep
    · split at hstep
      · cases hstep
      · next hrange =>
        cases hstep
        dsimp only
        rw [firstByte, Vector.getElem_setIfInBounds (by decide)]
        split
        · right
          simp only [Bool.or_eq_true, decide_eq_true_eq, not_or, UInt8.not_lt] at hrange
          obtain ⟨⟨-, hlow⟩, hhigh⟩ := hrange
          split
          · exact ⟨hlow, hhigh⟩
          · next hletter =>
            simp only [Bool.or_eq_true, decide_eq_true_eq, not_or, UInt8.not_lt] at hletter
            obtain ⟨hfrom, hto⟩ := hletter
            rw [UInt8.le_iff_toNat_le] at hfrom hto ⊢
            rw [UInt8.le_iff_toNat_le, UInt8.toNat_sub_of_le c 32 (by
              rw [UInt8.le_iff_toNat_le]
              exact Nat.le_trans (by decide) hfrom)]
            have hvalue : (97 : UInt8).toNat = 97 ∧ (122 : UInt8).toNat = 122 ∧
              (32 : UInt8).toNat = 32 ∧ (0x21 : UInt8).toNat = 33 ∧
              (0x7E : UInt8).toNat = 126 := by decide
            omega
        · exact hbuffer

theorem make83Name_used {str : Text} {dname : Name} (hname : make83Name str = some dname) :
    ¬ unused dname := by
  obtain ⟨buffer, hrun, hresult⟩ := Option.bind_eq_some_iff.mp hname
  have hprinted : Printed (firstByte buffer.name) := by
    apply run_invariant (fun buffer => Printed (firstByte buffer.name)) _ _ hrun
    · exact fun c _ start finish hstart hstep => make83Step_printed hstart hstep
    · exact .inl (Vector.getElem_replicate (by decide))
  split at hresult
  · cases hresult
  · next hblank =>
    cases hresult
    obtain ⟨hlow, hhigh⟩ := hprinted.resolve_left hblank
    rintro (hfree | hdeleted)
    · rw [hfree] at hlow
      exact absurd hlow (by decide)
    · rw [hdeleted] at hhigh
      exact absurd hhigh (by decide)

/-! The slot of a new name. -/

section Slots

variable {names : List Name} {dname name : Name}

theorem search_extended (habsent : search .ok dname (entriesOf names) 0 none = .absent none)
    (hfree : firstByte name = nameFree) {more : Nat} (hmore : 0 < more) :
    search .ok dname (entriesOf (names ++ List.replicate more name)) 0 none =
      .absent (some names.length) := by
  obtain ⟨rest, rfl⟩ := Nat.exists_eq_add_of_lt hmore
  rw [Nat.zero_add, List.replicate_succ, entriesOf, List.map_append, List.map_cons]
  rw [entriesOf] at habsent
  rw [search_append _ habsent, search_ok_cons, DirEntry.name_create, if_pos hfree,
    Nat.zero_add, List.length_map]
  rfl

theorem used_of_absent_none
    (habsent : search .ok dname (entriesOf names) 0 none = .absent none) :
    ∀ name ∈ names, ¬ unused name := by
  intro name hname
  have hused := not_unused_of_absent_none habsent (List.mem_map_of_mem hname)
  rwa [DirEntry.name_create] at hused

end Slots

variable {layout : Layout} {io : Accesses} {extent extent' : List UInt32} {dir : FatFile}
  {count count' slot rounds : Nat} {volume after : SdVolume} {dname : Name}
  {flags : Nat → UInt8} {chains : Nat → List UInt32} {state : Handles Nat}
  {views : Views Nat} {view : FileView} {file : FatFile} {oflag : UInt8}

structure Created (layout : Layout) (type : FileType) (extent extent' : List UInt32)
    (count count' slot : Nat) (dname : Name) (before after : SdVolume) : Prop where
  more : count ≤ count'
  bound : count' ≤ count + layout.slotsPerCluster
  full : count < count' →
    ∀ other < count, ¬ unused (nameAt layout extent type before other)
  inside : slot < count'
  free : slot < count → unused (nameAt layout extent type before slot)
  name : nameAt layout extent' type after slot = dname
  blocks : ∀ other < count,
    slotBlock layout extent' type other = slotBlock layout extent type other
  old : ∀ other < count, other ≠ slot →
    marksAt layout extent' type after other = marksAt layout extent type before other
  new : ∀ other, count ≤ other → other < count' → other ≠ slot →
    unused (nameAt layout extent' type after other)

theorem Extended.created {type : FileType} {middle : SdVolume}
    (hextended : Extended layout type extent extent' count count' volume middle)
    (hslot : slot < count') (hfree : unused (nameAt layout extent' type middle slot))
    (hname : nameAt layout extent' type after slot = dname)
    (hkept : ∀ other < count', other ≠ slot →
      SlotKept layout extent' type other middle after) :
    Created layout type extent extent' count count' slot dname volume after where
  more := hextended.more
  bound := hextended.bound
  full := hextended.full
  inside := hslot
  free hold := by
    have hname := congrArg Prod.fst (hextended.old slot hold)
    dsimp only [marksAt] at hname
    rwa [hname] at hfree
  name := hname
  blocks := hextended.blocks
  old other hother hdiffer := by
    have hlt := Nat.lt_of_lt_of_le hother hextended.more
    rw [(hkept other hlt hdiffer).marksAt]
    exact hextended.old other hother
  new other hfrom hto hdiffer := by
    rw [(hkept other hto hdiffer).nameAt]
    exact hextended.new other hfrom hto

/-- The block of the entry for a new name is in the cache, and the name goes with the
others there. -/
structure Placed (layout : Layout) (extent : List UInt32) (count slot : Nat) (dname : Name)
    (after : FatFile.Opening) : Prop where
  inside : slot < count
  cached : after.1.cacheBlockNumber = slotBlock layout extent after.2.1.type slot
  dirty : after.1.cacheDirty = true
  index : after.2.2.dirIndex = slotIndex slot
  free : unused (nameAt layout extent after.2.1.type after.1 slot)
  tidy : Tidy ((namesOf layout extent after.2.1.type after.1 count).set slot dname)

def DirFull (layout : Layout) (extent : List UInt32) (dir : FatFile) (count : Nat)
    (volume : SdVolume) : Prop :=
  dir.type = .root16 ∧ ∀ slot < count, ¬ unused (nameAt layout extent dir.type volume slot)

namespace Disk

theorem ends_searchLoop (hsound : layout.Sound)
    (hdisk : Disk layout flags chains extent count state dir views) (dname : Name)
    (file : FatFile) :
    Ends (FatFile.searchLoop io layout dname (dir.fileSize.toNat / dirEntrySize + 1) false)
      (state.1, dir.rewind, file)
      (fun found after => after.2.2.type = file.type ∧ after.2.1.type = dir.type ∧
        Disk layout flags chains extent count (after.1, state.2) after.2.1 views ∧
        (∀ slot < count, SlotKept layout extent dir.type slot state.1 after.1) ∧
        Searched layout extent dir.type count state.1 file found after
          (search .ok dname (entriesOf (namesOf layout extent dir.type state.1 count)) 0
            none))
      (fun after => after.2.2.type = file.type ∧ after.2.1.type = dir.type ∧
        Disk layout flags chains extent count (after.1, state.2) after.2.1 views ∧
        (∀ slot < count, SlotKept layout extent dir.type slot state.1 after.1) ∧
        Broken io) := by
  have hrewound : dir.Turned dir.rewind := rfl
  have hleft : count ≤ 0 + (dir.fileSize.toNat / dirEntrySize + 1) := by
    rw [hdisk.directory.size, Nat.mul_div_cancel_left _ (by decide)]
    omega
  apply (FatFile.ends_searchLoop hsound hdisk.shared.coherent
    (hdisk.directory.turned hrewound) (Directory.rewound layout extent dir)
    (Nat.zero_le count) dname hleft none file).imp
  · rintro found after ⟨hkept, hturned, htype, hsearched⟩
    have hturned' := hrewound.trans hturned
    obtain ⟨hdisk', hslots⟩ := hdisk.kept hsound hkept hturned'
    exact ⟨htype, hturned'.type, hdisk', hslots, hsearched⟩
  · rintro after ⟨hkept, hturned, htype, hbroken⟩
    have hturned' := hrewound.trans hturned
    obtain ⟨hdisk', hslots⟩ := hdisk.kept hsound hkept hturned'
    exact ⟨htype, hturned'.type, hdisk', hslots, hbroken⟩

/-- An entry is found for a new name, in a new cluster where none is left, or the
directory stays as it is. -/
theorem ends_placeEntry (hsound : layout.Sound)
    (hdisk : Disk layout flags chains extent count state dir views)
    (hused : ¬ unused dname) {empty : Option Nat}
    (habsent : search .ok dname (entriesOf (namesOf layout extent dir.type state.1 count)) 0
      none = .absent empty)
    (hfile : empty.isSome → ∃ before, file = remembered layout extent dir.type empty before)
    (hstanding : empty = none → Standing layout extent dir count)
    (hroom : (∀ slot < count, ¬ unused (nameAt layout extent dir.type state.1 slot)) →
      dirEntrySize * (count + layout.slotsPerCluster) < 2 ^ 32) :
    Ends (FatFile.placeEntry io layout empty.isSome) (state.1, dir, file)
      (fun _ after => after.2.1.type = dir.type ∧ after.2.2.type = file.type ∧
        ∃ extent' count' slot,
          Disk layout flags chains extent' count' (after.1, state.2) after.2.1 views ∧
          Extended layout dir.type extent extent' count count' state.1 after.1 ∧
          Placed layout extent' count' slot dname after)
      (fun after => after.2.1.type = dir.type ∧ after.2.2.type = file.type ∧
        (Broken io ∨ Full layout after.1 ∨ DirFull layout extent dir count state.1) ∧
        ∃ extent',
          Disk layout flags chains extent' count (after.1, state.2) after.2.1 views ∧
          Extended layout dir.type extent extent' count count state.1 after.1) := by
  have htidy := hdisk.tidy
  rw [FatFile.placeEntry, ends_bind, ends_get]
  dsimp only
  cases empty with
  | some slot =>
      obtain ⟨before, rfl⟩ := hfile rfl
      obtain ⟨-, ⟨name, hname, hunused⟩, -⟩ := search_empty habsent
      rw [Nat.sub_zero] at hname
      have hslot : slot < count := by
        have hlt := (List.getElem?_eq_some_iff.mp hname).1
        rwa [length_namesOf] at hlt
      rw [getElem?_namesOf hslot] at hname
      cases hname
      have hplain := hdisk.directory.plain hsound hslot
      rw [if_pos Option.isSome_some, ends_onFile, ends_onVolume]
      apply (ends_cacheRawBlock_write hsound hdisk.shared.coherent hplain).imp
      · rintro - loaded ⟨hloaded, hdirty⟩
        obtain ⟨hdisk', hslots⟩ := hdisk.kept hsound hloaded.toKept (rfl : dir.Turned dir)
        refine ⟨rfl, rfl, extent, count, slot, hdisk', .of_kept hslots, hslot, hloaded.number,
          hdirty, rfl, ?_, ?_⟩
        · dsimp only
          rw [(hslots slot hslot).nameAt]
          exact hunused
        · dsimp only
          rw [namesOf_kept hslots]
          exact htidy.created hused habsent
      · rintro after ⟨hkept, hbroken⟩
        obtain ⟨hdisk', hslots⟩ := hdisk.kept hsound hkept (rfl : dir.Turned dir)
        exact ⟨rfl, rfl, .inl hbroken, extent, hdisk', .of_kept hslots⟩
  | none =>
      have hall := used_of_absent_none habsent
      have hslots : ∀ slot < count, ¬ unused (nameAt layout extent dir.type state.1 slot) :=
        fun slot hslot => hall _ (List.mem_of_getElem? (getElem?_namesOf hslot))
      rw [if_neg (by decide)]
      by_cases htype : dir.type = .root16
      · rw [if_pos htype, ends_failure]
        exact ⟨rfl, rfl, .inr (.inr ⟨htype, hslots⟩), extent, hdisk,
          .of_kept fun _ _ _ _ => rfl⟩
      · have hmore : 0 < layout.slotsPerCluster :=
          Nat.mul_pos (by decide) (Nat.two_pow_pos _)
        rw [if_neg htype, ends_bind, ends_onDirFile]
        apply (hdisk.ends_addDirCluster hsound (hstanding rfl) htype hall (hroom hslots)).imp
        · rintro - ⟨grown, dir'⟩ ⟨extent', hdisk', htype', hextended, hnames, hcached, hindex,
            hdirty⟩
          dsimp only at hdisk' htype' hextended hnames hcached hdirty
          have hlength : (namesOf layout extent dir.type state.1 count).length = count :=
            length_namesOf
          have hsearch := search_extended habsent (by decide :
            firstByte DirEntry.zero.name = nameFree) hmore
          rw [hlength, ← hnames] at hsearch
          rw [ends_onFile, ends_modifyFile]
          refine ⟨htype', rfl, extent', count + layout.slotsPerCluster, count, hdisk',
            hextended, by omega, ?_, hdirty, hindex.symm, ?_, ?_⟩
          · rw [htype']
            exact hcached
          · dsimp only
            rw [htype']
            exact hextended.new count (le_refl count) (by omega)
          · have htidy' := hdisk'.tidy
            rw [htype'] at htidy'
            dsimp only
            rw [htype']
            exact htidy'.created hused hsearch
        · rintro ⟨after, dir'⟩ ⟨hreason, extent', hdisk', htype', hextended⟩
          exact ⟨htype', rfl, hreason.imp_right .inl, extent', hdisk', hextended⟩

/-- A file is opened by its name, or stays as it is, or is lost where it cannot be cut. -/
theorem ends_openIn_listed (hsound : layout.Sound)
    (hdisk : Disk layout flags chains extent count state dir views)
    (hview : views slot = some view)
    (hclean : (state.2 slot).flags &&& fFileDirDirty = 0)
    (hrounds : layout.clusterCount.toNat ≤ rounds) {fileName : Text}
    (hname : make83Name fileName = some (nameAt layout extent dir.type state.1 slot))
    (hclosed : file.type = .closed) (oflag : UInt8) :
    Ends (FatFile.openIn io layout rounds fileName oflag) (state.1, dir, file)
      (fun done after => done = some () ∧ after.2.1.type = dir.type ∧
        oflag &&& (oCreat ||| oExcl) ≠ oCreat ||| oExcl ∧
        ¬ Refuses (lockedAt layout extent dir.type state.1 slot) oflag ∧
        (oflag &&& oTrunc ≠ 0 → oflag &&& oWrite ≠ 0) ∧
        (∃ chain, Disk layout (Function.update flags slot (openFlags oflag))
          (Function.update chains slot chain) extent count
          (after.1, Function.update state.2 slot after.2.2) after.2.1
          (Function.update views slot (some (view.opened oflag)))) ∧
        ∀ other < count, SlotKept layout extent dir.type other state.1 after.1)
      (fun after => after.2.1.type = dir.type ∧
        (∀ other < count, SlotKept layout extent dir.type other state.1 after.1) ∧
        (after.2.2.type = .closed ∧
          (oflag &&& (oCreat ||| oExcl) = oCreat ||| oExcl ∨
            Refuses (lockedAt layout extent dir.type state.1 slot) oflag ∨ Broken io) ∧
          Disk layout flags chains extent count (after.1, state.2) after.2.1 views ∨
        oflag &&& (oCreat ||| oExcl) ≠ oCreat ||| oExcl ∧
          ¬ Refuses (lockedAt layout extent dir.type state.1 slot) oflag ∧
          oflag &&& oTrunc ≠ 0 ∧ (oflag &&& oWrite = 0 ∨ Broken io) ∧
          after.2.2.type = .normal ∧ after.2.2.AtSlot layout extent dir.type slot ∧
          Disk layout flags chains extent count (after.1, state.2) after.2.1
            (Function.update views slot none))) := by
  have hopen : views slot ≠ none := by
    rw [hview]
    exact nofun
  obtain ⟨hslot, hused, -⟩ := hdisk.entry hopen
  rw [FatFile.openIn, ends_bind, ends_get]
  dsimp only
  rw [if_neg (not_not_intro hclosed), hname]
  dsimp only
  rw [ends_bind, ends_onDirFile, ends_modifyFile, ends_bind]
  apply (hdisk.ends_searchLoop hsound _ file).imp
  · rintro found ⟨searched, dir', file'⟩ ⟨htype, htype', hdisk', hslots, hsearched⟩
    dsimp only at htype htype' hdisk' hslots
    rw [hdisk.tidy.search_listed hused (getElem?_namesOf hslot)] at hsearched
    obtain ⟨-, rfl, hcached, -⟩ := hsearched
    dsimp only at hcached ⊢
    by_cases hexcl : oflag &&& (oCreat ||| oExcl) = oCreat ||| oExcl
    · rw [if_pos hexcl, ends_failure]
      exact ⟨htype', hslots, .inl ⟨htype.trans hclosed, .inl hexcl, hdisk'⟩⟩
    · rw [if_neg hexcl, ends_onFile]
      rw [← htype'] at hcached
      have hlocked := (hslots slot hslot).lockedAt
      apply (hdisk'.ends_openCachedEntry hsound hview hclean hrounds hcached oflag file').imp
      · rintro done ⟨after, handle⟩ ⟨rfl, hopens, htrunc, hdisk'', hslots'⟩
        rw [htype', hlocked] at hopens
        rw [htype'] at hslots'
        exact ⟨rfl, htype', hexcl, hopens, htrunc, hdisk'',
          fun other hother => (hslots other hother).trans (hslots' other hother)⟩
      · rintro ⟨after, handle⟩
        rw [htype', hlocked]
        rintro (⟨hrefused, hsame⟩ |
          ⟨hopens, htrunc, hreason, hnormal, hhandle, hlost, hslots'⟩)
        · cases hsame
          exact ⟨rfl, hslots, .inl ⟨htype.trans hclosed, .inr (.inl hrefused), hdisk'⟩⟩
        · exact ⟨rfl, fun other hother => (hslots other hother).trans (hslots' other hother),
            .inr ⟨hexcl, hopens, htrunc, hreason, hnormal, hhandle, hlost⟩⟩
  · rintro after ⟨htype, htype', hdisk', hslots, hbroken⟩
    exact ⟨htype', hslots, .inl ⟨htype.trans hclosed, .inr (.inr hbroken), hdisk'⟩⟩

/-- A new file is made by its name, or the directory stays as it is, or the entry is left
without a file. -/
theorem ends_openIn_missing (hsound : layout.Sound)
    (hdisk : Disk layout flags chains extent count state dir views) {fileName : Text}
    (hname : make83Name fileName = some dname)
    (hmissing : dname ∉ namesOf layout extent dir.type state.1 count)
    (hclosed : file.type = .closed) (oflag : UInt8)
    (hroom : oflag &&& (oCreat ||| oWrite) = oCreat ||| oWrite →
      (∀ slot < count, ¬ unused (nameAt layout extent dir.type state.1 slot)) →
      dirEntrySize * (count + layout.slotsPerCluster) < 2 ^ 32) :
    Ends (FatFile.openIn io layout rounds fileName oflag) (state.1, dir, file)
      (fun done after => done = some () ∧ after.2.1.type = dir.type ∧
        oflag &&& (oCreat ||| oWrite) = oCreat ||| oWrite ∧
        ∃ extent' count' slot,
          Disk layout (Function.update flags slot (openFlags oflag))
            (Function.update chains slot []) extent' count'
            (after.1, Function.update state.2 slot after.2.2) after.2.1
            (Function.update views slot (some ⟨[], 0⟩)) ∧
          Created layout dir.type extent extent' count count' slot dname state.1 after.1 ∧
          lockedAt layout extent' dir.type after.1 slot = false)
      (fun after => after.2.1.type = dir.type ∧ after.2.2.type = .closed ∧
        (oflag &&& (oCreat ||| oWrite) ≠ oCreat ||| oWrite ∨ Broken io ∨
          Full layout after.1 ∨ DirFull layout extent dir count state.1) ∧
        ∃ extent' count' views',
          Disk layout flags chains extent' count' (after.1, state.2) after.2.1 views' ∧
          (views' = views ∧ count' = count ∧
            Extended layout dir.type extent extent' count count' state.1 after.1 ∨
          oflag &&& (oCreat ||| oWrite) = oCreat ||| oWrite ∧ ∃ slot,
            views' = Function.update views slot none ∧
            Created layout dir.type extent extent' count count' slot dname state.1
              after.1)) := by
  have hused := make83Name_used hname
  obtain ⟨empty, habsent⟩ := search_missing hmissing
  rw [FatFile.openIn, ends_bind, ends_get]
  dsimp only
  rw [if_neg (not_not_intro hclosed), hname]
  dsimp only
  rw [ends_bind, ends_onDirFile, ends_modifyFile, ends_bind]
  apply (hdisk.ends_searchLoop hsound dname file).imp
  · rintro found ⟨searched, dir', file'⟩ ⟨htype, htype', hdisk', hslots, hsearched⟩
    dsimp only at htype htype' hdisk' hslots
    rw [habsent] at hsearched
    obtain ⟨rfl, hfile, hstanding⟩ := hsearched
    dsimp only at hfile hstanding ⊢
    rw [FatFile.create]
    by_cases hcreat : oflag &&& (oCreat ||| oWrite) ≠ oCreat ||| oWrite
    · rw [if_pos hcreat, ends_failure]
      exact ⟨htype', htype.trans hclosed, .inl hcreat, extent, count, views, hdisk',
        .inl ⟨rfl, rfl, .of_kept hslots⟩⟩
    · have hboth := not_not.mp hcreat
      have hwrite : oflag &&& oWrite ≠ 0 := by
        intro hnone
        have hmask := congrArg (· &&& oWrite) hboth
        rw [UInt8.and_assoc, (by decide : (oCreat ||| oWrite) &&& oWrite = oWrite), hnone]
          at hmask
        exact absurd hmask (by decide)
      have hnames := namesOf_kept hslots
      have habsent' := habsent
      rw [← hnames, ← htype'] at habsent'
      rw [if_neg hcreat, ends_bind]
      have hroom' : (∀ slot < count, ¬ unused (nameAt layout extent dir'.type searched slot)) →
          dirEntrySize * (count + layout.slotsPerCluster) < 2 ^ 32 := by
        intro hall
        refine hroom hboth fun slot hslot => ?_
        rw [← (hslots slot hslot).nameAt, ← htype']
        exact hall slot hslot
      apply (hdisk'.ends_placeEntry hsound hused habsent' (fun _ => ⟨file, by rw [hfile, htype']⟩)
        hstanding hroom').imp
      · rintro - ⟨placed, dir'', file''⟩ ⟨hsame, hsame', extent', count', slot, hplaced,
          hextended, hready⟩
        dsimp only at hsame hsame' hplaced
        have hdirType := hsame.trans htype'
        rw [htype'] at hextended
        have hextended' := hextended.of_middle hslots
        have hfree := hready.free
        rw [ends_onFile]
        apply (hplaced.ends_createCached hsound hready.inside hused hready.tidy hready.cached
          hready.dirty hready.index hwrite).imp
        · rintro done ⟨after, handle⟩ ⟨rfl, hcreated, hentry, hlocked, hothers⟩
          dsimp only at hcreated hentry hlocked hothers
          rw [hdirType] at hentry hlocked hothers hfree
          exact ⟨rfl, hdirType, hboth, extent', count', slot, hcreated,
            hextended'.created hready.inside hfree hentry hothers, hlocked⟩
        · rintro ⟨after, handle⟩ ⟨hbroken, rfl, hcreated, hentry, hothers⟩
          dsimp only at hcreated hentry hothers
          rw [hdirType] at hentry hothers hfree
          exact ⟨hdirType, hsame'.trans (htype.trans hclosed), .inr (.inl hbroken), extent',
            count', _, hcreated, .inr ⟨hboth, slot, rfl,
              hextended'.created hready.inside hfree hentry hothers⟩⟩
      · rintro ⟨after, dir'', file''⟩ ⟨hsame, hsame', hreason, extent', hdisk'', hextended⟩
        dsimp only at hsame hsame' hreason hdisk''
        rw [htype'] at hextended
        have hextended' := hextended.of_middle hslots
        refine ⟨hsame.trans htype', hsame'.trans (htype.trans hclosed), .inr ?_, extent', count,
          views, hdisk'', .inl ⟨rfl, rfl, hextended'⟩⟩
        apply hreason.imp_right (Or.imp_right _)
        rintro ⟨hroot, hall⟩
        rw [htype'] at hroot hall
        refine ⟨hroot, fun slot hslot => ?_⟩
        rw [← (hslots slot hslot).nameAt]
        exact hall slot hslot
  · rintro after ⟨htype, htype', hdisk', hslots, hbroken⟩
    exact ⟨htype', htype.trans hclosed, .inr (.inl hbroken), extent, count, views, hdisk',
      .inl ⟨rfl, rfl, .of_kept hslots⟩⟩

theorem ends_removeIn_listed (hsound : layout.Sound)
    (hdisk : Disk layout flags chains extent count state dir views)
    (hview : views slot = some view)
    (hclean : (state.2 slot).flags &&& fFileDirDirty = 0)
    (hrounds : layout.clusterCount.toNat ≤ rounds) {fileName : Text}
    (hname : make83Name fileName = some (nameAt layout extent dir.type state.1 slot)) :
    Ends (FatFile.removeIn io layout rounds fileName) (state.1, dir)
      (fun done after => done = some () ∧ after.2.type = dir.type ∧
        lockedAt layout extent dir.type state.1 slot = false ∧
        Disk layout flags chains extent count (after.1, state.2) after.2
          (Function.update views slot none) ∧
        unused (nameAt layout extent dir.type after.1 slot) ∧
        ∀ other < count, other ≠ slot →
          SlotKept layout extent dir.type other state.1 after.1)
      (fun after => after.2.type = dir.type ∧
        (∀ other < count, other ≠ slot →
          SlotKept layout extent dir.type other state.1 after.1) ∧
        ((lockedAt layout extent dir.type state.1 slot = true ∨ Broken io) ∧
          SlotKept layout extent dir.type slot state.1 after.1 ∧
          Disk layout flags chains extent count (after.1, state.2) after.2 views ∨
        Broken io ∧ lockedAt layout extent dir.type state.1 slot = false ∧
          (nameAt layout extent dir.type after.1 slot =
              nameAt layout extent dir.type state.1 slot ∨
            unused (nameAt layout extent dir.type after.1 slot)) ∧
          Disk layout flags chains extent count (after.1, state.2) after.2
            (Function.update views slot none))) := by
  have hopen : views slot ≠ none := by
    rw [hview]
    exact nofun
  have hslot := (hdisk.entry hopen).1
  have huntruncated : ¬ oWrite &&& oTrunc ≠ 0 := by decide
  rw [FatFile.removeIn, ends_onPart]
  apply (hdisk.ends_openIn_listed hsound hview hclean hrounds hname
    (rfl : FatFile.closedFile.type = .closed) oWrite).bind
  · rintro done ⟨opened, dir', file⟩ ⟨rfl, htype, -, hopens, -, ⟨chain, hdisk'⟩, hslots⟩
    dsimp only at htype hdisk' hslots
    have hunlocked : lockedAt layout extent dir.type state.1 slot = false := by
      by_contra hlocked
      exact hopens ⟨by simpa using hlocked, by decide⟩
    have hview' : Function.update views slot (some (view.opened oWrite)) slot =
        some (view.opened oWrite) := Function.update_self ..
    have hself : Function.update state.2 slot file slot = file := Function.update_self ..
    have hflags := hdisk'.shared.flags (by rw [hview']; exact nofun)
    dsimp only at hflags
    rw [Function.update_self, hself] at hflags
    have hwrite : (Function.update state.2 slot file slot).flags &&& oWrite ≠ 0 := by
      rw [hself, hflags.mask (by decide)]
      decide
    have hlost : ∀ {after : SdVolume} {dir'' : FatFile},
        Disk layout (Function.update flags slot (openFlags oWrite))
          (Function.update chains slot chain) extent count
          (after, Function.update state.2 slot file) dir''
          (Function.update (Function.update views slot (some (view.opened oWrite))) slot
            none) →
        Disk layout flags chains extent count (after, state.2) dir''
          (Function.update views slot none) := by
      intro after dir'' hdisk''
      rw [Function.update_idem (f := views)] at hdisk''
      exact hdisk''.unhandled.unchained
    dsimp only
    rw [ends_onFile]
    dsimp only
    rw [← hself]
    apply (hdisk'.ends_remove hsound hview' hwrite hrounds).imp
    · rintro done after ⟨rfl, hdisk'', hunused, hothers⟩
      rw [htype] at hunused hothers
      exact ⟨rfl, htype, hunlocked, hlost hdisk'', hunused,
        fun other hother hdiffer => (hslots other hother).trans (hothers other hother hdiffer)⟩
    · rintro after ⟨hbroken, hdisk'', hname', hothers⟩
      rw [htype] at hname' hothers
      dsimp only at hname'
      rw [(hslots slot hslot).nameAt] at hname'
      exact ⟨htype, fun other hother hdiffer =>
          (hslots other hother).trans (hothers other hother hdiffer),
        .inr ⟨hbroken, hunlocked, hname', hlost hdisk''⟩⟩
  · rintro ⟨after, dir', file⟩ ⟨htype, hslots, ⟨-, hreason, hdisk'⟩ | ⟨-, -, htrunc, -⟩⟩
    · refine ⟨htype, fun other hother _ => hslots other hother,
        .inl ⟨?_, hslots slot hslot, hdisk'⟩⟩
      rcases hreason with hexcl | ⟨hlocked, -⟩ | hbroken
      · exact absurd hexcl (by decide)
      · exact .inl hlocked
      · exact .inr hbroken
    · exact absurd htrunc huntruncated

theorem ends_removeIn_missing (hsound : layout.Sound)
    (hdisk : Disk layout flags chains extent count state dir views) {fileName : Text}
    (hname : make83Name fileName = some dname)
    (hmissing : dname ∉ namesOf layout extent dir.type state.1 count) :
    Ends (FatFile.removeIn io layout rounds fileName) (state.1, dir)
      (fun _ _ => False)
      (fun after => after.2.type = dir.type ∧ ∃ extent',
        Disk layout flags chains extent' count (after.1, state.2) after.2 views ∧
        Extended layout dir.type extent extent' count count state.1 after.1) := by
  have huncreated : ¬ oWrite &&& (oCreat ||| oWrite) = oCreat ||| oWrite := by decide
  rw [FatFile.removeIn, ends_onPart]
  apply (hdisk.ends_openIn_missing hsound hname hmissing
    (rfl : FatFile.closedFile.type = .closed) oWrite
    fun hcreated => absurd hcreated huncreated).bind
  · rintro done after ⟨-, -, hcreated, -⟩
    exact absurd hcreated huncreated
  · rintro ⟨after, dir', file⟩ ⟨htype, -, -, extent', count', views', hdisk',
      ⟨rfl, rfl, hextended⟩ | ⟨hcreated, -⟩⟩
    · exact ⟨htype, extent', hdisk', hextended⟩
    · exact absurd hcreated huncreated

end Disk

end SenseBox.SD
