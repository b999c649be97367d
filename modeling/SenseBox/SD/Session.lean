import SenseBox.SD.Files

namespace SenseBox.SD

open SenseBox.Data
open SdVolume

/-! A volume with the handle of its user, and the files that are known of it. -/

/-- What is known of a name is so in a directory with these names, which are those of the
entries, and these files. -/
def Listed (marks : Nat → Name × Bool) (count : Nat) (views : Views Nat) (name : Name) :
    Entry → Prop
  | .absent => ∀ slot < count, (marks slot).1 ≠ name
  | .file bytes locked => ∃ slot < count, marks slot = (name, locked) ∧
      ∃ place, views slot = some ⟨bytes, place⟩
  | .unknown => True

def Lists (marks : Nat → Name × Bool) (count : Nat) (views : Views Nat)
    (entry : Name → Entry) : Prop :=
  ∀ name, ¬ unused name → Listed marks count views name (entry name)

/-- The entries of the files are up to date, but for one. -/
def Settled (views : Views Nat) (handles : Nat → FatFile) (open? : Option Nat) : Prop :=
  ∀ slot, views slot ≠ none → open? ≠ some slot →
    (handles slot).flags &&& fFileDirDirty = 0

def Holding (layout : Layout) (extent : List UInt32) (type : FileType)
    (marks : Nat → Name × Bool) (count : Nat) (handles : Nat → FatFile) (views : Views Nat)
    (entry : Name → Entry) (file : FatFile) : Current → Prop
  | .closed => file.type = .closed ∧ Settled views handles none
  | .lost => Settled views handles none ∧ (file.type = .closed ∨ file.type = .normal ∧
      ∃ slot < count, views slot = none ∧ ¬ unused (marks slot).1 ∧
        file.AtSlot layout extent type slot)
  | .file name flags place => ¬ unused name ∧ ∃ slot < count, ∃ bytes locked,
      marks slot = (name, locked) ∧ entry name = .file bytes locked ∧
      views slot = some ⟨bytes, place⟩ ∧ handles slot = file ∧
      SameFlags flags file.flags ∧ Settled views handles (some slot)

def SpareSlot (marks : Nat → Name × Bool) (count : Nat) : Prop :=
  ∃ slot < count, unused (marks slot).1

/-- Where a file lies: its entry, the block of it, and its clusters. -/
structure Site where
  slot : Nat
  block : UInt32
  chain : List UInt32

structure Lies (layout : Layout) (extent : List UInt32) (type : FileType)
    (marks : Nat → Name × Bool) (chains : Nat → List UInt32) (count : Nat)
    (views : Views Nat) (name : Name) (site : Site) : Prop where
  inside : site.slot < count
  named : (marks site.slot).1 = name
  used : ¬ unused name
  known : views site.slot ≠ none
  block : slotBlock layout extent type site.slot = site.block
  chain : chains site.slot = site.chain

/-- Files that are pinned lie where they do. -/
def Pinned (layout : Layout) (extent : List UInt32) (type : FileType)
    (marks : Nat → Name × Bool) (chains : Nat → List UInt32) (count : Nat)
    (views : Views Nat) (sites : Name → Option Site) : Prop :=
  ∀ name site, sites name = some site →
    Lies layout extent type marks chains count views name site

structure Agrees (layout : Layout) (sites : Name → Option Site) (flags : Nat → UInt8)
    (chains : Nat → List UInt32) (extent : List UInt32) (count : Nat)
    (handles : Nat → FatFile) (views : Views Nat) (opening : FatFile.Opening)
    (files : Files) : Prop where
  disk : Disk layout flags chains extent count (opening.1, handles) opening.2.1 views
  slots : count ≤ files.slots
  vacant : files.spare = true →
    SpareSlot (marksAt layout extent opening.2.1.type opening.1) count
  lists : Lists (marksAt layout extent opening.2.1.type opening.1) count views files.entry
  holding : Holding layout extent opening.2.1.type
    (marksAt layout extent opening.2.1.type opening.1) count handles views files.entry
    opening.2.2 files.current
  pinned : Pinned layout extent opening.2.1.type
    (marksAt layout extent opening.2.1.type opening.1) chains count views sites

/-- What is known of the files is so on the volume, and these files lie where they are said
to. -/
def AgreedAt (layout : Layout) (sites : Name → Option Site) (opening : FatFile.Opening)
    (files : Files) : Prop :=
  ∃ flags chains extent count handles views,
    Agrees layout sites flags chains extent count handles views opening files

def Agreed (layout : Layout) (opening : FatFile.Opening) (files : Files) : Prop :=
  AgreedAt layout (fun _ => none) opening files

section Lists

variable {marks marks' : Nat → Name × Bool} {count count' slot : Nat} {views : Views Nat}
  {entry : Name → Entry} {name : Name} {changed : Entry} {left : Option FileView}

theorem Lists.kept (hlists : Lists marks count views entry)
    (hsame : ∀ slot < count, marks' slot = marks slot) : Lists marks' count views entry := by
  intro name hused
  have hlisted := hlists name hused
  cases hentry : entry name with
  | absent =>
      rw [hentry] at hlisted
      intro slot hslot
      rw [hsame slot hslot]
      exact hlisted slot hslot
  | file bytes locked =>
      rw [hentry] at hlisted
      obtain ⟨slot, hslot, hmarks, hview⟩ := hlisted
      exact ⟨slot, hslot, (hsame slot hslot).trans hmarks, hview⟩
  | unknown => trivial

theorem Lists.lose (hlists : Lists marks count views entry) (name : Name) :
    Lists marks count views (Function.update entry name .unknown) := by
  intro other hused
  by_cases hother : other = name
  · subst hother
    rw [Function.update_self]
    trivial
  · rw [Function.update_of_ne hother]
    exact hlists other hused

/-- Where one entry is changed that has or had this name or none, what is known of the
other names stays so. -/
theorem Lists.updated (hlists : Lists marks count views entry) (hmore : count ≤ count')
    (hold : slot < count → (marks slot).1 = name ∨ unused (marks slot).1)
    (hnow : (marks' slot).1 = name ∨ unused (marks' slot).1)
    (hothers : ∀ other < count, other ≠ slot → marks' other = marks other)
    (hnew : ∀ other, count ≤ other → other < count' → other ≠ slot →
      unused (marks' other).1)
    (hchanged : Listed marks' count' (Function.update views slot left) name changed) :
    Lists marks' count' (Function.update views slot left)
      (Function.update entry name changed) := by
  intro other hused
  by_cases hother : other = name
  · subst hother
    rw [Function.update_self]
    exact hchanged
  · have hlisted := hlists other hused
    rw [Function.update_of_ne hother]
    cases hentry : entry other with
    | absent =>
        rw [hentry] at hlisted
        intro place hplace
        by_cases hsame : place = slot
        · subst hsame
          rintro rfl
          exact hnow.elim hother hused
        · by_cases hlt : place < count
          · rw [hothers place hlt hsame]
            exact hlisted place hlt
          · rintro rfl
            exact hused (hnew place (Nat.not_lt.mp hlt) hplace hsame)
    | file bytes locked =>
        rw [hentry] at hlisted
        obtain ⟨place, hplace, hmarks, hview⟩ := hlisted
        have hsame : place ≠ slot := by
          rintro rfl
          have hname := hold hplace
          rw [hmarks] at hname
          exact hname.elim hother hused
        refine ⟨place, Nat.lt_of_lt_of_le hplace hmore, ?_, ?_⟩
        · rw [hothers place hplace hsame]
          exact hmarks
        · rw [Function.update_of_ne hsame]
          exact hview
    | unknown => trivial

theorem SpareSlot.kept (hvacant : SpareSlot marks count)
    (hsame : ∀ slot < count, marks' slot = marks slot) : SpareSlot marks' count := by
  obtain ⟨slot, hslot, hunused⟩ := hvacant
  refine ⟨slot, hslot, ?_⟩
  rw [hsame slot hslot]
  exact hunused

theorem SpareSlot.elsewhere (hvacant : SpareSlot marks count) (hused : ¬ unused (marks slot).1)
    (hothers : ∀ other < count, other ≠ slot → marks' other = marks other) :
    SpareSlot marks' count := by
  obtain ⟨other, hother, hunused⟩ := hvacant
  have hdiffer : other ≠ slot := by
    rintro rfl
    exact hused hunused
  refine ⟨other, hother, ?_⟩
  rw [hothers other hother hdiffer]
  exact hunused

end Lists

section Pinned

variable {layout : Layout} {extent extent' : List UInt32} {type type' : FileType}
  {marks marks' : Nat → Name × Bool} {chains chains' : Nat → List UInt32}
  {count count' slot : Nat} {views views' : Views Nat} {name : Name}
  {sites : Name → Option Site}

theorem Pinned.updated (hpinned : Pinned layout extent type marks chains count views sites)
    (hfree : sites name = none) (hmore : count ≤ count')
    (hold : slot < count → (marks slot).1 = name ∨ unused (marks slot).1)
    (hothers : ∀ other < count, other ≠ slot → marks' other = marks other)
    (hblocks : ∀ other < count,
      slotBlock layout extent' type' other = slotBlock layout extent type other)
    (hchains : ∀ other ≠ slot, chains' other = chains other)
    (hviews : ∀ other ≠ slot, views' other = views other) :
    Pinned layout extent' type' marks' chains' count' views' sites := by
  intro other site hsite
  have hlies := hpinned other site hsite
  have hdiffer : site.slot ≠ slot := by
    intro hsame
    have hname := hold (by rw [← hsame]; exact hlies.inside)
    rw [← hsame, hlies.named] at hname
    rcases hname with rfl | hunused
    · rw [hfree] at hsite
      cases hsite
    · exact hlies.used hunused
  refine ⟨Nat.lt_of_lt_of_le hlies.inside hmore, ?_, hlies.used, ?_, ?_, ?_⟩
  · rw [hothers site.slot hlies.inside hdiffer]
    exact hlies.named
  · rw [hviews site.slot hdiffer]
    exact hlies.known
  · rw [hblocks site.slot hlies.inside]
    exact hlies.block
  · rw [hchains site.slot hdiffer]
    exact hlies.chain

theorem Pinned.kept (hpinned : Pinned layout extent type marks chains count views sites)
    (hsame : ∀ slot < count, marks' slot = marks slot)
    (hblocks : ∀ slot < count,
      slotBlock layout extent' type' slot = slotBlock layout extent type slot) :
    Pinned layout extent' type' marks' chains count views sites := by
  intro name site hsite
  obtain ⟨hinside, hname, hused, hknown, hblock, hchain⟩ := hpinned name site hsite
  exact ⟨hinside, by rw [hsame site.slot hinside]; exact hname, hused, hknown,
    (hblocks site.slot hinside).trans hblock, hchain⟩

end Pinned

section Holding

variable {layout : Layout} {extent extent' : List UInt32} {type : FileType}
  {marks marks' : Nat → Name × Bool} {count slot : Nat} {handles : Nat → FatFile}
  {views : Views Nat} {entry : Name → Entry} {file : FatFile} {current : Current}
  {name : Name} {changed : Entry}

theorem Settled.lost (hsettled : Settled views handles none) (slot : Nat) :
    Settled (Function.update views slot none) handles none := by
  intro other hopen hother
  have hdiffer := Disk.other_of_open hopen
  rw [Function.update_of_ne hdiffer] at hopen
  exact hsettled other hopen hother

theorem Settled.opened (hsettled : ∀ other ≠ slot, views other ≠ none →
      (handles other).flags &&& fFileDirDirty = 0) (left : Option FileView) (file : FatFile) :
    Settled (Function.update views slot left) (Function.update handles slot file)
      (some slot) := by
  intro other hopen hother
  have hdiffer : other ≠ slot := by
    rintro rfl
    exact hother rfl
  rw [Function.update_of_ne hdiffer] at hopen ⊢
  exact hsettled other hdiffer hopen

theorem Settled.all (hsettled : Settled views handles none) :
    ∀ other ≠ slot, views other ≠ none → (handles other).flags &&& fFileDirDirty = 0 :=
  fun other _ hopen => hsettled other hopen (Option.some_ne_none other).symm

theorem Settled.others (hsettled : Settled views handles (some slot)) :
    ∀ other ≠ slot, views other ≠ none → (handles other).flags &&& fFileDirDirty = 0 :=
  fun other hdiffer hopen => hsettled other hopen fun hsame =>
    hdiffer (Option.some.inj hsame).symm

theorem Holding.kept
    (hholding : Holding layout extent type marks count handles views entry file current)
    (hsame : ∀ slot < count, marks' slot = marks slot)
    (hblocks : ∀ slot < count,
      slotBlock layout extent' type slot = slotBlock layout extent type slot) :
    Holding layout extent' type marks' count handles views entry file current := by
  cases current with
  | closed => exact hholding
  | lost =>
      obtain ⟨hsettled, hclosed | ⟨hnormal, slot, hslot, hnone, hused, hhandle⟩⟩ := hholding
      · exact ⟨hsettled, .inl hclosed⟩
      · refine ⟨hsettled, .inr ⟨hnormal, slot, hslot, hnone, ?_, ?_, hhandle.dirIndex⟩⟩
        · rw [hsame slot hslot]
          exact hused
        · rw [hblocks slot hslot]
          exact hhandle.dirBlock
  | file name flags place =>
      obtain ⟨hused, slot, hslot, bytes, locked, hmarks, hrest⟩ := hholding
      exact ⟨hused, slot, hslot, bytes, locked, (hsame slot hslot).trans hmarks, hrest⟩

/-- Nothing is known of a handle that is not open but that it is closed. -/
theorem Holding.of_closed (hsettled : Settled views handles none)
    (hclosed : file.type = .closed)
    (hcurrent : ∀ name flags place, current ≠ .file name flags place) :
    Holding layout extent type marks count handles views entry file current := by
  cases current with
  | closed => exact ⟨hclosed, hsettled⟩
  | lost => exact ⟨hsettled, .inl hclosed⟩
  | file name flags place => exact absurd rfl (hcurrent name flags place)

theorem Holding.settled
    (hholding : Holding layout extent type marks count handles views entry file current)
    (hcurrent : ∀ name flags place, current ≠ .file name flags place) :
    Settled views handles none := by
  cases current with
  | closed => exact hholding.2
  | lost => exact hholding.1
  | file name flags place => exact absurd rfl (hcurrent name flags place)

theorem Holding.elsewhere
    (hholding : Holding layout extent type marks count handles views entry file current)
    (hslot : views slot ≠ none) (hname : (marks slot).1 = name)
    (hcurrent : ∀ flags place, current ≠ .file name flags place)
    (hothers : ∀ other < count, other ≠ slot → marks' other = marks other)
    (changed : Entry) :
    Holding layout extent type marks' count handles (Function.update views slot none)
      (Function.update entry name changed) file current := by
  cases current with
  | closed => exact ⟨hholding.1, hholding.2.lost slot⟩
  | lost =>
      obtain ⟨hsettled, hclosed | ⟨hnormal, place, hplace, hnone, hused, hhandle⟩⟩ := hholding
      · exact ⟨hsettled.lost slot, .inl hclosed⟩
      · have hdiffer : place ≠ slot := by
          rintro rfl
          exact hslot hnone
        refine ⟨hsettled.lost slot, .inr ⟨hnormal, place, hplace, ?_, ?_, hhandle⟩⟩
        · rw [Function.update_of_ne hdiffer]
          exact hnone
        · rw [hothers place hplace hdiffer]
          exact hused
  | file other flags position =>
      obtain ⟨hused, place, hplace, bytes, locked, hmarks, hentry, hview, hhandle, hflags,
        hsettled⟩ := hholding
      have hother : other ≠ name := by
        rintro rfl
        exact hcurrent flags position rfl
      have hdiffer : place ≠ slot := by
        rintro rfl
        rw [hmarks] at hname
        exact hother hname
      refine ⟨hused, place, hplace, bytes, locked, ?_, ?_, ?_, hhandle, hflags, ?_⟩
      · rw [hothers place hplace hdiffer]
        exact hmarks
      · rw [Function.update_of_ne hother]
        exact hentry
      · rw [Function.update_of_ne hdiffer]
        exact hview
      · intro slot' hopen hslot'
        rw [Function.update_of_ne (Disk.other_of_open hopen)] at hopen
        exact hsettled slot' hopen hslot'

theorem Holding.open_file {flags : Nat → UInt8} {chains : Nat → List UInt32}
    {volume : SdVolume} {dir : FatFile} {flag : UInt8} {place : Nat}
    (hholding : Holding layout extent type marks count handles views entry file
      (.file name flag place))
    (hdisk : Disk layout flags chains extent count (volume, handles) dir views) :
    ¬ file.type = .closed := by
  obtain ⟨-, slot, -, bytes, locked, -, -, hview, hhandle, -⟩ := hholding
  have hshows := hdisk.shared.shows hview
  dsimp only at hshows
  rw [hhandle] at hshows
  rw [hshows.type]
  decide

theorem Holding.clean
    (hholding : Holding layout extent type marks count handles views entry file current)
    (hopen : views slot ≠ none) (hname : (marks slot).1 = name)
    (hcurrent : ∀ flags place, current ≠ .file name flags place) :
    (handles slot).flags &&& fFileDirDirty = 0 := by
  cases current with
  | closed => exact hholding.2 slot hopen (Option.some_ne_none slot).symm
  | lost => exact hholding.1 slot hopen (Option.some_ne_none slot).symm
  | file other flag place =>
      obtain ⟨-, held, -, bytes, locked, hmarks, -, -, -, -, hsettled⟩ := hholding
      refine hsettled.others slot ?_ hopen
      rintro rfl
      rw [hmarks] at hname
      exact hcurrent flag place (congrArg (Current.file · flag place) hname)

theorem Holding.forget
    (hholding : Holding layout extent type marks count handles views entry file current)
    (hcurrent : ∀ flags place, current ≠ .file name flags place) :
    Holding layout extent type marks count handles views (Function.update entry name changed)
      file current := by
  cases current with
  | closed => exact hholding
  | lost => exact hholding
  | file other flag place =>
      obtain ⟨hused, slot, hslot, bytes, locked, hmarks, hentry, hrest⟩ := hholding
      have hother : other ≠ name := by
        rintro rfl
        exact hcurrent flag place rfl
      refine ⟨hused, slot, hslot, bytes, locked, hmarks, ?_, hrest⟩
      rw [Function.update_of_ne hother]
      exact hentry

end Holding

variable {layout : Layout} {flags : Nat → UInt8} {chains : Nat → List UInt32}
  {extent : List UInt32} {count : Nat} {handles : Nat → FatFile} {views : Views Nat}
  {opening : FatFile.Opening} {files : Files} {sites : Name → Option Site}

theorem Agrees.agreed
    (hagrees : Agrees layout sites flags chains extent count handles views opening files) :
    AgreedAt layout sites opening files :=
  ⟨flags, chains, extent, count, handles, views, hagrees⟩

theorem marksAt_kept {type type' : FileType} (htype : type' = type)
    {before after : SdVolume}
    (hslots : ∀ slot < count, SlotKept layout extent type slot before after) :
    ∀ slot < count, marksAt layout extent type' after slot =
      marksAt layout extent type before slot := by
  intro slot hslot
  rw [htype]
  exact (hslots slot hslot).marksAt

theorem Agrees.listed {name : Name} {bytes : List UInt8} {locked : Bool}
    (hagrees : Agrees layout sites flags chains extent count handles views opening files)
    (hused : ¬ unused name) (hentry : files.entry name = .file bytes locked) :
    ∃ slot < count, marksAt layout extent opening.2.1.type opening.1 slot = (name, locked) ∧
      views slot ≠ none ∧ ∃ place, views slot = some ⟨bytes, place⟩ := by
  have hlisted := hagrees.lists name hused
  rw [hentry] at hlisted
  obtain ⟨slot, hslot, hmarks, place, hview⟩ := hlisted
  refine ⟨slot, hslot, hmarks, ?_, place, hview⟩
  rw [hview]
  exact Option.some_ne_none _

theorem Agrees.missing {name : Name}
    (hagrees : Agrees layout sites flags chains extent count handles views opening files)
    (hused : ¬ unused name) (hentry : files.entry name = .absent) :
    name ∉ namesOf layout extent opening.2.1.type opening.1 count := by
  have hlisted := hagrees.lists name hused
  rw [hentry] at hlisted
  intro hin
  obtain ⟨slot, hslot, hat⟩ := List.mem_map.mp hin
  exact hlisted slot (List.mem_range.mp hslot) hat

theorem Agrees.slot_unique {slot other : Nat} {name : Name}
    (hagrees : Agrees layout sites flags chains extent count handles views opening files)
    (hused : ¬ unused name) (hslot : slot < count)
    (hat : nameAt layout extent opening.2.1.type opening.1 slot = name)
    (hother : other < count)
    (hsame : nameAt layout extent opening.2.1.type opening.1 other = name) :
    other = slot := by
  have hlisted : ∀ {place}, place < count →
      nameAt layout extent opening.2.1.type opening.1 place = name →
      (namesOf layout extent opening.2.1.type opening.1 count)[place]? = some name := by
    rintro place hplace rfl
    exact getElem?_namesOf hplace
  exact hagrees.disk.tidy.unique hused (hlisted hother hsame) (hlisted hslot hat)

theorem Agrees.shows {slot : Nat} {view : FileView}
    (hagrees : Agrees layout sites flags chains extent count handles views opening files)
    (hview : views slot = some view) (hhandle : handles slot = opening.2.2) :
    views slot ≠ none ∧ Shows layout opening.1 (chains slot) opening.2.2 view ∧
      opening.2.2.AtSlot layout extent opening.2.1.type slot := by
  have hopen : views slot ≠ none := by
    rw [hview]
    exact Option.some_ne_none _
  have hshows := hagrees.disk.shared.shows hview
  have hat := (hagrees.disk.entry hopen).2.2
  dsimp only at hshows hat
  rw [hhandle] at hshows hat
  exact ⟨hopen, hshows, hat⟩

theorem Agrees.lost {slot : Nat} {name : Name}
    (hagrees : Agrees layout sites flags chains extent count handles views opening files)
    (hslot : slot < count) (hused : ¬ unused name)
    (hname : nameAt layout extent opening.2.1.type opening.1 slot = name)
    (hfree : sites name = none)
    (hsettled : ∀ other ≠ slot, views other ≠ none →
      (handles other).flags &&& fFileDirDirty = 0) {after : SdVolume} {dir file : FatFile}
    (hnormal : file.type = .normal) (htype : dir.type = opening.2.1.type)
    (hhandle : file.AtSlot layout extent opening.2.1.type slot)
    (hdisk : Disk layout flags chains extent count (after, handles) dir
      (Function.update views slot none))
    (hslots : ∀ other < count,
      SlotKept layout extent opening.2.1.type other opening.1 after) :
    AgreedAt layout sites (after, dir, file) (files.lose name .lost) := by
  have hmarks := marksAt_kept htype hslots
  have hnow : (marksAt layout extent dir.type after slot).1 = name := by
    rw [hmarks slot hslot]
    exact hname
  rw [← htype] at hhandle
  refine ⟨flags, chains, extent, count, handles, Function.update views slot none, hdisk,
    hagrees.slots, fun hspare => (hagrees.vacant hspare).kept hmarks, ?_, ?_, ?_⟩
  · exact hagrees.lists.updated (le_refl count) (fun _ => .inl hname) (.inl hnow)
      (fun other hother _ => hmarks other hother)
      (fun _ hfrom hto => absurd hto (Nat.not_lt.mpr hfrom)) trivial
  · refine ⟨fun other hopen _ => ?_, .inr ⟨hnormal, slot, hslot, Function.update_self ..,
      by rw [hnow]; exact hused, hhandle⟩⟩
    have hdiffer := Disk.other_of_open hopen
    rw [Function.update_of_ne hdiffer] at hopen
    exact hsettled other hdiffer hopen
  · exact hagrees.pinned.updated hfree (le_refl count) (fun _ => .inl hname)
      (fun other hother _ => hmarks other hother) (fun _ _ => by rw [htype])
      (fun _ _ => rfl) fun other hdiffer => Function.update_of_ne hdiffer _ _

theorem Agrees.holds {slot : Nat} {name : Name} {locked : Bool} {view : FileView}
    (hagrees : Agrees layout sites flags chains extent count handles views opening files)
    (hslot : slot < count) (hused : ¬ unused name)
    (hmarks : marksAt layout extent opening.2.1.type opening.1 slot = (name, locked))
    (hfree : sites name = none)
    (hsettled : ∀ other ≠ slot, views other ≠ none →
      (handles other).flags &&& fFileDirDirty = 0) {flags' : Nat → UInt8}
    {chain : List UInt32} {after : SdVolume} {dir file : FatFile} {flag : UInt8}
    (hflag : SameFlags flag file.flags) (htype : dir.type = opening.2.1.type)
    (hdisk : Disk layout flags' (Function.update chains slot chain) extent count
      (after, Function.update handles slot file) dir
      (Function.update views slot (some view)))
    (hslots : ∀ other < count,
      SlotKept layout extent opening.2.1.type other opening.1 after) :
    AgreedAt layout sites (after, dir, file) (files.setEntry name (.file view.bytes locked)
      (.file name flag view.place)) := by
  have hsame := marksAt_kept htype hslots
  have hnow := (hsame slot hslot).trans hmarks
  have hself : Function.update views slot (some view) slot = some view :=
    Function.update_self ..
  refine ⟨flags', _, extent, count, Function.update handles slot file,
    Function.update views slot (some view), hdisk, hagrees.slots,
    fun hspare => (hagrees.vacant hspare).kept hsame, ?_, ?_, ?_⟩
  · exact hagrees.lists.updated (le_refl count) (fun _ => .inl (congrArg Prod.fst hmarks))
      (.inl (congrArg Prod.fst hnow)) (fun other hother _ => hsame other hother)
      (fun _ hfrom hto => absurd hto (Nat.not_lt.mpr hfrom))
      ⟨slot, hslot, hnow, view.place, hself⟩
  · exact ⟨hused, slot, hslot, view.bytes, locked, hnow, Function.update_self .., hself,
      Function.update_self .., hflag, .opened hsettled (some view) file⟩
  · exact hagrees.pinned.updated hfree (le_refl count)
      (fun _ => .inl (congrArg Prod.fst hmarks)) (fun other hother _ => hsame other hother)
      (fun _ _ => by rw [htype]) (fun other hdiffer => Function.update_of_ne hdiffer _ _)
      fun other hdiffer => Function.update_of_ne hdiffer _ _

theorem Agrees.forget
    (hagrees : Agrees layout sites flags chains extent count handles views opening files)
    (hcurrent : ∀ name flags place, files.current ≠ .file name flags place) (name : Name)
    {slots : Nat} (hslots : files.slots ≤ slots) {spare : Bool}
    (hspare : spare = true → files.spare = true) {left : Current}
    (hleft : left = files.current ∨ left = .lost) :
    AgreedAt layout sites opening
      { entry := Function.update files.entry name .unknown
        slots := slots
        spare := spare
        current := left } := by
  refine ⟨flags, chains, extent, count, handles, views, hagrees.disk,
    hagrees.slots.trans hslots, fun hsome => hagrees.vacant (hspare hsome),
    hagrees.lists.lose name, ?_, hagrees.pinned⟩
  have hholding := hagrees.holding
  rcases hleft with rfl | rfl
  · exact hholding.forget (hcurrent name)
  · obtain hclosed | hlost := Current.closed_or_lost hcurrent
    · rw [hclosed] at hholding
      exact ⟨hholding.2, .inl hholding.1⟩
    · rw [hlost] at hholding
      exact hholding

theorem Agrees.unopened
    (hagrees : Agrees layout sites flags chains extent count handles views opening files)
    (hcurrent : ∀ name flags place, files.current ≠ .file name flags place)
    {extent' : List UInt32} {after : FatFile.Opening}
    (hclosed : after.2.2.type = .closed) (htype : after.2.1.type = opening.2.1.type)
    (hdisk : Disk layout flags chains extent' count (after.1, handles) after.2.1 views)
    (hmarks : ∀ slot < count, marksAt layout extent' opening.2.1.type after.1 slot =
      marksAt layout extent opening.2.1.type opening.1 slot)
    (hblocks : ∀ slot < count, slotBlock layout extent' opening.2.1.type slot =
      slotBlock layout extent opening.2.1.type slot) :
    Agrees layout sites flags chains extent' count handles views after files where
  disk := hdisk
  slots := hagrees.slots
  vacant hspare := by
    rw [htype]
    exact (hagrees.vacant hspare).kept hmarks
  lists := by
    rw [htype]
    exact hagrees.lists.kept hmarks
  holding := .of_closed (hagrees.holding.settled hcurrent) hclosed hcurrent
  pinned := by
    rw [htype]
    exact hagrees.pinned.kept hmarks hblocks

theorem Agrees.entered
    (hagrees : Agrees layout sites flags chains extent count handles views opening files)
    {type : FileType} (htype : type = opening.2.1.type) {extent' : List UInt32}
    {count' slot : Nat} {name : Name} {after : SdVolume}
    (hcreated : Created layout opening.2.1.type extent extent' count count' slot name
      opening.1 after) {left : Option FileView} {changed : Entry}
    (hchanged : Listed (marksAt layout extent' type after) count'
      (Function.update views slot left) name changed) :
    Lists (marksAt layout extent' type after) count' (Function.update views slot left)
      (Function.update files.entry name changed) := by
  subst htype
  exact hagrees.lists.updated hcreated.more (fun hslot => .inr (hcreated.free hslot))
    (.inl hcreated.name) hcreated.old hcreated.new hchanged

theorem Agrees.pinned_entered
    (hagrees : Agrees layout sites flags chains extent count handles views opening files)
    {type : FileType} (htype : type = opening.2.1.type) {extent' : List UInt32}
    {count' slot : Nat} {name : Name} {after : SdVolume} (hfree : sites name = none)
    (hcreated : Created layout opening.2.1.type extent extent' count count' slot name
      opening.1 after) {chains' : Nat → List UInt32} {views' : Views Nat}
    (hchains : ∀ other ≠ slot, chains' other = chains other)
    (hviews : ∀ other ≠ slot, views' other = views other) :
    Pinned layout extent' type (marksAt layout extent' type after) chains' count' views'
      sites := by
  subst htype
  exact hagrees.pinned.updated hfree hcreated.more (fun hslot => .inr (hcreated.free hslot))
    hcreated.old hcreated.blocks hchains hviews

theorem Agrees.room_full
    (hagrees : Agrees layout sites flags chains extent count handles views opening files)
    (hall : ∀ slot < count,
      ¬ unused (nameAt layout extent opening.2.1.type opening.1 slot)) :
    count + layout.slotsPerCluster ≤ files.room layout := by
  rw [Files.room]
  split
  · next hspare =>
    obtain ⟨slot, hslot, hunused⟩ := hagrees.vacant hspare
    exact absurd hunused (hall slot hslot)
  · exact Nat.add_le_add_right hagrees.slots _

/-- A directory with a spare entry does not grow. -/
theorem Agrees.room
    (hagrees : Agrees layout sites flags chains extent count handles views opening files)
    {extent' : List UInt32} {count' slot : Nat} {name : Name} {after : SdVolume}
    (hcreated : Created layout opening.2.1.type extent extent' count count' slot name
      opening.1 after) : count' ≤ files.room layout := by
  rw [Files.room]
  split
  · next hspare =>
    obtain ⟨other, hother, hunused⟩ := hagrees.vacant hspare
    by_contra hgrown
    have hslots := hagrees.slots
    exact hcreated.full (by omega) other hother hunused
  · exact hcreated.bound.trans (Nat.add_le_add_right hagrees.slots _)

end SenseBox.SD
