import SenseBox.SD.Directory
import SenseBox.SD.Handles

namespace SenseBox.SD

open SenseBox.Data
open SdVolume

/-! A directory with its files. -/

/-- The handle is that of the file of this entry. -/
structure FatFile.AtSlot (layout : Layout) (chain : List UInt32) (type : FileType)
    (slot : Nat) (file : FatFile) : Prop where
  dirBlock : file.dirBlock = slotBlock layout chain type slot
  dirIndex : file.dirIndex = slotIndex slot

/-- The files of a directory that are known, each by its entry, and each with a handle:
their clusters are none of the directory's, and the entries after the files are free. -/
structure Disk (layout : Layout) (flags : Nat → UInt8) (chains : Nat → List UInt32)
    (extent : List UInt32) (count : Nat) (state : Handles Nat) (dir : FatFile)
    (views : Views Nat) : Prop where
  shared : Shared layout flags chains state views
  directory : Directory layout (state.1.fat layout) extent dir count
  apart : ∀ {slot}, views slot ≠ none → (chains slot).Disjoint extent
  tidy : Tidy (namesOf layout extent dir.type state.1 count)
  entry : ∀ {slot}, views slot ≠ none → slot < count ∧
    ¬ unused (nameAt layout extent dir.type state.1 slot) ∧
    (state.2 slot).AtSlot layout extent dir.type slot

def SlotKept (layout : Layout) (chain : List UInt32) (type : FileType) (slot : Nat)
    (before after : SdVolume) : Prop :=
  ∀ place < 12,
    after.memory (slotBlock layout chain type slot)
        (dirEntrySize * (slotIndex slot).toNat + place) =
      before.memory (slotBlock layout chain type slot)
        (dirEntrySize * (slotIndex slot).toNat + place)

variable {layout : Layout} {table : UInt32 → UInt32}
  {chain extent : List UInt32} {dir file : FatFile} {count slot : Nat}
  {volume after : SdVolume} {own : UInt32 → Prop} {entry : UInt32 → Nat → Prop}

namespace Directory

theorem congr (hdirectory : Directory layout table chain dir count)
    {table' : UInt32 → UInt32} (hsame : ∀ cluster ∈ chain, table' cluster = table cluster) :
    Directory layout table' chain dir count where
  isDir := hdirectory.isDir
  flags := hdirectory.flags
  size := hdirectory.size
  apart := hdirectory.apart
  chained := by
    refine ⟨hdirectory.chained.clusters, hdirectory.chained.linked.congr ?_⟩
    intro cluster hcluster
    rw [Layout.links, Layout.links, hsame cluster hcluster]
  first := hdirectory.first
  whole := hdirectory.whole

theorem within (hdirectory : Directory layout (volume.fat layout) chain dir count)
    (hwithin : Within layout own entry volume after)
    (hown : ∀ cluster ∈ chain, ¬ own cluster) :
    Directory layout (after.fat layout) chain dir count :=
  hdirectory.congr fun cluster hcluster =>
    hwithin.fat cluster (hown cluster hcluster) (hdirectory.chained.used hcluster)

theorem slotsKept (hsound : layout.Sound)
    (hdirectory : Directory layout (volume.fat layout) chain dir count)
    (hwithin : Within layout own entry volume after)
    (hown : ∀ cluster ∈ chain, ¬ own cluster)
    (hentry : ∀ slot < count, ∀ place < 12, ¬ entry (slotBlock layout chain dir.type slot)
      (dirEntrySize * (slotIndex slot).toNat + place)) :
    ∀ slot < count, SlotKept layout chain dir.type slot volume after := by
  intro slot hslot place hplace
  apply hwithin.memory _ _ (hdirectory.plain hsound hslot) (hentry slot hslot place hplace)
  rintro cluster hcluster hin hblock
  have hmem := hdirectory.cluster_mem hsound hslot hcluster hblock
  rcases hin with howned | hfree
  · exact hown cluster hmem howned
  · exact hdirectory.chained.used hmem hfree

theorem slots_apart (hsound : layout.Sound)
    (hdirectory : Directory layout table chain dir count) {other : Nat}
    (hslot : slot < count) (hother : other < count) (hdiffer : slot ≠ other)
    (hsame : slotBlock layout chain dir.type slot = slotBlock layout chain dir.type other) :
    (slotIndex slot).toNat ≠ (slotIndex other).toNat := by
  have hdiv := hdirectory.slotBlock_inj hsound hslot hother hsame
  rw [toNat_slotIndex, toNat_slotIndex]
  unfold slotsPerBlock at hdiv ⊢
  omega

end Directory

theorem SlotKept.trans {type : FileType} {first second third : SdVolume}
    (hfirst : SlotKept layout chain type slot first second)
    (hsecond : SlotKept layout chain type slot second third) :
    SlotKept layout chain type slot first third :=
  fun place hplace => (hsecond place hplace).trans (hfirst place hplace)

theorem SlotKept.nameAt {type : FileType} (hkept : SlotKept layout chain type slot volume after) :
    nameAt layout chain type after slot = nameAt layout chain type volume slot := by
  rw [SD.nameAt, SD.nameAt, slotName, slotName]
  congr 1
  funext place
  exact hkept place (by omega)

theorem namesOf_kept {type : FileType}
    (hkept : ∀ slot < count, SlotKept layout chain type slot volume after) :
    namesOf layout chain type after count = namesOf layout chain type volume count :=
  List.map_congr_left fun slot hslot => (hkept slot (List.mem_range.mp hslot)).nameAt

/-- A call through a handle leaves the names and the attributes. -/
theorem not_entryOf_start (file : FatFile) {index : UInt8} {block : UInt32} {place : Nat}
    (hplace : place < 12) :
    ¬ file.entryOf block (dirEntrySize * index.toNat + place) := by
  rintro ⟨-, hfrom, hto⟩
  unfold dirEntrySize at hfrom hto
  omega

namespace Disk

variable {flags : Nat → UInt8} {chains : Nat → List UInt32} {state : Handles Nat}
  {views : Views Nat}

/-- One of the files is replaced by another that has nothing in common with the rest
and with the directory. -/
theorem replaced (hsound : layout.Sound)
    (hdisk : Disk layout flags chains extent count state dir views) {dir' : FatFile}
    (htype : dir'.type = dir.type) (hcoherent : Coherent layout after)
    (hstartable : Startable layout after)
    (hdirectory : Directory layout (after.fat layout) extent dir' count)
    (hothers : ∀ {other view}, other ≠ slot → views other = some view →
      Shows layout after (chains other) (state.2 other) view ∧
      nameAt layout extent dir.type after other =
        nameAt layout extent dir.type state.1 other)
    (htidy : Tidy (namesOf layout extent dir.type after count))
    {left : Option FileView} {flag : UInt8}
    (hleft : ∀ view, left = some view →
      Shows layout after chain file view ∧ SameFlags flag file.flags ∧
      chain.Disjoint extent ∧ (∀ other ≠ slot, views other ≠ none →
        chain.Disjoint (chains other)) ∧ slot < count ∧
      ¬ unused (nameAt layout extent dir.type after slot) ∧
      file.AtSlot layout extent dir.type slot) :
    Disk layout (Function.update flags slot flag) (Function.update chains slot chain)
      extent count (after, Function.update state.2 slot file) dir'
      (Function.update views slot left) := by
  have houtside : ∀ {other : Nat} {clusters : List UInt32} {handle : FatFile},
      (∀ cluster ∈ clusters, layout.Cluster cluster) → clusters.Disjoint extent →
      other < count → handle.AtSlot layout extent dir.type other →
      ∀ cluster ∈ clusters, ¬ layout.InCluster cluster handle.dirBlock := by
    intro other clusters handle hclusters hdisjoint hother hhandle cluster hcluster hin
    rw [hhandle.dirBlock] at hin
    exact hdisjoint hcluster
      (hdisk.directory.cluster_mem hsound hother (hclusters cluster hcluster) hin)
  have hopen : ∀ {other}, other ≠ slot → Function.update views slot left other ≠ none →
      views other ≠ none := by
    intro other hother hin
    rwa [Function.update_of_ne hother] at hin
  constructor
  · apply hdisk.shared.replaced hcoherent hstartable
    · exact fun hother hview => (hothers hother hview).1
    · intro view hview
      obtain ⟨hshows, hflags, -⟩ := hleft view hview
      exact ⟨hshows, hflags⟩
    · intro other hsome hother hin
      obtain ⟨view, hview⟩ := Option.ne_none_iff_exists'.mp hsome
      obtain ⟨view', hview'⟩ := Option.ne_none_iff_exists'.mp hin
      obtain ⟨hshows, -, hextent, hchains, hslot, -, hhandle⟩ := hleft view hview
      obtain ⟨hslot', -, hhandle'⟩ := hdisk.entry hin
      refine ⟨hchains other hother hin, ?_, ?_, ?_⟩
      · rw [hhandle.dirBlock, hhandle'.dirBlock, hhandle.dirIndex, hhandle'.dirIndex]
        intro hblock hindex
        exact hdisk.directory.slots_apart hsound hslot hslot' (Ne.symm hother) hblock
          (congrArg UInt8.toNat hindex)
      · exact houtside hshows.clusters hextent hslot' hhandle'
      · exact houtside (hdisk.shared.shows hview').clusters (hdisk.apart hin) hslot hhandle
  · exact hdirectory
  · intro other hin
    by_cases hother : other = slot
    · subst hother
      rw [Function.update_self] at hin ⊢
      obtain ⟨view, hview⟩ := Option.ne_none_iff_exists'.mp hin
      exact (hleft view hview).2.2.1
    · rw [Function.update_of_ne hother]
      exact hdisk.apart (hopen hother hin)
  · rw [htype]
    exact htidy
  · intro other hin
    dsimp only
    rw [htype]
    by_cases hother : other = slot
    · subst hother
      rw [Function.update_self] at hin ⊢
      obtain ⟨view, hview⟩ := Option.ne_none_iff_exists'.mp hin
      obtain ⟨-, -, -, -, hslot, hused, hhandle⟩ := hleft view hview
      exact ⟨hslot, hused, hhandle⟩
    · obtain ⟨view, hview⟩ := Option.ne_none_iff_exists'.mp (hopen hother hin)
      rw [Function.update_of_ne hother, (hothers hother hview).2]
      exact hdisk.entry (hopen hother hin)

/-- Another handle of the directory may take the place of the one there is. -/
theorem handed (hdisk : Disk layout flags chains extent count state dir views)
    {dir' : FatFile} (htype : dir'.type = dir.type)
    (hdirectory : Directory layout (state.1.fat layout) extent dir' count) :
    Disk layout flags chains extent count state dir' views where
  shared := hdisk.shared
  directory := hdirectory
  apart := hdisk.apart
  tidy := by
    rw [htype]
    exact hdisk.tidy
  entry := by
    rw [htype]
    exact hdisk.entry

theorem untouched (hsound : layout.Sound)
    (hdisk : Disk layout flags chains extent count state dir views)
    (hwithin : Within layout (fun _ => False) (fun _ _ => False) state.1 after)
    {dir' : FatFile} (hturned : dir.Turned dir') :
    Disk layout flags chains extent count (after, state.2) dir' views ∧
      ∀ slot < count, SlotKept layout extent dir.type slot state.1 after := by
  have hslots : ∀ slot < count, SlotKept layout extent dir.type slot state.1 after :=
    hdisk.directory.slotsKept hsound hwithin (fun _ _ => not_false)
      fun _ _ _ _ => not_false
  refine ⟨⟨hdisk.shared.untouched hsound hwithin, ?_, hdisk.apart, ?_, ?_⟩, hslots⟩
  · exact (hdisk.directory.within hwithin fun _ _ => not_false).turned hturned
  · rw [hturned.type, namesOf_kept hslots]
    exact hdisk.tidy
  · intro slot hin
    obtain ⟨hslot, hused, hhandle⟩ := hdisk.entry hin
    rw [hturned.type, (hslots slot hslot).nameAt]
    exact ⟨hslot, hused, hhandle⟩

theorem kept (hsound : layout.Sound)
    (hdisk : Disk layout flags chains extent count state dir views)
    (hkept : Kept layout state.1 after) {dir' : FatFile} (hturned : dir.Turned dir') :
    Disk layout flags chains extent count (after, state.2) dir' views ∧
      ∀ slot < count, SlotKept layout extent dir.type slot state.1 after :=
  hdisk.untouched hsound (hkept.within hsound hdisk.shared.startable) hturned

/-- A change of the fields of an entry that nothing is said of keeps the directory and all
files. -/
theorem unnoticed (hsound : layout.Sound)
    (hdisk : Disk layout flags chains extent count state dir views) (hslot : slot < count)
    (hnone : views slot = none) (hhandle : file.AtSlot layout extent dir.type slot)
    (hwithin : Within layout (fun _ => False) file.entryOf state.1 after) :
    Disk layout flags chains extent count (after, state.2) dir views ∧
      ∀ slot < count, SlotKept layout extent dir.type slot state.1 after := by
  have hslots : ∀ slot < count, SlotKept layout extent dir.type slot state.1 after :=
    hdisk.directory.slotsKept hsound hwithin (fun _ _ => not_false)
      fun slot _ place hplace => not_entryOf_start _ hplace
  have hshared := hdisk.shared
  refine ⟨⟨⟨hwithin.coherent, hwithin.startable, ?_, hshared.flags, hshared.disjoint,
    hshared.entries, hshared.outside⟩, hdisk.directory.within hwithin fun _ _ => not_false,
    hdisk.apart, ?_, ?_⟩, hslots⟩
  · intro other view hview
    have hopen : views other ≠ none := by
      rw [hview]
      exact nofun
    have hother : other ≠ slot := by
      rintro rfl
      exact hopen hnone
    obtain ⟨hlt, -, hat⟩ := hdisk.entry hopen
    have hshows := hshared.shows hview
    apply hshows.frame hsound hwithin (fun _ _ => not_false) (fun _ _ => False.elim)
    · rintro place ⟨-, hfrom, hto⟩ ⟨hblock, hfrom', hto'⟩
      rw [hat.dirBlock, hhandle.dirBlock] at hblock
      have hapart := hdisk.directory.slots_apart hsound hlt hslot hother hblock
      rw [hat.dirIndex] at hfrom hto
      rw [hhandle.dirIndex] at hfrom' hto'
      unfold dirEntrySize at hfrom hto hfrom' hto'
      omega
    · rintro cluster hcluster block place hin ⟨rfl, -⟩
      rw [hhandle.dirBlock] at hin
      exact hdisk.apart hopen hcluster
        (hdisk.directory.cluster_mem hsound hslot (hshows.clusters cluster hcluster) hin)
  · rw [namesOf_kept hslots]
    exact hdisk.tidy
  · intro other hopen
    obtain ⟨hlt, hused, hat⟩ := hdisk.entry hopen
    rw [(hslots other hlt).nameAt]
    exact ⟨hlt, hused, hat⟩

/-- A call through a handle keeps the directory and the other files. -/
theorem frame (hsound : layout.Sound)
    (hdisk : Disk layout flags chains extent count state dir views)
    (hslot : views slot ≠ none)
    (hwithin : Within layout (· ∈ chains slot) (state.2 slot).entryOf state.1 after) :
    Directory layout (after.fat layout) extent dir count ∧
      (∀ slot < count, SlotKept layout extent dir.type slot state.1 after) ∧
      ∀ {other view}, other ≠ slot → views other = some view →
        Shows layout after (chains other) (state.2 other) view ∧
        nameAt layout extent dir.type after other =
          nameAt layout extent dir.type state.1 other := by
  have hown : ∀ cluster ∈ extent, cluster ∉ chains slot :=
    fun cluster hcluster hin => hdisk.apart hslot hin hcluster
  have hslots : ∀ slot < count, SlotKept layout extent dir.type slot state.1 after :=
    hdisk.directory.slotsKept hsound hwithin hown
      fun slot _ place hplace => not_entryOf_start _ hplace
  refine ⟨hdisk.directory.within hwithin hown, hslots, ?_⟩
  intro other view hother hview
  have hopen : views other ≠ none := by
    rw [hview]
    exact nofun
  exact ⟨hdisk.shared.frame hsound hslot hwithin hother hview,
    (hslots other (hdisk.entry hopen).1).nameAt⟩

/-- A call that has been answered does to its file what it means. -/
theorem answered (hsound : layout.Sound)
    (hdisk : Disk layout flags chains extent count state dir views)
    (hslot : views slot ≠ none) {chain' : List UInt32} {view' : FileView}
    {after : FatFile.Opened}
    (hanswered : Answered layout (chains slot) chain' view' (state.1, state.2 slot) after) :
    Disk layout flags (Function.update chains slot chain') extent count
        (after.1, Function.update state.2 slot after.2) dir
        (Function.update views slot (some view')) ∧
      ∀ slot < count, SlotKept layout extent dir.type slot state.1 after.1 := by
  have hwithin := hanswered.served.within
  have hsame := hanswered.served.same
  have hfresh := hanswered.served.fresh
  obtain ⟨hdirectory, hslots, hothers⟩ := hdisk.frame hsound hslot hwithin
  obtain ⟨hlt, hused, hhandle⟩ := hdisk.entry hslot
  refine ⟨?_, hslots⟩
  have hreplaced : Disk layout (Function.update flags slot (flags slot))
      (Function.update chains slot chain') extent count
      (after.1, Function.update state.2 slot after.2) dir
      (Function.update views slot (some view')) := by
    apply hdisk.replaced hsound rfl hwithin.coherent hwithin.startable hdirectory hothers
    · rw [namesOf_kept hslots]
      exact hdisk.tidy
    · intro view hview
      cases hview
      refine ⟨hanswered.shows, (hdisk.shared.flags hslot).trans hsame.flags, ?_, ?_, hlt,
        ?_, hsame.dirBlock.trans hhandle.dirBlock, hsame.dirIndex.trans hhandle.dirIndex⟩
      · intro cluster hcluster hin
        rcases hfresh cluster hcluster with howned | hfree
        · exact hdisk.apart hslot howned hin
        · exact hdisk.directory.chained.used hin hfree
      · intro other hother hin cluster hcluster hin'
        obtain ⟨view, hview⟩ := Option.ne_none_iff_exists'.mp hin
        rcases hfresh cluster hcluster with howned | hfree
        · exact hdisk.shared.disjoint hother.symm hslot hin howned hin'
        · exact (hdisk.shared.shows hview).toChained.used hin' hfree
      · rw [(hslots slot hlt).nameAt]
        exact hused
  rwa [Function.update_eq_self] at hreplaced

/-- A call that has failed loses its file, and no other one. -/
theorem lost (hsound : layout.Sound)
    (hdisk : Disk layout flags chains extent count state dir views)
    (hslot : views slot ≠ none)
    (hwithin : Within layout (· ∈ chains slot) (state.2 slot).entryOf state.1 after) :
    Disk layout flags chains extent count (after, state.2) dir
        (Function.update views slot none) ∧
      ∀ slot < count, SlotKept layout extent dir.type slot state.1 after := by
  obtain ⟨hdirectory, hslots, hothers⟩ := hdisk.frame hsound hslot hwithin
  refine ⟨?_, hslots⟩
  have hreplaced : Disk layout (Function.update flags slot (flags slot))
      (Function.update chains slot (chains slot)) extent count
      (after, Function.update state.2 slot (state.2 slot)) dir
      (Function.update views slot none) := by
    apply hdisk.replaced hsound rfl hwithin.coherent hwithin.startable hdirectory hothers
    · rw [namesOf_kept hslots]
      exact hdisk.tidy
    · exact nofun
  rwa [Function.update_eq_self, Function.update_eq_self, Function.update_eq_self]
    at hreplaced

theorem agreed (hdisk : Disk layout flags chains extent count state dir views)
    {flags' : Nat → UInt8} {chains' : Nat → List UInt32} {handles : Nat → FatFile}
    (hsame : ∀ slot, views slot ≠ none → flags' slot = flags slot ∧
      chains' slot = chains slot ∧ handles slot = state.2 slot) :
    Disk layout flags' chains' extent count (state.1, handles) dir views := by
  have hshared := hdisk.shared
  refine ⟨⟨hshared.coherent, hshared.startable, ?_, ?_, ?_, ?_, ?_⟩, hdisk.directory, ?_,
    hdisk.tidy, ?_⟩
  · intro slot view hview
    have hopen : views slot ≠ none := by
      rw [hview]
      exact nofun
    obtain ⟨-, hchain, hhandle⟩ := hsame slot hopen
    dsimp only
    rw [hchain, hhandle]
    exact hshared.shows hview
  · intro slot hopen
    obtain ⟨hflags, -, hhandle⟩ := hsame slot hopen
    dsimp only
    rw [hflags, hhandle]
    exact hshared.flags hopen
  · intro slot other hdiffer hopen hopen'
    rw [(hsame slot hopen).2.1, (hsame other hopen').2.1]
    exact hshared.disjoint hdiffer hopen hopen'
  · intro slot other hdiffer hopen hopen'
    dsimp only
    rw [(hsame slot hopen).2.2, (hsame other hopen').2.2]
    exact hshared.entries hdiffer hopen hopen'
  · intro slot other hopen hopen'
    dsimp only
    rw [(hsame slot hopen).2.1, (hsame other hopen').2.2]
    exact hshared.outside hopen hopen'
  · intro slot hopen
    rw [(hsame slot hopen).2.1]
    exact hdisk.apart hopen
  · intro slot hopen
    dsimp only
    rw [(hsame slot hopen).2.2]
    exact hdisk.entry hopen

theorem other_of_open {other : Nat} (hopen : Function.update views slot none other ≠ none) :
    other ≠ slot := by
  rintro rfl
  rw [Function.update_self] at hopen
  exact hopen rfl

theorem unhandled
    (hdisk : Disk layout flags chains extent count
      (volume, Function.update state.2 slot file) dir (Function.update views slot none)) :
    Disk layout flags chains extent count (volume, state.2) dir
      (Function.update views slot none) :=
  hdisk.agreed fun _ hopen =>
    ⟨rfl, rfl, (Function.update_of_ne (other_of_open hopen) _ _).symm⟩

theorem unchained {flag : UInt8} {chain : List UInt32}
    (hdisk : Disk layout (Function.update flags slot flag) (Function.update chains slot chain)
      extent count state dir (Function.update views slot none)) :
    Disk layout flags chains extent count state dir (Function.update views slot none) :=
  hdisk.agreed fun _ hopen =>
    ⟨(Function.update_of_ne (other_of_open hopen) _ _).symm,
      (Function.update_of_ne (other_of_open hopen) _ _).symm, rfl⟩

theorem forgotten (hsound : layout.Sound)
    (hdisk : Disk layout flags chains extent count state dir views)
    (hslot : views slot ≠ none) :
    Disk layout flags chains extent count state dir (Function.update views slot none) := by
  have hkept : Kept layout state.1 state.1 := ⟨hdisk.shared.coherent, .refl _⟩
  exact (hdisk.lost hsound hslot (hkept.within hsound hdisk.shared.startable)).1

end Disk

end SenseBox.SD
