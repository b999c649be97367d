import SenseBox.Data.Run
import SenseBox.SD.Command
import SenseBox.SD.Locality
import SenseBox.SD.SmallCard

namespace SenseBox.SD

open SenseBox.Data
open SdVolume

/-! Several open files on one volume, which share its cache and its FAT. -/

abbrev Handles (Name : Type) := SdVolume × (Name → FatFile)

/-- A call through a handle, with its answer: `none` is that it has failed. -/
structure Call (Name : Type) where
  name : Name
  command : Command
  answer : Option (Option (List UInt8))

/-- What is left of the files for their users; `none` is a handle through which a
call has failed. -/
abbrev Views (Name : Type) := Name → Option FileView

instance (flags : UInt8) (view : FileView) (command : Command) :
    Decidable (view.Fits flags command) :=
  match command with
  | .write buf => inferInstanceAs (Decidable (view.start flags + buf.length < 2 ^ 32))
  | .seekSet _ => isTrue trivial
  | .read _ => isTrue trivial
  | .truncate _ => isTrue trivial
  | .sync => isTrue trivial

section Steps

variable {Name : Type} [DecidableEq Name]

def ofFile {Value : Type} (name : Name) (program : Failing FatFile.Opened Value) :
    Failing (Handles Name) Value :=
  onPart (fun state => (state.1, state.2 name))
    (fun state opened => (opened.1, Function.update state.2 name opened.2)) program

/-- The call on the volume, where it gives this answer. -/
def Handles.step (io : Accesses) (layout : Layout) (rounds : Nat) (call : Call Name) :
    Handles Name → Option (Handles Name) :=
  observe (ofFile call.name (FatFile.perform io layout rounds call.command)) call.answer

/-- The call on the files as their users see them, where this answer is allowed. -/
def Views.call (flags : Name → UInt8) (call : Call Name) (view : FileView)
    (views : Views Name) : Option (Views Name) :=
  match view.call (flags call.name) call.command, call.answer with
  | none, none => some views
  | none, some _ => none
  | some (bytes, view'), some answer =>
      if answer = some bytes then some (Function.update views call.name (some view'))
      else none
  | some _, none => some (Function.update views call.name none)

/-- Nothing is said any more, with `none`, after a call through a lost handle or one
that makes a file too large. -/
def Views.step (flags : Name → UInt8) (call : Call Name) :
    Option (Views Name) → Option (Option (Views Name))
  | none => some none
  | some views =>
      match views call.name with
      | none => some none
      | some view =>
          if view.Fits (flags call.name) call.command then
            (Views.call flags call view views).map some
          else some none

end Steps

/-- The files that are open, with a chain for each, and with nothing in common. -/
structure Shared {Name : Type} (layout : Layout) (flags : Name → UInt8)
    (chains : Name → List UInt32) (state : Handles Name) (views : Views Name) :
    Prop where
  coherent : Coherent layout state.1
  startable : Startable layout state.1
  shows : ∀ {name view}, views name = some view →
    Shows layout state.1 (chains name) (state.2 name) view
  flags : ∀ {name}, views name ≠ none → SameFlags (flags name) (state.2 name).flags
  disjoint : ∀ {name other}, name ≠ other → views name ≠ none → views other ≠ none →
    (chains name).Disjoint (chains other)
  entries : ∀ {name other}, name ≠ other → views name ≠ none → views other ≠ none →
    (state.2 name).dirBlock = (state.2 other).dirBlock →
      (state.2 name).dirIndex ≠ (state.2 other).dirIndex
  outside : ∀ {name other}, views name ≠ none → views other ≠ none →
    ∀ cluster ∈ chains name, ¬ layout.InCluster cluster (state.2 other).dirBlock

structure Spared {Name : Type} (name : Name) (chains chains' : Name → List UInt32)
    (before after : Handles Name) : Prop where
  chain : chains' name = chains name
  handle : after.2 name = before.2 name
  entry : ∀ place, (before.2 name).slotOf (before.2 name).dirBlock place →
    after.1.memory (before.2 name).dirBlock place =
      before.1.memory (before.2 name).dirBlock place

theorem Spared.refl {Name : Type} (name : Name) (chains : Name → List UInt32)
    (state : Handles Name) : Spared name chains chains state state :=
  ⟨rfl, rfl, fun _ _ => rfl⟩

theorem Spared.trans {Name : Type} {name : Name} {chains chains' chains'' : Name → List UInt32}
    {first second third : Handles Name} (hfirst : Spared name chains chains' first second)
    (hsecond : Spared name chains' chains'' second third) :
    Spared name chains chains'' first third where
  chain := hsecond.chain.trans hfirst.chain
  handle := hsecond.handle.trans hfirst.handle
  entry place hin := by
    have hlater := hsecond.entry place
    rw [hfirst.handle] at hlater
    exact (hlater hin).trans (hfirst.entry place hin)

variable {layout : Layout} {io : Accesses} {chain : List UInt32} {file : FatFile}
  {volume after : SdVolume} {view : FileView} {own : UInt32 → Prop}
  {entry : UInt32 → Nat → Prop}

/-- A file is kept by what leaves its clusters and its entry. -/
theorem Shows.carried (hshows : Shows layout volume chain file view)
    (hused : ∀ cluster ∈ chain, after.fat layout cluster = volume.fat layout cluster)
    (hfree : ∀ cluster, layout.Cluster cluster → after.fat layout cluster = 0 →
      ¬ layout.InCluster cluster file.dirBlock)
    (hdir : ∀ place, file.slotOf file.dirBlock place →
      after.memory file.dirBlock place = volume.memory file.dirBlock place)
    (hbytes : ∀ cluster ∈ chain, ∀ block, layout.InCluster cluster block →
      after.memory block = volume.memory block) : Shows layout after chain file view := by
  have hlinked : layout.Chained (after.fat layout) chain := by
    refine ⟨hshows.clusters, hshows.linked.congr fun cluster hin => ?_⟩
    rw [Layout.links, Layout.links, hused cluster hin]
  have hload : ∀ offset size, offset + size ≤ dirEntrySize →
      load (after.memory file.dirBlock) (dirEntrySize * file.dirIndex.toNat + offset) size =
        load (volume.memory file.dirBlock) (dirEntrySize * file.dirIndex.toNat + offset)
          size := by
    intro offset size hsize
    exact load_congr fun place hfrom hto => hdir place ⟨rfl, by omega, by omega⟩
  refine ⟨⟨⟨⟨hlinked, hshows.first, hshows.reached, hshows.cluster⟩, hshows.type,
    hshows.position, hshows.size⟩, hshows.plain, ?_, ?_, ?_⟩, ?_, hshows.place⟩
  · intro cluster hcluster hin
    rcases hin with hin | hzero
    · exact hshows.apart cluster hcluster (.inl hin)
    · exact hfree cluster hcluster hzero
  · rw [dirAttributes, hdir _ ⟨rfl, by omega, by unfold dirEntrySize; omega⟩]
    exact hshows.regular
  · intro hclean
    have hrecorded := hshows.recorded hclean
    constructor
    · rw [dirFileSize, hload 28 4 (by decide)]
      exact hrecorded.size
    · rw [dirFirstCluster, hload 20 2 (by decide), hload 26 2 (by decide)]
      exact hrecorded.cluster
  · rw [← hshows.bytes]
    apply List.map_congr_left
    intro place hplace
    exact byteOf_congr hbytes
      (Nat.lt_of_lt_of_le (List.mem_range.mp hplace) hshows.size)

theorem Shows.slot_kept (hshows : Shows layout volume chain file view)
    (hwithin : Within layout own entry volume after)
    (houtside : ∀ cluster, layout.Cluster cluster → own cluster →
      ¬ layout.InCluster cluster file.dirBlock)
    (hentry : ∀ place, file.slotOf file.dirBlock place → ¬ entry file.dirBlock place) :
    ∀ place, file.slotOf file.dirBlock place →
      after.memory file.dirBlock place = volume.memory file.dirBlock place := by
  intro place hin
  apply hwithin.memory file.dirBlock place hshows.plain (hentry place hin)
  exact fun cluster hcluster hown => hown.elim (houtside cluster hcluster) fun hfree =>
    hshows.apart cluster hcluster (.inr hfree)

theorem Shows.frame (hsound : layout.Sound) (hshows : Shows layout volume chain file view)
    (hwithin : Within layout own entry volume after)
    (hchain : ∀ cluster ∈ chain, ¬ own cluster)
    (houtside : ∀ cluster, layout.Cluster cluster → own cluster →
      ¬ layout.InCluster cluster file.dirBlock)
    (hentry : ∀ place, file.slotOf file.dirBlock place → ¬ entry file.dirBlock place)
    (hblocks : ∀ cluster ∈ chain, ∀ block place, layout.InCluster cluster block →
      ¬ entry block place) : Shows layout after chain file view := by
  have hfresh : ∀ cluster, layout.Cluster cluster →
      own cluster ∨ volume.fat layout cluster = 0 →
        ¬ layout.InCluster cluster file.dirBlock := fun cluster hcluster hin =>
    hin.elim (houtside cluster hcluster) fun hfree =>
      hshows.apart cluster hcluster (.inr hfree)
  apply hshows.carried
  · exact fun cluster hin =>
      hwithin.fat cluster (hchain cluster hin) (hshows.toChained.used hin)
  · exact fun cluster hcluster hzero =>
      hfresh cluster hcluster (hwithin.free cluster hcluster hzero)
  · exact hshows.slot_kept hwithin houtside hentry
  · intro cluster hin block hblock
    have hcluster := hshows.clusters cluster hin
    funext place
    apply hwithin.memory block place (hsound.plain_block hcluster hblock)
      (hblocks cluster hin block place hblock)
    intro other hother howned hblock'
    obtain ⟨index, hindex, rfl⟩ := hblock
    obtain ⟨index', hindex', hsame⟩ := hblock'
    obtain ⟨rfl, -⟩ := hsound.block_inj hcluster hother hindex hindex' hsame
    rcases howned with howned | hfree
    · exact hchain cluster hin howned
    · exact hshows.toChained.used hin hfree

theorem FileView.call_congr {flags flags' : UInt8} (hsame : SameFlags flags flags')
    (view : FileView) (command : Command) :
    view.call flags' command = view.call flags command ∧
      (view.Fits flags' command ↔ view.Fits flags command) := by
  have hread : flags' &&& oRead = flags &&& oRead := hsame.mask (by decide)
  have hwrite : flags' &&& oWrite = flags &&& oWrite := hsame.mask (by decide)
  have happend : flags' &&& oAppend = flags &&& oAppend := hsame.mask (by decide)
  cases command with
  | seekSet pos => exact ⟨rfl, Iff.rfl⟩
  | read nbyte => exact ⟨by rw [call, call, hread], Iff.rfl⟩
  | write buf =>
      have hstart : view.start flags' = view.start flags := by
        rw [start, start, happend]
      exact ⟨by rw [call, call, hwrite, hstart], by rw [Fits, Fits, hstart]⟩
  | truncate length => exact ⟨by rw [call, call, hwrite], Iff.rfl⟩
  | sync => exact ⟨rfl, Iff.rfl⟩

namespace Shared

variable {Name : Type} {flags : Name → UInt8} {chains : Name → List UInt32}
  {state : Handles Name} {views : Views Name} {name : Name}

theorem not_entryOf (hshared : Shared layout flags chains state views)
    (hname : views name ≠ none) {other : Name} (hother : other ≠ name)
    (hopen : views other ≠ none) :
    ∀ place, (state.2 other).slotOf (state.2 other).dirBlock place →
      ¬ (state.2 name).entryOf (state.2 other).dirBlock place := by
  rintro place ⟨-, hfrom, hto⟩ ⟨hblock, hfrom', hto'⟩
  have hindex := hshared.entries hother hopen hname hblock
  have hnat : (state.2 other).dirIndex.toNat ≠ (state.2 name).dirIndex.toNat :=
    fun hsame => hindex (UInt8.toNat_inj.mp hsame)
  unfold dirEntrySize at hfrom hto hfrom' hto'
  omega

theorem frame (hsound : layout.Sound) (hshared : Shared layout flags chains state views)
    (hname : views name ≠ none)
    (hwithin : Within layout (· ∈ chains name) (state.2 name).entryOf state.1 after)
    {other : Name} (hother : other ≠ name) {view : FileView}
    (hview : views other = some view) :
    Shows layout after (chains other) (state.2 other) view := by
  have hopen : views other ≠ none := by
    rw [hview]
    exact nofun
  apply (hshared.shows hview).frame hsound hwithin
  · exact fun cluster hin howned => hshared.disjoint hother hopen hname hin howned
  · exact fun cluster _ howned => hshared.outside hname hopen cluster howned
  · exact hshared.not_entryOf hname hother hopen
  · rintro cluster hin block place hblock ⟨rfl, -⟩
    exact hshared.outside hopen hname cluster hin hblock

theorem entry_kept (hshared : Shared layout flags chains state views)
    (hname : views name ≠ none)
    (hwithin : Within layout (· ∈ chains name) (state.2 name).entryOf state.1 after)
    {other : Name} (hother : other ≠ name) (hopen : views other ≠ none) :
    ∀ place, (state.2 other).slotOf (state.2 other).dirBlock place →
      after.memory (state.2 other).dirBlock place =
        state.1.memory (state.2 other).dirBlock place := by
  obtain ⟨view, hview⟩ := Option.ne_none_iff_exists'.mp hopen
  apply (hshared.shows hview).slot_kept hwithin
  · exact fun cluster _ howned => hshared.outside hname hopen cluster howned
  · exact hshared.not_entryOf hname hother hopen

theorem untouched (hsound : layout.Sound) (hshared : Shared layout flags chains state views)
    (hwithin : Within layout (fun _ => False) (fun _ _ => False) state.1 after) :
    Shared layout flags chains (after, state.2) views where
  coherent := hwithin.coherent
  startable := hwithin.startable
  shows hview := (hshared.shows hview).frame hsound hwithin (fun _ _ => not_false)
    (fun _ _ => False.elim) (fun _ _ => not_false) fun _ _ _ _ _ => not_false
  flags := hshared.flags
  disjoint := hshared.disjoint
  entries := hshared.entries
  outside := hshared.outside

variable [DecidableEq Name]

/-- One of the files is replaced by another that has nothing in common with the rest. -/
theorem replaced (hshared : Shared layout flags chains state views)
    (hcoherent : Coherent layout after) (hstartable : Startable layout after)
    (hothers : ∀ {other view}, other ≠ name → views other = some view →
      Shows layout after (chains other) (state.2 other) view)
    {left : Option FileView} {flag : UInt8}
    (hleft : ∀ view, left = some view →
      Shows layout after chain file view ∧ SameFlags flag file.flags)
    (hapart : ∀ other, left ≠ none → other ≠ name → views other ≠ none →
      chain.Disjoint (chains other) ∧
      (file.dirBlock = (state.2 other).dirBlock →
        file.dirIndex ≠ (state.2 other).dirIndex) ∧
      (∀ cluster ∈ chain, ¬ layout.InCluster cluster (state.2 other).dirBlock) ∧
      ∀ cluster ∈ chains other, ¬ layout.InCluster cluster file.dirBlock) :
    Shared layout (Function.update flags name flag) (Function.update chains name chain)
      (after, Function.update state.2 name file) (Function.update views name left) := by
  have hopen : ∀ {other}, other ≠ name → Function.update views name left other ≠ none →
      views other ≠ none := by
    intro other hother hin
    rwa [Function.update_of_ne hother] at hin
  have hself : Function.update views name left name ≠ none → left ≠ none := by
    intro hin
    rwa [Function.update_self] at hin
  refine ⟨hcoherent, hstartable, ?_, ?_, ?_, ?_, ?_⟩
  · intro other view hview
    dsimp only
    by_cases hother : other = name
    · subst hother
      rw [Function.update_self] at hview
      rw [Function.update_self, Function.update_self]
      exact (hleft view hview).1
    · rw [Function.update_of_ne hother] at hview
      rw [Function.update_of_ne hother, Function.update_of_ne hother]
      exact hothers hother hview
  · intro other hin
    dsimp only
    by_cases hother : other = name
    · subst hother
      obtain ⟨view, hview⟩ := Option.ne_none_iff_exists'.mp (hself hin)
      rw [Function.update_self, Function.update_self]
      exact (hleft view hview).2
    · rw [Function.update_of_ne hother, Function.update_of_ne hother]
      exact hshared.flags (hopen hother hin)
  · intro first second hdiffer hfirst hsecond
    by_cases hsame : first = name
    · subst hsame
      rw [Function.update_self, Function.update_of_ne hdiffer.symm]
      exact (hapart second (hself hfirst) hdiffer.symm (hopen hdiffer.symm hsecond)).1
    · rw [Function.update_of_ne hsame]
      by_cases hsame' : second = name
      · subst hsame'
        rw [Function.update_self]
        exact (hapart first (hself hsecond) hdiffer (hopen hdiffer hfirst)).1.symm
      · rw [Function.update_of_ne hsame']
        exact hshared.disjoint hdiffer (hopen hsame hfirst) (hopen hsame' hsecond)
  · intro first second hdiffer hfirst hsecond
    dsimp only
    by_cases hsame : first = name
    · subst hsame
      rw [Function.update_self, Function.update_of_ne hdiffer.symm]
      exact (hapart second (hself hfirst) hdiffer.symm (hopen hdiffer.symm hsecond)).2.1
    · rw [Function.update_of_ne hsame]
      by_cases hsame' : second = name
      · subst hsame'
        rw [Function.update_self]
        intro hblock hindex
        exact (hapart first (hself hsecond) hdiffer (hopen hdiffer hfirst)).2.1 hblock.symm
          hindex.symm
      · rw [Function.update_of_ne hsame']
        exact hshared.entries hdiffer (hopen hsame hfirst) (hopen hsame' hsecond)
  · intro first second hfirst hsecond cluster hcluster
    dsimp only
    by_cases hsame : first = name
    · subst hsame
      rw [Function.update_self] at hcluster
      by_cases hsame' : second = first
      · subst hsame'
        obtain ⟨view, hview⟩ := Option.ne_none_iff_exists'.mp (hself hfirst)
        have hshows := (hleft view hview).1
        rw [Function.update_self]
        exact hshows.apart cluster (hshows.clusters cluster hcluster) (.inl hcluster)
      · rw [Function.update_of_ne hsame']
        exact (hapart second (hself hfirst) hsame' (hopen hsame' hsecond)).2.2.1 cluster
          hcluster
    · rw [Function.update_of_ne hsame] at hcluster
      by_cases hsame' : second = name
      · subst hsame'
        rw [Function.update_self]
        exact (hapart first (hself hsecond) hsame (hopen hsame hfirst)).2.2.2 cluster
          hcluster
      · rw [Function.update_of_ne hsame']
        exact hshared.outside (hopen hsame hfirst) (hopen hsame' hsecond) cluster hcluster

/-- A call through a handle changes what is left of its file, and no other one. -/
theorem changed (hsound : layout.Sound) (hshared : Shared layout flags chains state views)
    (hname : views name ≠ none)
    (hwithin : Within layout (· ∈ chains name) (state.2 name).entryOf state.1 after)
    {left : Option FileView}
    (hleft : ∀ view, left = some view → Shows layout after chain file view ∧
      (∀ cluster ∈ chain, cluster ∈ chains name ∨ state.1.fat layout cluster = 0) ∧
      (state.2 name).SameHandle file) :
    Shared layout flags (Function.update chains name chain)
      (after, Function.update state.2 name file) (Function.update views name left) := by
  have hreplaced : Shared layout (Function.update flags name (flags name))
      (Function.update chains name chain) (after, Function.update state.2 name file)
      (Function.update views name left) := by
    apply hshared.replaced hwithin.coherent hwithin.startable
    · exact fun hother hview => hshared.frame hsound hname hwithin hother hview
    · intro view hview
      obtain ⟨hshows, -, hsame⟩ := hleft view hview
      exact ⟨hshows, (hshared.flags hname).trans hsame.flags⟩
    · intro other hsome hother hin
      obtain ⟨view, hview⟩ := Option.ne_none_iff_exists'.mp hsome
      obtain ⟨view', hview'⟩ := Option.ne_none_iff_exists'.mp hin
      obtain ⟨hshows, hfresh, hsame⟩ := hleft view hview
      have hshows' := hshared.shows hview'
      refine ⟨?_, ?_, ?_, ?_⟩
      · intro cluster hcluster hcluster'
        rcases hfresh cluster hcluster with howned | hfree
        · exact hshared.disjoint hother.symm hname hin howned hcluster'
        · exact hshows'.toChained.used hcluster' hfree
      · rw [hsame.dirBlock, hsame.dirIndex]
        exact hshared.entries hother.symm hname hin
      · intro cluster hcluster
        rcases hfresh cluster hcluster with howned | hfree
        · exact hshared.outside hname hin cluster howned
        · exact hshows'.apart cluster (hshows.clusters cluster hcluster) (.inr hfree)
      · intro cluster hcluster
        rw [hsame.dirBlock]
        exact hshared.outside hin hname cluster hcluster
  rwa [Function.update_eq_self] at hreplaced

theorem spared (hshared : Shared layout flags chains state views)
    (hname : views name ≠ none)
    (hwithin : Within layout (· ∈ chains name) (state.2 name).entryOf state.1 after)
    {other : Name} (hother : other ≠ name) (hopen : views other ≠ none)
    (chain : List UInt32) (file : FatFile) :
    Spared other chains (Function.update chains name chain) state
      (after, Function.update state.2 name file) where
  chain := Function.update_of_ne hother _ _
  handle := Function.update_of_ne hother _ _
  entry := hshared.entry_kept hname hwithin hother hopen

theorem ends_ofFile {Value : Type} {program : Failing FatFile.Opened Value}
    {returned : Value → Handles Name → Prop} {failed : Handles Name → Prop} :
    Ends (ofFile name program) state returned failed ↔
      Ends program (state.1, state.2 name)
        (fun value opened => returned value
          (opened.1, Function.update state.2 name opened.2))
        (fun opened => failed (opened.1, Function.update state.2 name opened.2)) :=
  ends_onPart

theorem ends_refused (hshared : Shared layout flags chains state views)
    {view : FileView} (hview : views name = some view) {rounds : Nat} {command : Command}
    (hcall : view.call (flags name) command = none) :
    Ends (ofFile name (FatFile.perform io layout rounds command)) state
      (fun _ _ => False) (fun next => next = state) := by
  have hopen : views name ≠ none := by
    rw [hview]
    exact nofun
  have hsame := (view.call_congr (hshared.flags hopen) command).1
  rw [ends_ofFile]
  apply (FatFile.ends_perform_refused (hshared.shows hview) (hsame.trans hcall)).imp
  · exact fun _ _ hfalse => hfalse
  · rintro after rfl
    rw [Function.update_eq_self]

/-- Any other call does to its file what it means, or loses it, and keeps the other
files. -/
theorem ends_call (hsound : layout.Sound)
    (hshared : Shared layout flags chains state views) {view : FileView}
    (hview : views name = some view) {rounds : Nat}
    (hrounds : layout.clusterCount.toNat ≤ rounds) {command : Command}
    (hfits : view.Fits (flags name) command) {bytes : List UInt8} {view' : FileView}
    (hcall : view.call (flags name) command = some (bytes, view')) :
    Ends (ofFile name (FatFile.perform io layout rounds command)) state
      (fun answer next => answer = some bytes ∧ ∃ chains',
        Shared layout flags chains' next (Function.update views name (some view')) ∧
        ∀ other ≠ name, views other ≠ none → Spared other chains chains' state next)
      (fun next => (∃ chains',
          Shared layout flags chains' next (Function.update views name none) ∧
          ∀ other ≠ name, views other ≠ none → Spared other chains chains' state next) ∧
        (Broken io ∨ command.Writes ∧ Full layout next.1)) := by
  have hopen : views name ≠ none := by
    rw [hview]
    exact nofun
  obtain ⟨hsame, hsame'⟩ := view.call_congr (hshared.flags hopen) command
  rw [ends_ofFile]
  apply (FatFile.ends_perform hsound hshared.coherent hshared.startable
    (hshared.shows hview) hrounds (hsame'.mpr hfits) (hsame.trans hcall)).imp
  · rintro answer after ⟨rfl, chain', hanswered⟩
    have hwithin := hanswered.served.within
    refine ⟨rfl, Function.update chains name chain',
      hshared.changed hsound hopen hwithin ?_,
      fun other hother hin => hshared.spared hopen hwithin hother hin chain' after.2⟩
    intro other hother
    cases hother
    exact ⟨hanswered.shows, hanswered.served.fresh, hanswered.served.same⟩
  · rintro after ⟨hwithin, hreason⟩
    refine ⟨⟨Function.update chains name (chains name), ?_,
      fun other hother hin => hshared.spared hopen hwithin hother hin _ after.2⟩, hreason⟩
    exact hshared.changed hsound hopen hwithin nofun

theorem step (hsound : layout.Sound) (hshared : Shared layout flags chains state views)
    {rounds : Nat} (hrounds : layout.clusterCount.toNat ≤ rounds) {call : Call Name}
    {finish : Handles Name} (hstep : Handles.step io layout rounds call state = some finish)
    {view : FileView} (hview : views call.name = some view)
    (hfits : view.Fits (flags call.name) call.command) :
    ∃ views', Views.call flags call view views = some views' ∧
      ∃ chains', Shared layout flags chains' finish views' ∧
        ∀ other ≠ call.name, views other ≠ none → Spared other chains chains' state finish := by
  rw [Views.call]
  cases hcall : view.call (flags call.name) call.command with
  | none =>
      obtain ⟨hreturned, hfailed⟩ := (hshared.ends_refused hview hcall).observed hstep
      cases hanswer : call.answer with
      | none =>
          rw [hfailed hanswer]
          exact ⟨views, rfl, chains, hshared, fun other _ _ => .refl other chains state⟩
      | some answer => exact (hreturned answer hanswer).elim
  | some expected =>
      obtain ⟨bytes, view'⟩ := expected
      obtain ⟨hreturned, hfailed⟩ :=
        (hshared.ends_call hsound hview hrounds hfits hcall).observed hstep
      cases hanswer : call.answer with
      | none => exact ⟨_, rfl, (hfailed hanswer).1⟩
      | some answer =>
          obtain ⟨rfl, hshared'⟩ := hreturned answer hanswer
          exact ⟨_, if_pos rfl, hshared'⟩

end Shared

def Known {Name : Type} (layout : Layout) (flags : Name → UInt8) (state : Handles Name)
    (known : Option (Views Name)) : Prop :=
  ∀ views, known = some views → ∃ chains, Shared layout flags chains state views

section Runs

theorem local_ofFile {Name : Type} [DecidableEq Name] (layout : Layout) (rounds : Nat)
    (name : Name) (command : Command) :
    Local (fun state : Handles Name => state.1.accesses) fun io =>
      ofFile name (FatFile.perform io layout rounds command) := by
  refine .onPart ?_ ?_ (FatFile.local_perform layout rounds command)
  · exact fun _ => rfl
  · exact fun _ _ => rfl

variable {Name : Type} [DecidableEq Name] {flags : Name → UInt8}
  {start finish : Handles Name}

theorem Known.step (hsound : layout.Sound) {rounds : Nat}
    (hrounds : layout.clusterCount.toNat ≤ rounds) (call : Call Name)
    (known : Option (Views Name)) (hknown : Known layout flags start known)
    (hstep : Handles.step io layout rounds call start = some finish) :
    ∃ next, Views.step flags call known = some next ∧ Known layout flags finish next := by
  have hnothing : Known layout flags finish none := nofun
  cases known with
  | none => exact ⟨none, rfl, hnothing⟩
  | some views =>
      obtain ⟨chains, hshared⟩ := hknown views rfl
      rw [Views.step]
      cases hview : views call.name with
      | none => exact ⟨none, rfl, hnothing⟩
      | some view =>
          dsimp only
          by_cases hfits : view.Fits (flags call.name) call.command
          · obtain ⟨views', hcall, hshared'⟩ :=
              hshared.step hsound hrounds hstep hview hfits
            rw [if_pos hfits, hcall]
            refine ⟨some views', rfl, fun next hnext => ?_⟩
            obtain ⟨chains', hchains', -⟩ := hshared'
            rw [← Option.some.inj hnext]
            exact ⟨chains', hchains'⟩
          · exact ⟨none, by rw [if_neg hfits], hnothing⟩

theorem Known.run (hsound : layout.Sound) {rounds : Nat}
    (hrounds : layout.clusterCount.toNat ≤ rounds) {calls : List (Call Name)}
    {known : Option (Views Name)} (hknown : Known layout flags start known)
    (hrun : run (Handles.step io layout rounds) calls start = some finish) :
    ∃ next, run (Views.step flags) calls known = some next ∧
      Known layout flags finish next := by
  have hsimulates := run_simulates (Views.step flags) (Known layout flags) id
    (fun call _ state model next hrel hstep =>
      Known.step hsound hrounds call model hrel hstep) hknown hrun
  rwa [List.map_id] at hsimulates

omit [DecidableEq Name] in
theorem Shared.known {chains : Name → List UInt32} {views : Views Name}
    (hshared : Shared layout flags chains start views) :
    Known layout flags start (some views) := by
  intro other hother
  cases hother
  exact ⟨chains, hshared⟩

theorem Views.run_none {calls : List (Call Name)} {known : Option (Views Name)}
    (hrun : Data.run (Views.step flags) calls none = some known) : known = none :=
  run_invariant (· = none) (fun _ _ start finish hstart hstep => by
    rw [hstart] at hstep
    exact (Option.some.inj hstep).symm) rfl hrun

theorem Views.step_some {call : Call Name} {views views' : Views Name}
    (hstep : Views.step flags call (some views) = some (some views')) :
    ∃ view, views call.name = some view ∧ view.Fits (flags call.name) call.command ∧
      Views.call flags call view views = some views' := by
  rw [Views.step] at hstep
  cases hview : views call.name with
  | none =>
      rw [hview] at hstep
      cases hstep
  | some view =>
      rw [hview] at hstep
      dsimp only at hstep
      split at hstep
      · next hfits =>
        obtain ⟨left, hleft, hsame⟩ := Option.map_eq_some_iff.mp hstep
        cases hsame
        exact ⟨view, rfl, hfits, hleft⟩
      · cases hstep

theorem Views.call_other {call : Call Name} {view : FileView} {views views' : Views Name}
    (hcall : Views.call flags call view views = some views') {name : Name}
    (hname : name ≠ call.name) : views' name = views name := by
  have hother : ∀ left : Option FileView,
      Function.update views call.name left name = views name :=
    fun left => Function.update_of_ne hname left views
  unfold Views.call at hcall
  split at hcall
  · cases hcall
    rfl
  · cases hcall
  · split at hcall
    · cases hcall
      exact hother _
    · cases hcall
  · cases hcall
    exact hother none

/-- A file through whose handle no call is made. -/
theorem Shared.run_idle (hsound : layout.Sound) {rounds : Nat}
    (hrounds : layout.clusterCount.toNat ≤ rounds) {chains : Name → List UInt32}
    {views left : Views Name} (hshared : Shared layout flags chains start views)
    {calls : List (Call Name)}
    (hrun : run (Handles.step io layout rounds) calls start = some finish)
    (hviews : run (Views.step flags) calls (some views) = some (some left))
    {name : Name} (hidle : ∀ call ∈ calls, call.name ≠ name) (hopen : views name ≠ none) :
    left name = views name ∧ ∃ chains', Shared layout flags chains' finish left ∧
      Spared name chains chains' start finish := by
  induction calls generalizing start chains views with
  | nil =>
      cases hrun
      cases hviews
      exact ⟨rfl, chains, hshared, .refl name chains _⟩
  | cons call rest ih =>
      obtain ⟨middle, hfirst, hrest⟩ := run_cons_some hrun
      obtain ⟨known, hfirst', hrest'⟩ := run_cons_some hviews
      cases known with
      | none => cases Views.run_none hrest'
      | some middle' =>
          obtain ⟨view, hview, hfits, hcall⟩ := Views.step_some hfirst'
          obtain ⟨views', hcall', chains', hshared', hspared⟩ :=
            hshared.step hsound hrounds hfirst hview hfits
          obtain rfl : middle' = views' := Option.some.inj (hcall.symm.trans hcall')
          have hname := (hidle call (.head rest)).symm
          have hsame := Views.call_other hcall hname
          obtain ⟨hleft, chains'', hshared'', hspared'⟩ := ih hshared' hrest hrest'
            (fun other hin => hidle other (.tail call hin)) (by rwa [hsame])
          exact ⟨hleft.trans hsame, chains'', hshared'',
            (hspared name hname hopen).trans hspared'⟩

/-- In every run each call is answered with the bytes that its file holds, or refused,
or it fails and loses its own file: what is known of all other files stays true. -/
theorem calls_follow_views (hsound : layout.Sound) {rounds : Nat}
    (hrounds : layout.clusterCount.toNat ≤ rounds) {chains : Name → List UInt32}
    {views : Views Name} (hshared : Shared layout flags chains start views)
    {calls : List (Call Name)}
    (hrun : Data.run (Handles.step io layout rounds) calls start = some finish) :
    ∃ known, Data.run (Views.step flags) calls (some views) = some known ∧
      ∀ left, known = some left → ∀ name view, left name = some view →
        ∃ chain, Shows layout finish.1 chain (finish.2 name) view := by
  obtain ⟨known, hknown, hfinish⟩ := hshared.known.run hsound hrounds hrun
  refine ⟨known, hknown, fun left hleft name view hview => ?_⟩
  obtain ⟨chains', hshared'⟩ := hfinish left hleft
  exact ⟨chains' name, hshared'.shows hview⟩

/-- Calls through other handles, failed ones too, leave a file with its handle, its chain,
its directory entry and all of its bytes. -/
theorem idle_file_kept (hsound : layout.Sound) {rounds : Nat}
    (hrounds : layout.clusterCount.toNat ≤ rounds) {chains : Name → List UInt32}
    {views left : Views Name} (hshared : Shared layout flags chains start views)
    {calls : List (Call Name)}
    (hrun : Data.run (Handles.step io layout rounds) calls start = some finish)
    (hviews : Data.run (Views.step flags) calls (some views) = some (some left))
    {name : Name} (hidle : ∀ call ∈ calls, call.name ≠ name) {view : FileView}
    (hview : views name = some view) :
    Shows layout finish.1 (chains name) (finish.2 name) view ∧
      finish.2 name = start.2 name ∧
      ∀ place, (start.2 name).slotOf (start.2 name).dirBlock place →
        finish.1.memory (start.2 name).dirBlock place =
          start.1.memory (start.2 name).dirBlock place := by
  have hopen : views name ≠ none := by
    rw [hview]
    exact Option.some_ne_none view
  obtain ⟨hsame, chains', hshared', hspared⟩ :=
    hshared.run_idle hsound hrounds hrun hviews hidle hopen
  refine ⟨?_, hspared.handle, hspared.entry⟩
  rw [← hspared.chain]
  exact hshared'.shows (hsame.trans hview)

/-- After every run, a call that the file does not refuse fails only where one of its own
accesses fails, or where a write finds no cluster free. -/
theorem call_fails_only (hsound : layout.Sound) {rounds : Nat}
    (hrounds : layout.clusterCount.toNat ≤ rounds) {chains : Name → List UInt32}
    {views left : Views Name} (hshared : Shared layout flags chains start views)
    {calls : List (Call Name)} {middle : Handles Name}
    (hrun : Data.run (Handles.step io layout rounds) calls start = some middle)
    (hviews : Data.run (Views.step flags) calls (some views) = some (some left))
    {name : Name} {view : FileView} (hview : left name = some view) {command : Command}
    (hfits : view.Fits (flags name) command)
    (hcall : view.call (flags name) command ≠ none)
    (hfailed : Handles.step io layout rounds ⟨name, command, none⟩ middle = some finish) :
    BrokenIn io middle.1.accesses finish.1.accesses ∨
      command.Writes ∧ Full layout finish.1 := by
  obtain ⟨known, hknown, hmiddle⟩ := hshared.known.run hsound hrounds hrun
  rw [hviews] at hknown
  obtain ⟨chains', hshared'⟩ := hmiddle left (Option.some.inj hknown).symm
  obtain ⟨⟨bytes, view'⟩, hexpected⟩ := Option.ne_none_iff_exists'.mp hcall
  have hwithin := (local_ofFile layout rounds name command).within
    (observe_some_iff.mp hfailed)
  rw [← observe_some_iff] at hwithin
  obtain ⟨-, hreason⟩ :=
    ((hshared'.ends_call hsound hview hrounds hfits hexpected).observed hwithin).2 rfl
  exact hreason.imp_left broken_within_iff.mp

end Runs

/-! Two new files on the small card, with their entries to be written. -/

def newFile (dirIndex : UInt8) : FatFile where
  flags := fileWrite ||| fFileDirDirty
  type := .normal
  curCluster := 0
  curPosition := 0
  dirBlock := 34
  dirIndex := dirIndex
  fileSize := 0
  firstCluster := 0

def newFiles : Handles Bool :=
  (blankVolume, fun second => newFile (if second then 1 else 0))

theorem newFiles_shared : Shared smallLayout (fun _ => fileWrite) (fun _ => []) newFiles
    (fun _ => some ⟨[], 0⟩) := by
  have happart : ∀ cluster, smallLayout.Cluster cluster →
      ¬ smallLayout.InCluster cluster 34 := by
    intro cluster hcluster ⟨index, hindex, hblock⟩
    have hnat := (smallLayout_sound.toNat_block hcluster hindex).1
    rw [← hblock] at hnat
    have hroot : (34 : UInt32).toNat = 34 := rfl
    have hdata : smallLayout.dataStartBlock.toNat = 35 := rfl
    omega
  have hshows : ∀ index : UInt8, Shows smallLayout blankVolume [] (newFile index) ⟨[], 0⟩ := by
    intro index
    refine ⟨⟨⟨⟨.nil _ _, rfl, le_refl 0, rfl⟩, rfl, le_refl 0, le_refl 0⟩,
      ?_, fun cluster hcluster _ => happart cluster hcluster, ?_,
      fun hclean => absurd hclean (or_dirty_ne fileWrite)⟩, rfl, rfl⟩
    · exact smallLayout_plain
    · have hblank : blankVolume.memory 34 = fun _ => 0 := by
        rw [blankVolume_memory (by decide), smallCard_blank (by decide) (by decide)]
      change blankVolume.memory 34 _ &&& attFileTypeMask = 0
      rw [hblank]
      exact (by decide : (0 : UInt8) &&& attFileTypeMask = 0)
  refine ⟨blankVolume_coherent, blankVolume_startable, ?_, fun _ => sameFlags_dirty fileWrite,
    fun _ _ _ => List.disjoint_nil_left _, ?_, nofun⟩
  · intro name view hview
    cases hview
    exact hshows _
  · intro name other hdiffer _ _ _
    cases name <;> cases other
    · exact absurd rfl hdiffer
    · decide
    · decide
    · exact absurd rfl hdiffer

/-- Both files are written, the card fails while the first of them is synced, and the
second is read. -/
def mixedCalls : List (Call Bool) :=
  [⟨false, .write [1, 2, 3], some (some [])⟩, ⟨true, .write [4], some (some [])⟩,
    ⟨false, .sync, none⟩, ⟨true, .seekSet 0, some (some [])⟩,
    ⟨true, .read 2, some (some [4])⟩]

theorem mixedCalls_isSome :
    (Data.run (Handles.step (failingFrom 10) smallLayout 4085) mixedCalls
      newFiles).isSome = true := by
  decide +kernel

def mixedFiles : Handles Bool :=
  (Data.run (Handles.step (failingFrom 10) smallLayout 4085) mixedCalls newFiles).get
    mixedCalls_isSome

theorem mixedCalls_run :
    Data.run (Handles.step (failingFrom 10) smallLayout 4085) mixedCalls newFiles =
      some mixedFiles := (Option.some_get mixedCalls_isSome).symm

theorem calls_follow_views_newFiles :
    ∃ known, Data.run (Views.step (fun _ : Bool => fileWrite)) mixedCalls
        (some fun _ => some ⟨[], 0⟩) = some known ∧
      ∀ left, known = some left → ∀ name view, left name = some view →
        ∃ chain, Shows smallLayout mixedFiles.1 chain (mixedFiles.2 name) view :=
  calls_follow_views smallLayout_sound (le_refl 4085) newFiles_shared mixedCalls_run

def mixedViews : Views Bool := fun second => if second then some ⟨[4], 1⟩ else none

theorem mixedCalls_views :
    Data.run (Views.step (fun _ : Bool => fileWrite)) mixedCalls
      (some fun _ => some ⟨[], 0⟩) = some (some mixedViews) := by
  have hviews : Data.run (Views.step (fun _ : Bool => fileWrite)) mixedCalls
      (some fun _ => some ⟨[], 0⟩) = some (some
        (Function.update (Function.update (Function.update (Function.update
          (Function.update (fun _ => some ⟨[], 0⟩) false (some ⟨[1, 2, 3], 3⟩))
          true (some ⟨[4], 1⟩)) false none) true (some ⟨[4], 0⟩)) true
          (some ⟨[4], 1⟩))) := rfl
  rw [hviews]
  congr 2
  funext second
  cases second <;> rfl

theorem mixedFiles_isSome :
    (Handles.step (failingFrom 10) smallLayout 4085 ⟨true, .sync, none⟩
      mixedFiles).isSome = true := by
  decide +kernel

/-- The second file cannot be synced either. -/
theorem call_fails_only_mixed :
    BrokenIn (failingFrom 10) mixedFiles.1.accesses
        ((Handles.step (failingFrom 10) smallLayout 4085 ⟨true, .sync, none⟩
          mixedFiles).get mixedFiles_isSome).1.accesses ∨
      Command.sync.Writes ∧ Full smallLayout
        ((Handles.step (failingFrom 10) smallLayout 4085 ⟨true, .sync, none⟩
          mixedFiles).get mixedFiles_isSome).1 :=
  call_fails_only smallLayout_sound (le_refl 4085) newFiles_shared mixedCalls_run
    mixedCalls_views (rfl : mixedViews true = some ⟨[4], 1⟩) trivial
    (Option.some_ne_none _) (Option.some_get mixedFiles_isSome).symm

/-- The second of the files has been written. -/
def firstCalls : List (Call Bool) := [⟨true, .write [4], some (some [])⟩]

/-- The card fails when a cluster has been taken for the first of the files. -/
def cutCalls : List (Call Bool) := [⟨false, .write [1, 2, 3], none⟩]

theorem firstCalls_isSome :
    (Data.run (Handles.step (failingFrom 7) smallLayout 4085) firstCalls
      newFiles).isSome = true := by
  decide +kernel

def firstFiles : Handles Bool :=
  (Data.run (Handles.step (failingFrom 7) smallLayout 4085) firstCalls newFiles).get
    firstCalls_isSome

theorem cutCalls_isSome :
    (Data.run (Handles.step (failingFrom 7) smallLayout 4085) cutCalls
      firstFiles).isSome = true := by
  decide +kernel

def cutFiles : Handles Bool :=
  (Data.run (Handles.step (failingFrom 7) smallLayout 4085) cutCalls firstFiles).get
    cutCalls_isSome

def firstViews : Views Bool :=
  Function.update (fun _ => some ⟨[], 0⟩) true (some ⟨[4], 1⟩)

theorem idle_file_kept_cut : ∃ chain, Shows smallLayout cutFiles.1 chain (cutFiles.2 true)
      ⟨[4], 1⟩ ∧ cutFiles.2 true = firstFiles.2 true ∧
    ∀ place, (firstFiles.2 true).slotOf (firstFiles.2 true).dirBlock place →
      cutFiles.1.memory (firstFiles.2 true).dirBlock place =
        firstFiles.1.memory (firstFiles.2 true).dirBlock place := by
  obtain ⟨known, hknown, hfirst⟩ := newFiles_shared.known.run smallLayout_sound
    (le_refl 4085) (Option.some_get firstCalls_isSome).symm
  obtain rfl : some firstViews = known := Option.some.inj
    ((rfl : Data.run (Views.step fun _ : Bool => fileWrite) firstCalls
      (some fun _ => some ⟨[], 0⟩) = some (some firstViews)).symm.trans hknown)
  obtain ⟨chains, hshared⟩ := hfirst firstViews rfl
  refine ⟨chains true, idle_file_kept smallLayout_sound (le_refl 4085) hshared
    (Option.some_get cutCalls_isSome).symm
    (rfl : Data.run (Views.step fun _ : Bool => fileWrite) cutCalls (some firstViews) =
      some (some (Function.update firstViews false none))) ?_ rfl⟩
  intro call hcall
  rw [List.mem_singleton.mp hcall]
  exact Bool.false_ne_true

end SenseBox.SD
