import SenseBox.Data.Run
import SenseBox.SD.Clusters
import SenseBox.SD.SmallCard

namespace SenseBox.SD

open SenseBox.Data
open SdVolume

/-! Runs of calls that take and free clusters. -/

inductive ClusterCall where
  | allocContiguous (count curCluster : UInt32)
  | freeChain (cluster : UInt32)

variable {layout : Layout} {io : Accesses} {volume after : SdVolume}

instance (cluster : UInt32) : Decidable (layout.Cluster cluster) :=
  inferInstanceAs (Decidable (_ ∧ _))

namespace ClusterCall

/-- The call, with the first cluster that it has taken; `none` is that freeing goes
on. -/
def perform (io : Accesses) (layout : Layout) :
    ClusterCall → Failing SdVolume (Option UInt32)
  | .allocContiguous count curCluster => do
      let cluster ← SdVolume.allocContiguous io layout count curCluster
      return some cluster
  | .freeChain cluster => do
      let done ← SdVolume.freeChain io layout (layout.clusterCount.toNat + 2) cluster
      return done.map fun _ => 0

/-- A chain is continued after a cluster that is in use; what is freed may be
anything. -/
def Proper (layout : Layout) (volume : SdVolume) : ClusterCall → Prop
  | .allocContiguous count curCluster => count ≠ 0 ∧ (curCluster = 0 ∨
      layout.Cluster curCluster ∧ volume.fat layout curCluster ≠ 0)
  | .freeChain _ => True

instance (call : ClusterCall) : Decidable (call.Proper layout volume) :=
  match call with
  | .allocContiguous count curCluster => inferInstanceAs (Decidable (count ≠ 0 ∧
      (curCluster = 0 ∨ layout.Cluster curCluster ∧ volume.fat layout curCluster ≠ 0)))
  | .freeChain _ => isTrue trivial

end ClusterCall

/-- A call with its answer; `none` is that it has failed. -/
structure ClusterStep where
  call : ClusterCall
  answer : Option (Option UInt32)

def SdVolume.clusterStep (io : Accesses) (layout : Layout) (step : ClusterStep)
    (volume : SdVolume) : Option SdVolume :=
  if step.call.Proper layout volume then
    observe (step.call.perform io layout) step.answer volume
  else none

/-- Below the place where the search starts every cluster is in use. -/
structure Hinted (layout : Layout) (volume : SdVolume) : Prop where
  coherent : Coherent layout volume
  startable : Startable layout volume
  used : ∀ cluster : UInt32, 2 ≤ cluster.toNat →
    cluster.toNat < volume.allocSearchStart.toNat → volume.fat layout cluster ≠ 0

theorem card_entered_le (layout : Layout) (volume : SdVolume) :
    (entered layout volume).card ≤ layout.clusterCount.toNat := by
  have hcard := Finset.card_filter_le (Finset.Icc 2 (layout.clusterCount.toNat + 1))
    fun cluster => volume.fat layout (UInt32.ofNat cluster) ≠ 0
  rw [Nat.card_Icc] at hcard
  rw [entered]
  omega

/-- Freeing ends on every FAT, on one with a loop too, and changes nothing but the
FAT. -/
theorem SdVolume.ends_freeChain_any (hsound : layout.Sound)
    (hcoherent : Coherent layout volume) (cluster : UInt32) :
    Ends (freeChain io layout (layout.clusterCount.toNat + 2) cluster) volume
      (fun done after => done = some () ∧
        FatOnly layout { volume with allocSearchStart := 2 } after)
      (fun after => FatOnly layout { volume with allocSearchStart := 2 } after) := by
  have hcoherent' : Coherent layout { volume with allocSearchStart := 2 } :=
    ⟨hcoherent.clean, hcoherent.pending, hcoherent.waiting, hcoherent.logical,
      hcoherent.copies⟩
  rw [freeChain, ends_bind, ends_modify]
  exact ends_freeLoop_any hsound hcoherent' (Nat.add_le_add_right (card_entered_le _ _) 2)

namespace Hinted

theorem rewound
    (honly : FatOnly layout { volume with allocSearchStart := 2 } after) :
    Hinted layout after := by
  have htwo : after.allocSearchStart.toNat = 2 := by
    rw [honly.allocSearchStart]
    rfl
  refine ⟨honly.coherent, ⟨htwo.ge, by omega⟩, fun cluster hlow hless => ?_⟩
  omega

theorem filled (hhinted : Hinted layout volume) (hcoherent : Coherent layout after)
    (hstart : after.allocSearchStart = volume.allocSearchStart)
    (hused : ∀ cluster, volume.fat layout cluster ≠ 0 →
      after.fat layout cluster ≠ 0) : Hinted layout after where
  coherent := hcoherent
  startable := ⟨by rw [hstart]; exact hhinted.startable.bgn,
    by rw [hstart]; exact hhinted.startable.last⟩
  used cluster hlow hless := by
    rw [hstart] at hless
    exact hused cluster (hhinted.used cluster hlow hless)

end Hinted

namespace Layout.Appended

variable {count : Nat} {curCluster bgnCluster : UInt32} {before table : UInt32 → UInt32}

theorem group_used (happended : layout.Appended count curCluster bgnCluster before table)
    {cluster : UInt32} (hin : cluster ∈ Layout.group bgnCluster count) :
    table cluster ≠ 0 := by
  have hchain : layout.Chained table (Layout.group bgnCluster count) :=
    ⟨fun other hother => (happended.free other hother).1, happended.linked⟩
  exact hchain.used hin

theorem bgn (happended : layout.Appended (count + 1) curCluster bgnCluster before table) :
    layout.Cluster bgnCluster ∧ before bgnCluster = 0 ∧ table bgnCluster ≠ 0 := by
  have hin : bgnCluster ∈ Layout.group bgnCluster (count + 1) :=
    List.mem_of_mem_head? (Layout.head?_group)
  obtain ⟨hcluster, hfree⟩ := happended.free bgnCluster hin
  exact ⟨hcluster, hfree, happended.group_used hin⟩

theorem used (happended : layout.Appended (count + 1) curCluster bgnCluster before table)
    {cluster : UInt32} (hused : before cluster ≠ 0) : table cluster ≠ 0 := by
  by_cases hcur : cluster = curCluster ∧ curCluster ≠ 0
  · obtain ⟨rfl, hsome⟩ := hcur
    rw [happended.connected hsome]
    exact happended.bgn.1.ne_zero
  · rw [happended.others cluster ?_ ?_]
    · exact hused
    · exact fun hin => hused (happended.free cluster hin).2
    · exact fun hsame => not_not.mp fun hsome => hcur ⟨hsame, hsome⟩

end Layout.Appended

namespace Hinted

theorem allocated (hsound : layout.Sound) (hhinted : Hinted layout volume)
    {count curCluster bgnCluster : UInt32} (hcount : count ≠ 0)
    (hallocated : Allocated layout count curCluster bgnCluster volume after) :
    Hinted layout after := by
  obtain ⟨size, hsize⟩ : ∃ size, count.toNat = size + 1 :=
    Nat.exists_eq_succ_of_ne_zero fun hnat => hcount (UInt32.toNat_inj.mp hnat)
  have happended := hallocated.appended
  rw [hsize] at happended
  have hstart := hallocated.start
  by_cases hfirst : curCluster = 0 ∧ count = 1
  · rw [if_pos hfirst] at hstart
    obtain ⟨hbgn, -, hbgnUsed⟩ := happended.bgn
    have hnat := Layout.Searching.toNat_next hsound hbgn.2
    have hlow := hbgn.1
    have hhigh := hbgn.2
    refine ⟨hallocated.coherent, ⟨?_, ?_⟩, fun cluster hfrom hless => ?_⟩
    · rw [hstart, hnat]
      omega
    · rw [hstart, hnat]
      omega
    · rw [hstart, hnat] at hless
      by_cases hlast : cluster.toNat = bgnCluster.toNat
      · rw [UInt32.toNat_inj.mp hlast]
        exact hbgnUsed
      · exact happended.used (hallocated.lowest hfirst.1 hfirst.2 hhinted.used cluster
          hfrom (by omega))
  · rw [if_neg hfirst] at hstart
    exact hhinted.filled hallocated.coherent hstart fun cluster hused =>
      happended.used hused

theorem ends_perform (hsound : layout.Sound) (hhinted : Hinted layout volume)
    {call : ClusterCall} (hproper : call.Proper layout volume) :
    Ends (call.perform io layout) volume
      (fun answer after => answer ≠ none ∧ Hinted layout after)
      (fun after => Hinted layout after) := by
  cases call with
  | allocContiguous count curCluster =>
      obtain ⟨hcount, hcur⟩ := hproper
      apply (ends_allocContiguous hsound hhinted.coherent hhinted.startable hcur).bind
      · rintro bgnCluster after hallocated
        exact ⟨nofun, hhinted.allocated hsound hcount hallocated⟩
      · rintro after ⟨honly, hsame, -⟩
        apply hhinted.filled honly.coherent honly.allocSearchStart
        intro cluster hused
        rw [hsame cluster hused]
        exact hused
  | freeChain cluster =>
      apply (ends_freeChain_any hsound hhinted.coherent cluster).bind
      · rintro done after ⟨rfl, honly⟩
        exact ⟨nofun, rewound honly⟩
      · exact fun _ honly => rewound honly

theorem step (hsound : layout.Sound) (hhinted : Hinted layout volume) {step : ClusterStep}
    (hstep : clusterStep io layout step volume = some after) : Hinted layout after := by
  unfold clusterStep at hstep
  split at hstep
  · next hproper =>
    obtain ⟨hreturned, hfailed⟩ := (hhinted.ends_perform hsound hproper).observed hstep
    cases hanswer : step.answer with
    | none => exact hfailed hanswer
    | some answer => exact (hreturned answer hanswer).2
  · cases hstep

theorem run (hsound : layout.Sound) (hhinted : Hinted layout volume)
    {steps : List ClusterStep}
    (hrun : Data.run (clusterStep io layout) steps volume = some after) :
    Hinted layout after :=
  run_invariant (Hinted layout) (fun _ _ _ _ hstart hstep => hstart.step hsound hstep)
    hhinted hrun

end Hinted

/-- No free cluster is below the place where the search starts. -/
theorem Hinted.le_free (hhinted : Hinted layout volume) {cluster : UInt32}
    (hcluster : layout.Cluster cluster) (hfree : volume.fat layout cluster = 0) :
    volume.allocSearchStart.toNat ≤ cluster.toNat := by
  by_contra hless
  exact hhinted.used cluster hcluster.1 (Nat.not_le.mp hless) hfree

/-- A file without clusters is given the lowest one that is free. -/
theorem Hinted.ends_first (hsound : layout.Sound) (hhinted : Hinted layout volume) :
    Ends ((ClusterCall.allocContiguous 1 0).perform io layout) volume
      (fun answer after => ∃ cluster, answer = some cluster ∧
        (layout.Cluster cluster ∧ volume.fat layout cluster = 0 ∧
          ∀ other, layout.Cluster other → volume.fat layout other = 0 →
            cluster.toNat ≤ other.toNat) ∧
        layout.isEOC (after.fat layout cluster) = true ∧
          ∀ other, other ≠ cluster → after.fat layout other = volume.fat layout other)
      (fun _ => True) := by
  apply (ends_allocContiguous hsound hhinted.coherent hhinted.startable (.inl rfl)).bind
  · intro cluster after hallocated
    obtain ⟨hcluster, hfree, -⟩ := hallocated.appended.bgn
    have hlinked := hallocated.appended.linked
    have hothers := hallocated.appended.others
    rw [Layout.group_one] at hlinked hothers
    refine ⟨cluster, rfl, ⟨hcluster, hfree, fun other hdata hzero => ?_⟩, ?_,
      fun other hdiffer => ?_⟩
    · by_contra hless
      exact hallocated.lowest rfl rfl hhinted.used other hdata.1 (Nat.not_le.mp hless) hzero
    · by_contra hgoes
      have hlink := hlinked.1
      rw [Layout.links, if_neg hgoes] at hlink
      cases hlink
    · exact hothers other (fun hin => hdiffer (List.mem_singleton.mp hin)) fun _ => rfl
  · exact fun _ _ => trivial

/-- After every run the search starts at no place past a free cluster; so a file without
clusters is given the lowest one that is free, and no other entry changes. -/
theorem lowest_free_taken (hsound : layout.Sound) (hhinted : Hinted layout volume)
    {steps : List ClusterStep} {middle : SdVolume}
    (hrun : Data.run (clusterStep io layout) steps volume = some middle) :
    (∀ cluster, layout.Cluster cluster → middle.fat layout cluster = 0 →
      middle.allocSearchStart.toNat ≤ cluster.toNat) ∧
    ∀ cluster after,
      clusterStep io layout ⟨.allocContiguous 1 0, some (some cluster)⟩ middle =
        some after →
      (layout.Cluster cluster ∧ middle.fat layout cluster = 0 ∧
        ∀ other, layout.Cluster other → middle.fat layout other = 0 →
          cluster.toNat ≤ other.toNat) ∧
      layout.isEOC (after.fat layout cluster) = true ∧
        ∀ other, other ≠ cluster → after.fat layout other = middle.fat layout other := by
  have hmiddle := hhinted.run hsound hrun
  refine ⟨fun cluster hcluster hfree => hmiddle.le_free hcluster hfree,
    fun cluster after hstep => ?_⟩
  unfold clusterStep at hstep
  rw [if_pos ⟨by decide, .inl rfl⟩] at hstep
  obtain ⟨other, hother, htaken⟩ :=
    ((hmiddle.ends_first hsound).observed hstep).1 (some cluster) rfl
  cases hother
  exact htaken

/-- After every run freeing comes to an end, whatever the FAT holds, and leaves all
bytes of the files and directories. -/
theorem freeing_ends (hsound : layout.Sound) (hhinted : Hinted layout volume)
    {steps : List ClusterStep} {middle : SdVolume}
    (hrun : Data.run (clusterStep io layout) steps volume = some middle)
    {cluster : UInt32} {answer : Option (Option UInt32)}
    (hstep : clusterStep io layout ⟨.freeChain cluster, answer⟩ middle = some after) :
    answer ≠ some none ∧
      ∀ block, layout.Plain block → after.memory block = middle.memory block := by
  have hmiddle := hhinted.run hsound hrun
  have hends : Ends ((ClusterCall.freeChain cluster).perform io layout) middle
      (fun answer after => answer ≠ none ∧
        ∀ block, layout.Plain block → after.memory block = middle.memory block)
      (fun after =>
        ∀ block, layout.Plain block → after.memory block = middle.memory block) := by
    apply (ends_freeChain_any hsound hmiddle.coherent cluster).bind
    · rintro done after ⟨rfl, honly⟩
      exact ⟨nofun, honly.plain⟩
    · exact fun _ honly => honly.plain
  have hproper : (ClusterCall.freeChain cluster).Proper layout middle := trivial
  unfold clusterStep at hstep
  rw [if_pos hproper] at hstep
  obtain ⟨hreturned, hfailed⟩ := hends.observed hstep
  cases hanswer : answer with
  | none => exact ⟨nofun, hfailed hanswer⟩
  | some value =>
      obtain ⟨hvalue, hplain⟩ := hreturned value hanswer
      exact ⟨fun hnone => hvalue (Option.some.inj hnone), hplain⟩

/-! A chain of two clusters and another of one are made on the small card, and the first is
freed. -/

theorem blankVolume_hinted : Hinted smallLayout blankVolume where
  coherent := blankVolume_coherent
  startable := blankVolume_startable
  used _ hlow hless := absurd hless (Nat.not_lt.mpr hlow)

def chainBuilt : List ClusterStep :=
  [⟨.allocContiguous 1 0, some (some 2)⟩, ⟨.allocContiguous 1 2, some (some 3)⟩,
    ⟨.allocContiguous 1 0, some (some 4)⟩]

def chainFreed : List ClusterStep :=
  chainBuilt ++ [⟨.freeChain 2, some (some 0)⟩]

theorem chainBuilt_isSome :
    (Data.run (clusterStep (fun _ _ => true) smallLayout) chainBuilt
      blankVolume).isSome = true := by
  decide +kernel

theorem chainFreed_isSome :
    (Data.run (clusterStep (fun _ _ => true) smallLayout) chainFreed
      blankVolume).isSome = true := by
  decide +kernel

def builtVolume : SdVolume :=
  (Data.run (clusterStep (fun _ _ => true) smallLayout) chainBuilt blankVolume).get
    chainBuilt_isSome

def freedVolume : SdVolume :=
  (Data.run (clusterStep (fun _ _ => true) smallLayout) chainFreed blankVolume).get
    chainFreed_isSome

theorem freedVolume_taken_isSome :
    (clusterStep (fun _ _ => true) smallLayout ⟨.allocContiguous 1 0, some (some 2)⟩
      freedVolume).isSome = true := by
  decide +kernel

theorem builtVolume_freed_isSome :
    (clusterStep (fun _ _ => true) smallLayout ⟨.freeChain 2, some (some 0)⟩
      builtVolume).isSome = true := by
  decide +kernel

/-- The next file is given the first cluster of the chain that has been freed. -/
theorem lowest_free_taken_freed :
    (∀ cluster, smallLayout.Cluster cluster → freedVolume.fat smallLayout cluster = 0 →
      freedVolume.allocSearchStart.toNat ≤ cluster.toNat) ∧
    ∀ other, smallLayout.Cluster other → freedVolume.fat smallLayout other = 0 →
      (2 : UInt32).toNat ≤ other.toNat := by
  obtain ⟨hhint, htaken⟩ := lowest_free_taken smallLayout_sound blankVolume_hinted
    (Option.some_get chainFreed_isSome).symm
  obtain ⟨⟨-, -, hlowest⟩, -⟩ :=
    htaken 2 _ (Option.some_get freedVolume_taken_isSome).symm
  exact ⟨hhint, hlowest⟩

theorem freeing_ends_built :
    (some (some 0) : Option (Option UInt32)) ≠ some none ∧
      ∀ block, smallLayout.Plain block →
        ((clusterStep (fun _ _ => true) smallLayout ⟨.freeChain 2, some (some 0)⟩
          builtVolume).get builtVolume_freed_isSome).memory block =
            builtVolume.memory block :=
  freeing_ends smallLayout_sound blankVolume_hinted (Option.some_get chainBuilt_isSome).symm
    (Option.some_get builtVolume_freed_isSome).symm

end SenseBox.SD
