import SenseBox.SD.OpenFile

namespace SenseBox.SD

open SenseBox.Data
open SdVolume

/-! Writing to an open file. -/

/-- Nothing has changed but clusters that the file has or that were free, and the
bytes of its directory entry. -/
structure SdVolume.Within (layout : Layout) (own : UInt32 → Prop)
    (entry : UInt32 → Nat → Prop) (before after : SdVolume) : Prop where
  coherent : Coherent layout after
  startable : Startable layout after
  fat : ∀ cluster, ¬ own cluster → before.fat layout cluster ≠ 0 →
    after.fat layout cluster = before.fat layout cluster
  free : ∀ cluster, layout.Cluster cluster → after.fat layout cluster = 0 →
    own cluster ∨ before.fat layout cluster = 0
  memory : ∀ block place, layout.Plain block → ¬ entry block place →
    (∀ cluster, layout.Cluster cluster →
      own cluster ∨ before.fat layout cluster = 0 → ¬ layout.InCluster cluster block) →
    after.memory block place = before.memory block place

def SdVolume.Full (layout : Layout) (volume : SdVolume) : Prop :=
  ∀ cluster, layout.Cluster cluster → volume.fat layout cluster ≠ 0

variable {layout : Layout} {io : Accesses} {table : UInt32 → UInt32}
  {chain : List UInt32} {file : FatFile} {volume after : SdVolume}
  {own own' : UInt32 → Prop} {entry : UInt32 → Nat → Prop}

namespace SdVolume

theorem Startable.of_eq (hstartable : Startable layout volume)
    (hsame : after.allocSearchStart = volume.allocSearchStart) :
    Startable layout after := by
  constructor
  · rw [hsame]
    exact hstartable.bgn
  · rw [hsame]
    exact hstartable.last

theorem Within.trans {first second third : SdVolume}
    (hfirst : Within layout own entry first second)
    (hsecond : Within layout own' entry second third)
    (hown : ∀ cluster, own' cluster → own cluster ∨ first.fat layout cluster = 0) :
    Within layout own entry first third where
  coherent := hsecond.coherent
  startable := hsecond.startable
  fat cluster hother hused := by
    have hsame := hfirst.fat cluster hother hused
    have hother' : ¬ own' cluster := fun hin =>
      (hown cluster hin).elim hother hused
    rw [hsecond.fat cluster hother' (hsame ▸ hused), hsame]
  free cluster hcluster hfree :=
    (hsecond.free cluster hcluster hfree).elim (hown cluster)
      (hfirst.free cluster hcluster)
  memory block place hplain hentry hapart := by
    rw [hsecond.memory block place hplain hentry fun cluster hcluster hin =>
        hapart cluster hcluster (hin.elim (hown cluster) (hfirst.free cluster hcluster)),
      hfirst.memory block place hplain hentry hapart]

theorem Within.of_memory (hsound : layout.Sound) (hcoherent : Coherent layout after)
    (hstartable : Startable layout after)
    (hmemory : ∀ block, layout.Logical block → after.memory block = volume.memory block) :
    Within layout own entry volume after where
  coherent := hcoherent
  startable := hstartable
  fat cluster _ _ := congrFun (fat_of_memory hsound hmemory) cluster
  free cluster _ hfree := .inr (congrFun (fat_of_memory hsound hmemory) cluster ▸ hfree)
  memory block place hplain _ _ := congrFun (hmemory block hplain.1) place

theorem Kept.within (hsound : layout.Sound) (hkept : Kept layout volume after)
    (hstartable : Startable layout volume) : Within layout own entry volume after :=
  .of_memory hsound hkept.coherent (hstartable.of_eq hkept.same.allocSearchStart)
    hkept.same.memory

theorem Within.kept (hsound : layout.Sound) {first second third : SdVolume}
    (hwithin : Within layout own entry first second) (hkept : Kept layout second third) :
    Within layout own entry first third := by
  have hlast : Within layout own entry second third :=
    hkept.within hsound hwithin.startable
  exact hwithin.trans hlast fun _ hin => .inl hin

theorem OnlyBlock.within (hsound : layout.Sound) {block cluster : UInt32}
    (honly : OnlyBlock layout block volume after) (hstartable : Startable layout volume)
    (hcluster : layout.Cluster cluster) (hblock : layout.InCluster cluster block)
    (hown : own cluster) :
    Within layout own entry volume after ∧ after.fat layout = volume.fat layout := by
  have hplain := hsound.plain_block hcluster hblock
  have hfat : after.fat layout = volume.fat layout := by
    funext other
    unfold SdVolume.fat
    split
    · next hother =>
      have hfirst := hsound.first_fatBlock hother
      have hapart : layout.fatBlock other ≠ block := by
        rintro rfl
        exact hplain.2 hfirst
      rw [honly.memory _ (hsound.logical_of_first hfirst) hapart]
    · rfl
  refine ⟨⟨honly.coherent, hstartable.of_eq honly.allocSearchStart, ?_, ?_, ?_⟩, hfat⟩
  · exact fun other _ _ => congrFun hfat other
  · exact fun other _ hfree => .inr (congrFun hfat other ▸ hfree)
  · intro other place hother _ hapart
    have hdiffer : other ≠ block := by
      rintro rfl
      exact hapart cluster hcluster (.inl hown) hblock
    rw [honly.memory other hother.1 hdiffer]

/-- A chain has been given one more cluster, and no block outside of the FAT has
changed. -/
structure Grown (layout : Layout) (chain : List UInt32) (cluster : UInt32)
    (before after : SdVolume) : Prop where
  data : layout.Cluster cluster
  free : before.fat layout cluster = 0
  chained : layout.Chained (after.fat layout) (chain ++ [cluster])
  coherent : Coherent layout after
  startable : Startable layout after
  others : ∀ other, other ∉ chain → other ≠ cluster →
    after.fat layout other = before.fat layout other
  plain : ∀ block, layout.Plain block → after.memory block = before.memory block

theorem Grown.within {cluster : UInt32} (hgrown : Grown layout chain cluster volume after) :
    Within layout (· ∈ chain) entry volume after where
  coherent := hgrown.coherent
  startable := hgrown.startable
  fat other hother hused := by
    have hapart : other ≠ cluster := by
      rintro rfl
      exact hused hgrown.free
    exact hgrown.others other hother hapart
  free other _ hfree := by
    by_cases hother : other ∈ chain
    · exact .inl hother
    · have hapart : other ≠ cluster := by
        rintro rfl
        exact hgrown.chained.used (List.mem_append_right chain (.head _)) hfree
      exact .inr (hgrown.others other hother hapart ▸ hfree)
  memory block place hplain _ _ := congrFun (hgrown.plain block hplain) place

theorem Allocated.grown (hsound : layout.Sound) (hstartable : Startable layout volume)
    (hleading : layout.Leading (volume.fat layout) chain) {curCluster cluster : UInt32}
    (hcur : chain = [] ∧ curCluster = 0 ∨ ∃ init, chain = init ++ [curCluster])
    (hallocated : Allocated layout 1 curCluster cluster volume after) :
    Grown layout chain cluster volume after := by
  obtain ⟨hcoherent, hplain, ⟨hfree, hlinked, hconnected, hothers⟩, hstart, -⟩ :=
    hallocated
  obtain ⟨rest, hchain⟩ := hleading
  rw [Layout.group_one] at hfree hlinked hothers
  obtain ⟨hcluster, hzero⟩ := hfree cluster (.head _)
  have hcurIn : curCluster ≠ 0 → curCluster ∈ chain := by
    rcases hcur with ⟨-, hnone⟩ | ⟨init, rfl⟩
    · exact fun hsome => absurd hnone hsome
    · exact fun _ => List.mem_append_right init (.head _)
  have hsame : ∀ other, other ∉ chain → other ≠ cluster →
      after.fat layout other = volume.fat layout other := by
    intro other hother hapart
    refine hothers other (fun hin => hapart (List.mem_singleton.mp hin)) ?_
    rintro rfl
    by_contra hsome
    exact hother (hcurIn hsome)
  refine ⟨hcluster, hzero, ⟨?_, ?_⟩, hcoherent, ?_, hsame, hplain⟩
  · intro other hother
    rcases List.mem_append.mp hother with hin | hin
    · exact hchain.clusters other (List.mem_append_left rest hin)
    · rw [List.mem_singleton.mp hin]
      exact hcluster
  · rcases hcur with ⟨rfl, -⟩ | ⟨init, rfl⟩
    · exact hlinked
    · have hcurCluster := hchain.clusters curCluster
        (List.mem_append_left rest (List.mem_append_right init (.head _)))
      have hnodup := List.nodup_append.mp
        (List.nodup_append.mp hchain.linked.nodup).1
      have hin : ¬ layout.isEOC cluster = true := by
        rw [Layout.isEOC_iff]
        have := hcluster.2
        have := hsound.count
        omega
      refine Linked.join (leads_append.mp hchain.linked).1 ?_ ?_ rfl hlinked
      · intro other hother
        have hapart : other ≠ cluster := by
          rintro rfl
          exact hchain.used (List.mem_append_left rest (List.mem_append_left _ hother))
            hzero
        have hother' : other ≠ curCluster :=
          hnodup.2.2 other hother curCluster (.head _)
        rw [Layout.links, Layout.links, hothers other (fun h =>
          hapart (List.mem_singleton.mp h)) fun h => absurd h hother']
      · rw [Layout.links, hconnected hcurCluster.ne_zero, if_neg hin]
  · by_cases hset : curCluster = 0 ∧ (1 : UInt32) = 1
    · rw [if_pos hset] at hstart
      have hnat := Layout.Searching.toNat_next hsound hcluster.2
      have hlow := hcluster.1
      have hhigh := hcluster.2
      constructor
      · rw [hstart, hnat]
        omega
      · rw [hstart, hnat]
        omega
    · rw [if_neg hset] at hstart
      exact hstartable.of_eq hstart

end SdVolume

/-- A chain is as it was, or it has been given one more cluster. -/
inductive SdVolume.Extended (layout : Layout) (chain : List UInt32)
    (before after : SdVolume) : List UInt32 → Prop where
  | kept (chained : layout.Chained (before.fat layout) chain)
      (startable : Startable layout before) (kept : Kept layout before after) :
      Extended layout chain before after []
  | grown {cluster : UInt32} (grown : Grown layout chain cluster before after) :
      Extended layout chain before after [cluster]

namespace SdVolume.Extended

variable {more : List UInt32}

theorem chained (hsound : layout.Sound) (hextended : Extended layout chain volume after more) :
    layout.Chained (after.fat layout) (chain ++ more) := by
  cases hextended with
  | kept hchained _ hkept =>
      rw [hkept.same.fat hsound, List.append_nil]
      exact hchained
  | grown hgrown => exact hgrown.chained

theorem within (hsound : layout.Sound) (hextended : Extended layout chain volume after more) :
    Within layout (· ∈ chain) entry volume after := by
  cases hextended with
  | kept _ hstartable hkept => exact hkept.within hsound hstartable
  | grown hgrown => exact hgrown.within

theorem plain (hextended : Extended layout chain volume after more) {block : UInt32}
    (hplain : layout.Plain block) : after.memory block = volume.memory block := by
  cases hextended with
  | kept _ _ hkept => exact hkept.same.memory block hplain.1
  | grown hgrown => exact hgrown.plain block hplain

theorem fresh (hextended : Extended layout chain volume after more) {cluster : UInt32}
    (hcluster : cluster ∈ more) :
    layout.Cluster cluster ∧ volume.fat layout cluster = 0 := by
  cases hextended with
  | kept => cases hcluster
  | grown hgrown =>
      rw [List.mem_singleton.mp hcluster]
      exact ⟨hgrown.data, hgrown.free⟩

end SdVolume.Extended

theorem SdVolume.Kept.extended_trans (hsound : layout.Sound) {middle : SdVolume}
    {more : List UInt32} (hkept : Kept layout volume middle)
    (hextended : Extended layout chain middle after more)
    (hstartable : Startable layout volume) : Extended layout chain volume after more := by
  cases hextended with
  | kept hchained _ hafter =>
      rw [hkept.same.fat hsound] at hchained
      exact .kept hchained hstartable (hkept.trans hafter)
  | grown hgrown =>
      refine .grown ⟨hgrown.data, ?_, hgrown.chained, hgrown.coherent, hgrown.startable,
        ?_, ?_⟩
      · rw [← hkept.same.fat hsound]
        exact hgrown.free
      · rw [← hkept.same.fat hsound]
        exact hgrown.others
      · intro block hplain
        rw [hgrown.plain block hplain, hkept.same.memory block hplain.1]

/-- The handle has come to the cluster of its position in a chain. -/
structure FatFile.Brought (layout : Layout) (chain : List UInt32)
    (before after : FatFile) : Prop where
  handle : after = { FatFile.located layout chain before with
    firstCluster := chain.headD 0
    flags := after.flags }
  flags : after.flags = before.flags ∧ chain.headD 0 = before.firstCluster ∨
    after.flags = before.flags ||| fFileDirDirty

theorem OnChain.first_zero_iff (hchain : OnChain layout table chain file) :
    file.firstCluster = 0 ↔ chain = [] := by
  rw [hchain.first]
  cases chain with
  | nil => exact ⟨fun _ => rfl, fun _ => rfl⟩
  | cons head rest =>
      refine ⟨fun hzero => ?_, nofun⟩
      exact absurd hzero (hchain.clusters head (.head rest)).ne_zero

/-- At the start of a cluster, the position tells whether there is a current one. -/
theorem OnChain.current_zero_iff (hchain : OnChain layout table chain file)
    (hstart : file.curPosition.toNat % layout.clusterBytes = 0) :
    file.curCluster = 0 ↔ file.curPosition = 0 := by
  refine ⟨fun hnone => ?_, fun hzero => ?_⟩
  · by_contra hzero
    obtain ⟨index, -, hcur⟩ := hchain.cluster_before hstart hzero
    exact (hchain.cluster_get hcur).ne_zero hnone
  · rw [hchain.cluster, if_pos hzero]

namespace FatFile

theorem ends_addCluster (hsound : layout.Sound) (hcoherent : Coherent layout volume)
    (hstartable : Startable layout volume)
    (hleading : layout.Leading (volume.fat layout) chain)
    (hcur : chain = [] ∧ file.curCluster = 0 ∨
      ∃ init, chain = init ++ [file.curCluster]) :
    Ends (addCluster io layout) (volume, file)
      (fun _ after => ∃ cluster, Grown layout chain cluster volume after.1 ∧
        after.2 = linkFirst (setCluster cluster file))
      (fun after => Within layout own entry volume after.1 ∧ after.2 = file ∧
        (Broken io ∨ Full layout after.1)) := by
  obtain ⟨rest, hchain⟩ := hleading
  have hused : file.curCluster = 0 ∨ layout.Cluster file.curCluster ∧
      volume.fat layout file.curCluster ≠ 0 := by
    rcases hcur with ⟨-, hnone⟩ | ⟨init, hinit⟩
    · exact .inl hnone
    · have hin : file.curCluster ∈ chain := by
        rw [hinit]
        exact List.mem_append_right init (.head _)
      have hin' := List.mem_append_left rest hin
      exact .inr ⟨hchain.clusters _ hin', hchain.used hin'⟩
  rw [addCluster, ends_bind, ends_getFile, ends_bind, ends_onVolume]
  apply (ends_allocContiguous hsound hcoherent hstartable hused).imp
  · intro cluster after hallocated
    rw [ends_bind, ends_modifyFile, ends_modifyFile]
    exact ⟨cluster, hallocated.grown hsound hstartable ⟨rest, hchain⟩ hcur, rfl⟩
  · rintro after ⟨honly, hsame, hfailed⟩
    refine ⟨⟨honly.coherent, hstartable.of_eq honly.allocSearchStart, ?_, ?_, ?_⟩, rfl,
      hfailed.imp_right fun hnone cluster hcluster => ?_⟩
    · exact fun cluster _ hused => hsame cluster hused
    · intro cluster _ hfree
      right
      by_contra hused
      exact hused (hsame cluster hused ▸ hfree)
    · exact fun block place hplain _ _ => congrFun (honly.plain block hplain) place
    · have hused := hnone rfl cluster hcluster
      rw [hsame cluster hused]
      exact hused

theorem brought_setCluster (hchain : OnChain layout table chain file)
    (hsome : ¬ file.firstCluster = 0) (more : List UInt32) {cluster : UInt32}
    (hcluster : cluster =
      (chain ++ more).getD (file.curPosition.toNat / layout.clusterBytes) 0) :
    Brought layout (chain ++ more) file (setCluster cluster file) := by
  have hhead : (chain ++ more).headD 0 = file.firstCluster := by
    rw [hchain.first]
    cases chain with
    | nil => exact absurd (hchain.first_zero_iff.mpr rfl) hsome
    | cons head rest => rfl
  refine ⟨?_, .inl ⟨rfl, hhead⟩⟩
  rw [hhead, located, ← hcluster]
  rfl

/-- At the end of its chain a handle holds the last cluster. -/
theorem last_of_next {index : Nat} {cluster : UInt32}
    (hcluster : chain[index]? = some cluster) (hnext : chain[index + 1]? = none) :
    chain.length = index + 1 ∧ chain = chain.take index ++ [cluster] := by
  obtain ⟨hlt, hget⟩ := List.getElem?_eq_some_iff.mp hcluster
  have hge := List.getElem?_eq_none_iff.mp hnext
  refine ⟨by omega, ?_⟩
  have hdrop : chain.drop index = [cluster] := by
    rw [List.drop_eq_getElem_cons hlt, hget, List.drop_eq_nil_of_le hge]
  rw [← hdrop, List.take_append_drop]

/-- At the start of a cluster the handle comes to the next one, which may be new. -/
theorem ends_writeCluster (hsound : layout.Sound) (hcoherent : Coherent layout volume)
    (hstartable : Startable layout volume)
    (hchain : OnChain layout (volume.fat layout) chain file)
    (hstart : file.curPosition.toNat % layout.clusterBytes = 0) :
    Ends (writeCluster io layout) (volume, file)
      (fun _ after => ∃ more, Extended layout chain volume after.1 more ∧
        file.curPosition.toNat < (chain ++ more).length * layout.clusterBytes ∧
        Brought layout (chain ++ more) file after.2)
      (fun after => Within layout (· ∈ chain) entry volume after.1 ∧
        (Broken io ∨ Full layout after.1)) := by
  have hpos := layout.clusterBytes_pos
  have hsplit := Nat.div_add_mod file.curPosition.toNat layout.clusterBytes
  rw [writeCluster, ends_bind, ends_getFile]
  by_cases hnone : file.curCluster = 0
  · have hzero := (hchain.current_zero_iff hstart).mp hnone
    have hplace : file.curPosition.toNat = 0 := by rw [hzero, UInt32.toNat_zero]
    rw [if_pos hnone]
    by_cases hempty : file.firstCluster = 0
    · obtain rfl := hchain.first_zero_iff.mp hempty
      rw [if_pos hempty]
      apply (ends_addCluster hsound hcoherent hstartable hchain.toChained.leading
        (.inl ⟨rfl, hnone⟩)).imp
      · rintro - after ⟨cluster, hgrown, hafter⟩
        refine ⟨[cluster], .grown hgrown, ?_, ?_⟩
        · rw [hplace]
          exact Nat.mul_pos Nat.one_pos hpos
        · have hlink : linkFirst (setCluster cluster file) =
              { setCluster cluster file with
                firstCluster := cluster
                flags := file.flags ||| fFileDirDirty } := if_pos hempty
          rw [hafter, hlink]
          refine ⟨?_, .inr rfl⟩
          rw [located, hplace, Nat.zero_div]
          rfl
      · exact fun _ hfailed => ⟨hfailed.1, hfailed.2.2⟩
    · have hsome : chain ≠ [] := fun hnil => hempty (hchain.first_zero_iff.mpr hnil)
      rw [if_neg hempty, ends_modifyFile]
      refine ⟨[], .kept hchain.toChained hstartable ⟨hcoherent, .refl _⟩, ?_, ?_⟩
      · rw [hplace, List.append_nil]
        exact Nat.mul_pos (List.length_pos_iff.mpr hsome) hpos
      · apply brought_setCluster hchain hempty
        rw [hplace, Nat.zero_div, List.append_nil, hchain.first, Layout.headD_eq]
  · have hzero : ¬ file.curPosition = 0 := fun hzero =>
      hnone ((hchain.current_zero_iff hstart).mpr hzero)
    obtain ⟨index, hindex, hcur⟩ := hchain.cluster_before hstart hzero
    have hsome : ¬ file.firstCluster = 0 := by
      intro hempty
      rw [hchain.first_zero_iff.mp hempty] at hcur
      cases hcur
    rw [hindex, hstart] at hsplit
    rw [if_neg hnone, ends_bind, ends_onVolume]
    apply (ends_fatGet hsound hcoherent (hchain.cluster_get hcur).2).imp
    · rintro next got ⟨rfl, hkept⟩
      have hfat := hkept.same.fat hsound
      cases hnext : chain[index + 1]? with
      | none =>
          obtain ⟨hlength, hlast⟩ := last_of_next hcur hnext
          rw [if_pos (hchain.fat_last hcur hnext)]
          apply (ends_addCluster hsound hkept.coherent
            (hstartable.of_eq hkept.same.allocSearchStart)
            (hfat.symm ▸ hchain.toChained.leading)
            (.inr ⟨_, hlast⟩)).imp
          · rintro - after ⟨cluster, hgrown, hafter⟩
            refine ⟨[cluster], hkept.extended_trans hsound (.grown hgrown) hstartable,
              ?_, ?_⟩
            · rw [List.length_append, List.length_singleton, hlength, Nat.mul_comm]
              rw [Nat.mul_add]
              omega
            · have hlink : linkFirst (setCluster cluster file) = setCluster cluster file :=
                if_neg hsome
              rw [hafter, hlink]
              apply brought_setCluster hchain hsome
              rw [hindex, ← hlength, List.getD_append_right _ _ _ _ (le_refl _),
                Nat.sub_self]
              rfl
          · rintro after ⟨hwithin, -, hfailed⟩
            exact ⟨(hkept.within hsound hstartable).trans hwithin fun _ hin => .inl hin,
              hfailed⟩
      | some next =>
          obtain ⟨hvalue, hnot⟩ := hchain.fat_next hcur hnext
          obtain ⟨hlt, hget⟩ := List.getElem?_eq_some_iff.mp hnext
          rw [if_neg hnot, ends_modifyFile, hvalue]
          refine ⟨[], .kept hchain.toChained hstartable hkept, ?_, ?_⟩
          · have hmul := Nat.mul_le_mul_right layout.clusterBytes hlt
            rw [Nat.succ_mul, Nat.mul_comm] at hmul
            rw [List.append_nil]
            omega
          · apply brought_setCluster hchain hsome
            rw [hindex, List.append_nil, List.getD_eq_getElem _ _ hlt, hget]
    · rintro after ⟨hkept, hbroken⟩
      exact ⟨hkept.within hsound hstartable, .inl hbroken⟩

theorem ends_writeLocate (hsound : layout.Sound) (hcoherent : Coherent layout volume)
    (hstartable : Startable layout volume)
    (hchain : OnChain layout (volume.fat layout) chain file) :
    Ends (writeLocate io layout) (volume, file)
      (fun _ after => ∃ more, Extended layout chain volume after.1 more ∧
        file.curPosition.toNat < (chain ++ more).length * layout.clusterBytes ∧
        Brought layout (chain ++ more) file after.2)
      (fun after => Within layout (· ∈ chain) entry volume after.1 ∧
        (Broken io ∨ Full layout after.1)) := by
  rw [writeLocate, ends_bind, ends_getFile]
  by_cases hstart : file.curPosition.toNat % layout.clusterBytes = 0
  · rw [if_pos ((start_iff hsound file).mpr hstart)]
    exact ends_writeCluster hsound hcoherent hstartable hchain hstart
  · rw [if_neg (mt (start_iff hsound file).mp hstart), ends_pure]
    have hreached := hchain.reached
    have hwithin := hchain.cluster_within hstart
    refine ⟨[], .kept hchain.toChained hstartable ⟨hcoherent, .refl _⟩, ?_, ?_⟩
    · rw [List.append_nil]
      apply Nat.lt_of_le_of_ne hreached
      intro hend
      rw [hend] at hstart
      exact hstart (Nat.mul_mod_left _ _)
    · rw [List.append_nil]
      refine ⟨?_, .inl ⟨rfl, hchain.first.symm⟩⟩
      rw [located, ← hwithin, ← hchain.first]
      rfl

end FatFile

/-! The bytes of the file. -/

theorem SdFile.overwrite_congr {left right : Nat → UInt8} {start place : Nat}
    {bytes : List UInt8}
    (hsame : place < start ∨ start + bytes.length ≤ place → left place = right place) :
    SdFile.overwrite left start bytes place = SdFile.overwrite right start bytes place := by
  unfold SdFile.overwrite
  split
  · next hbefore => exact hsame (.inl hbefore)
  · next hbefore =>
    by_cases hin : place - start < bytes.length
    · rw [List.getD_eq_getElem _ _ hin, List.getD_eq_getElem _ _ hin]
    · rw [List.getD_eq_default _ _ (by omega), List.getD_eq_default _ _ (by omega)]
      exact hsame (.inr (by omega))

/-- What writing bytes at the position of a handle has done. -/
structure FatFile.Wrote (layout : Layout) (entry : UInt32 → Nat → Prop)
    (chain more : List UInt32) (bytes : List UInt8) (before after : FatFile.Opened) :
    Prop where
  onChain : OnChain layout (after.1.fat layout) (chain ++ more) after.2
  fresh : ∀ cluster ∈ more,
    layout.Cluster cluster ∧ before.1.fat layout cluster = 0
  within : Within layout (· ∈ chain) entry before.1 after.1
  handle : after.2 = { before.2 with
    curPosition := before.2.curPosition + UInt32.ofNat bytes.length
    curCluster := after.2.curCluster
    firstCluster := after.2.firstCluster
    flags := after.2.flags }
  flags : after.2.flags = before.2.flags ∧
      after.2.firstCluster = before.2.firstCluster ∨
    after.2.flags = before.2.flags ||| fFileDirDirty
  bytes : ∀ place,
    place < max before.2.fileSize.toNat (before.2.curPosition.toNat + bytes.length) →
    byteOf layout after.1 (chain ++ more) place =
      SdFile.overwrite (byteOf layout before.1 chain) before.2.curPosition.toNat bytes
        place

/-- The handle goes on in the cluster that it has come to. -/
theorem OnChain.brought {more : List UInt32} {table' : UInt32 → UInt32} {file' : FatFile}
    (hchain : OnChain layout table chain file)
    (hchained : layout.Chained table' (chain ++ more))
    (hbrought : FatFile.Brought layout (chain ++ more) file file')
    (hplace : file.curPosition.toNat < (chain ++ more).length * layout.clusterBytes)
    {n : Nat} (hn : 0 < n) (hblock : file.curPosition.toNat % 512 + n ≤ 512)
    (hfit : file.curPosition.toNat + n < 2 ^ 32) :
    OnChain layout table' (chain ++ more) (FatFile.advance n file') ∧
      (file.curPosition + UInt32.ofNat n).toNat = file.curPosition.toNat + n := by
  have hstart : OnChain layout table' (chain ++ more)
      { file with firstCluster := (chain ++ more).headD 0, flags := file'.flags } := by
    refine ⟨hchained, rfl, hplace.le, ?_⟩
    refine Eq.trans hchain.cluster ?_
    by_cases hzero : file.curPosition = 0
    · rw [if_pos hzero]
      exact (if_pos hzero).symm
    · rw [if_neg hzero]
      refine Eq.trans ?_ (if_neg hzero).symm
      have hpos : 0 < file.curPosition.toNat :=
        Nat.pos_of_ne_zero fun hnat => hzero (UInt32.toNat_inj.mp hnat)
      have hreached := hchain.reached
      have hlt : (file.curPosition.toNat - 1) / layout.clusterBytes < chain.length :=
        Layout.index_lt (by omega)
      exact (List.getD_append _ _ _ _ hlt).symm
  obtain ⟨hadvanced, hnat⟩ := hstart.advance hplace hn hblock hfit
  have hhandle := hbrought.handle
  refine ⟨?_, hnat⟩
  rw [hhandle]
  exact hadvanced

namespace FatFile

theorem ends_writeRound (hsound : layout.Sound) (hcoherent : Coherent layout volume)
    (hstartable : Startable layout volume)
    (hchain : OnChain layout (volume.fat layout) chain file)
    (hsize : file.fileSize.toNat ≤ chain.length * layout.clusterBytes)
    {bytes : List UInt8} (hsome : 0 < bytes.length)
    (hbytes : file.blockOffset + bytes.length ≤ 512)
    (hfit : file.curPosition.toNat + bytes.length < 2 ^ 32) :
    Ends (writeRound io layout bytes) (volume, file)
      (fun _ after => ∃ more,
        Wrote layout entry chain more bytes (volume, file) after)
      (fun after => Within layout (· ∈ chain) entry volume after.1 ∧
        (Broken io ∨ Full layout after.1)) := by
  rw [blockOffset_eq] at hbytes
  rw [writeRound]
  apply (ends_writeLocate hsound hcoherent hstartable hchain).bind
  · rintro - ⟨grown, file'⟩ ⟨more, hextended, hplace, hbrought⟩
    have hhandle := hbrought.handle
    have hflags := hbrought.flags
    dsimp only at hextended hplace hbrought hhandle hflags ⊢
    have hchained := hextended.chained hsound
    have hwithin : Within layout (· ∈ chain) entry volume grown := hextended.within hsound
    obtain ⟨hmem, hin⟩ := Layout.blockAt_in hplace
    have hcluster := hchained.clusters _ hmem
    have hplain := hsound.plain_block hcluster hin
    have hposition : file'.curPosition = file.curPosition := by rw [hhandle]; rfl
    have hblock : layout.clusterStartBlock file'.curCluster +
        (layout.blockOfCluster file'.curPosition).toUInt32 =
          layout.blockAt (chain ++ more) file.curPosition.toNat := by
      rw [hposition, hsound.toUInt32_blockOfCluster, Layout.blockAt, hhandle]
      rfl
    have hwritten : ∀ after, OnlyBlock layout
        (layout.blockAt (chain ++ more) file.curPosition.toNat) grown after →
        Within layout (· ∈ chain) entry volume after ∧
          after.fat layout = grown.fat layout := by
      intro after honly
      have hstep : Within layout (· ∈ chain ++ more) entry grown after ∧
          after.fat layout = grown.fat layout :=
        honly.within hsound hwithin.startable hcluster hin hmem
      refine ⟨hwithin.trans hstep.1 fun cluster hcluster => ?_, hstep.2⟩
      exact (List.mem_append.mp hcluster).imp_right fun hin => (hextended.fresh hin).2
    rw [ends_bind, ends_getFile, ends_bind, ends_onVolume]
    dsimp only
    rw [hblock, blockOffset_eq, hposition]
    apply (ends_writePart hsound hwithin.coherent hplain _ hbytes).imp
    · rintro - after ⟨data, hstored, hdata⟩
      obtain ⟨hstep, hfat⟩ := hwritten after hstored.onlyBlock
      obtain ⟨honChain, hnat⟩ := hchain.brought hchained hbrought hplace hsome hbytes hfit
      have hroom := Layout.block_le hplace hbytes
      rw [ends_modifyFile]
      refine ⟨more, ?_, fun _ hin => hextended.fresh hin, hstep, ?_, ?_, ?_⟩
      · rw [hfat]
        exact honChain
      · rw [hhandle]
        rfl
      · rw [hhandle]
        exact hflags.imp_left fun hsame => hsame
      · intro place hlt
        dsimp only at hlt ⊢
        have hfull : chain.length ≤ (chain ++ more).length := by
          rw [List.length_append]
          exact Nat.le_add_right _ _
        have hroom' := Nat.mul_le_mul_right layout.clusterBytes hfull
        have hin' : place < (chain ++ more).length * layout.clusterBytes := by omega
        rw [byteOf_stored hsound hchained hplace hstored hbytes hin' ?_]
        · apply SdFile.overwrite_congr
          intro houtside
          have hold : place < chain.length * layout.clusterBytes := by
            have hreached := hchain.reached
            omega
          rw [byteOf_append more hold]
          exact byteOf_congr (fun cluster hcluster block hblock => hextended.plain
            (hsound.plain_block (hchain.clusters cluster hcluster) hblock)) hold
        · intro hsame
          apply hdata _ (Nat.mod_lt _ (by decide))
          have hsize' : file'.fileSize = file.fileSize := by
            rw [hhandle]
            rfl
          rw [hsize', decide_eq_false_iff_not, ge_iff_le, UInt32.le_iff_toNat_le]
          omega
    · rintro after ⟨honly, hbroken⟩
      exact ⟨(hwritten after honly).1, .inl hbroken⟩
  · exact fun _ hfailed => hfailed

theorem fFileDirDirty_twice (flags : UInt8) :
    flags ||| fFileDirDirty ||| fFileDirDirty = flags ||| fFileDirDirty := by
  rw [UInt8.or_assoc, UInt8.or_self]

theorem toNat_position {position : UInt32} {n : Nat} (hfit : position.toNat + n < 2 ^ 32) :
    (position + UInt32.ofNat n).toNat = position.toNat + n := by
  rw [UInt32.toNat_add, UInt32.toNat_ofNat', Nat.mod_eq_of_lt (by omega : n < 2 ^ 32),
    Nat.mod_eq_of_lt hfit]

theorem Wrote.fileSize {first second : Opened} {more : List UInt32} {bytes : List UInt8}
    (hwrote : Wrote layout entry chain more bytes first second) :
    second.2.fileSize = first.2.fileSize := by rw [hwrote.handle]

theorem Wrote.position {first second : Opened} {more : List UInt32} {bytes : List UInt8}
    (hfit : first.2.curPosition.toNat + bytes.length < 2 ^ 32)
    (hwrote : Wrote layout entry chain more bytes first second) :
    second.2.curPosition.toNat = first.2.curPosition.toNat + bytes.length := by
  have hposition : second.2.curPosition =
      first.2.curPosition + UInt32.ofNat bytes.length := by rw [hwrote.handle]
  rw [hposition, toNat_position hfit]

theorem Wrote.append {first second third : Opened} {more rest : List UInt32}
    {left right : List UInt8}
    (hfit : first.2.curPosition.toNat + (left ++ right).length < 2 ^ 32)
    (hfirst : Wrote layout entry chain more left first second)
    (hsecond : Wrote layout entry (chain ++ more) rest right second third) :
    Wrote layout entry chain (more ++ rest) (left ++ right) first third := by
  rw [List.length_append] at hfit
  have hsize := hfirst.fileSize
  have hnat := hfirst.position (by omega)
  refine ⟨?_, ?_, ?_, ?_, ?_, ?_⟩
  · rw [← List.append_assoc]
    exact hsecond.onChain
  · intro cluster hcluster
    rcases List.mem_append.mp hcluster with hin | hin
    · exact hfirst.fresh cluster hin
    · obtain ⟨hdata, hfree⟩ := hsecond.fresh cluster hin
      refine ⟨hdata, (hfirst.within.free cluster hdata hfree).resolve_left fun hold => ?_⟩
      exact hfirst.onChain.toChained.used (List.mem_append_left more hold) hfree
  · exact hfirst.within.trans hsecond.within fun cluster hcluster =>
      (List.mem_append.mp hcluster).imp_right fun hin => (hfirst.fresh cluster hin).2
  · refine Eq.trans hsecond.handle ?_
    rw [hfirst.handle, List.length_append, UInt32.ofNat_add, UInt32.add_assoc]
  · rcases hfirst.flags with ⟨hflags, hcluster⟩ | hflags
    · rcases hsecond.flags with ⟨hflags', hcluster'⟩ | hflags'
      · exact .inl ⟨hflags'.trans hflags, hcluster'.trans hcluster⟩
      · exact .inr (by rw [hflags', hflags])
    · rcases hsecond.flags with ⟨hflags', hcluster'⟩ | hflags'
      · exact .inr (hflags'.trans hflags)
      · exact .inr (by rw [hflags', hflags, fFileDirDirty_twice])
  · intro place hplace
    rw [List.length_append] at hplace
    rw [← List.append_assoc, hsecond.bytes place (by rw [hsize, hnat]; omega),
      ← overwrite_overwrite, hnat]
    apply SdFile.overwrite_congr
    intro houtside
    exact hfirst.bytes place (by omega)

theorem ends_writeLoop (hsound : layout.Sound) {src : List UInt8}
    (hcoherent : Coherent layout volume) (hstartable : Startable layout volume)
    (hchain : OnChain layout (volume.fat layout) chain file)
    (hsize : file.fileSize.toNat ≤ chain.length * layout.clusterBytes)
    (hfit : file.curPosition.toNat + src.length < 2 ^ 32) :
    Ends (writeLoop io layout src) (volume, file)
      (fun _ after => ∃ more, Wrote layout entry chain more src (volume, file) after)
      (fun after => Within layout (· ∈ chain) entry volume after.1 ∧
        (Broken io ∨ Full layout after.1)) := by
  induction hlength : src.length using Nat.strong_induction_on
    generalizing src volume file chain with
  | _ length ih =>
    rw [writeLoop]
    by_cases hdone : src = []
    · rw [dif_pos hdone, ends_pure, hdone]
      have hkept : Kept layout volume volume := ⟨hcoherent, .refl _⟩
      refine ⟨[], ?_, nofun, hkept.within hsound hstartable, ?_, .inl ⟨rfl, rfl⟩, ?_⟩
      · rw [List.append_nil]
        exact hchain
      · exact congrArg (fun position => { file with curPosition := position })
          (UInt32.add_zero file.curPosition).symm
      · intro place _
        rw [overwrite_nil, List.append_nil]
    · have hpos := List.length_pos_iff.mpr hdone
      have hoffset := blockOffset_lt file
      obtain ⟨n, hn⟩ : ∃ n, n = min (512 - file.blockOffset) src.length := ⟨_, rfl⟩
      have htake : (src.take n).length = n := by
        rw [List.length_take]
        omega
      have hround : Ends (writeRound io layout (src.take n)) (volume, file)
          (fun _ after => ∃ more,
            Wrote layout entry chain more (src.take n) (volume, file) after) _ :=
        ends_writeRound hsound hcoherent hstartable hchain hsize (by omega) (by omega)
          (by omega)
      rw [dif_neg hdone, ends_bind, ends_getFile, ← hn]
      apply hround.bind
      · rintro - ⟨written, file'⟩ ⟨more, hwrote⟩
        have hdrop : (src.drop n).length = src.length - n := List.length_drop
        have hsize' : file'.fileSize = file.fileSize := hwrote.fileSize
        have hpart : file.curPosition.toNat + (src.take n).length < 2 ^ 32 := by omega
        have hnat : file'.curPosition.toNat = file.curPosition.toNat + (src.take n).length :=
          hwrote.position hpart
        rw [htake] at hnat
        have hgrown : chain.length * layout.clusterBytes ≤
            (chain ++ more).length * layout.clusterBytes := by
          rw [List.length_append, Nat.add_mul]
          exact Nat.le_add_right _ _
        have hwithin := hwrote.within
        dsimp only at hwithin hnat
        have hroom : file'.fileSize.toNat ≤
            (chain ++ more).length * layout.clusterBytes := by
          rw [hsize']
          omega
        have hfit' : file'.curPosition.toNat + (src.drop n).length < 2 ^ 32 := by
          rw [hnat, hdrop]
          omega
        apply (ih (src.length - n) (by omega) hwithin.coherent hwithin.startable
          hwrote.onChain hroom hfit' hdrop).imp
        · rintro - after ⟨rest, hrest⟩
          have happended := hwrote.append (by
            rw [List.take_append_drop]
            exact hfit) hrest
          rw [List.take_append_drop] at happended
          exact ⟨_, happended⟩
        · rintro after ⟨hafter, hfailed⟩
          refine ⟨hwithin.trans hafter fun cluster hcluster => ?_, hfailed⟩
          exact (List.mem_append.mp hcluster).imp_right fun hin =>
            (hwrote.fresh cluster hin).2
      · exact fun _ hfailed => hfailed

end FatFile

end SenseBox.SD
