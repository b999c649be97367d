import SenseBox.SD.SyncFile

namespace SenseBox.SD

open SenseBox.Data
open SdVolume

/-! Cutting an open file. -/

/-- Clusters of a chain have been freed, and the others are as they were. -/
structure SdVolume.Freed (layout : Layout) (chain : List UInt32)
    (before after : SdVolume) : Prop where
  coherent : Coherent layout after
  startable : Startable layout after
  plain : ∀ block, layout.Plain block → after.memory block = before.memory block
  fat : ∀ cluster, cluster ∉ chain → after.fat layout cluster = before.fat layout cluster

variable {layout : Layout} {io : Accesses} {chain : List UInt32} {file : FatFile}
  {volume after : SdVolume} {own : UInt32 → Prop} {entry : UInt32 → Nat → Prop}

namespace SdVolume

theorem Kept.freed (hsound : layout.Sound) (hkept : Kept layout volume after)
    (hstartable : Startable layout volume) : Freed layout chain volume after where
  coherent := hkept.coherent
  startable := hstartable.of_eq hkept.same.allocSearchStart
  plain block hplain := hkept.same.memory block hplain.1
  fat cluster _ := congrFun (hkept.same.fat hsound) cluster

theorem Freed.trans {first second third : SdVolume}
    (hfirst : Freed layout chain first second) (hsecond : Freed layout chain second third) :
    Freed layout chain first third where
  coherent := hsecond.coherent
  startable := hsecond.startable
  plain block hplain := (hsecond.plain block hplain).trans (hfirst.plain block hplain)
  fat cluster hout := (hsecond.fat cluster hout).trans (hfirst.fat cluster hout)

theorem Freed.mono {more : List UInt32} (hfreed : Freed layout chain volume after)
    (hmore : ∀ cluster ∈ chain, cluster ∈ more) : Freed layout more volume after where
  coherent := hfreed.coherent
  startable := hfreed.startable
  plain := hfreed.plain
  fat cluster hout := hfreed.fat cluster (mt (hmore cluster) hout)

theorem Freed.within (hfreed : Freed layout chain volume after)
    (hown : ∀ cluster ∈ chain, own cluster) : Within layout own entry volume after where
  coherent := hfreed.coherent
  startable := hfreed.startable
  fat cluster hother _ := hfreed.fat cluster fun hin => hother (hown cluster hin)
  free cluster _ hfree := by
    by_cases hin : cluster ∈ chain
    · exact .inl (hown cluster hin)
    · exact .inr (hfreed.fat cluster hin ▸ hfree)
  memory block place hplain _ _ := congrFun (hfreed.plain block hplain) place

theorem ends_freeChain (hsound : layout.Sound) (hcoherent : Coherent layout volume)
    {cluster : UInt32} {chain : List UInt32}
    (hchain : layout.Chained (volume.fat layout) (cluster :: chain)) {rounds : Nat}
    (hrounds : (cluster :: chain).length ≤ rounds) :
    Ends (freeChain io layout rounds cluster) volume
      (fun done after => done = some () ∧
        Freed layout (cluster :: chain) volume after ∧
        ∀ other ∈ cluster :: chain, after.fat layout other = 0)
      (fun after => Freed layout (cluster :: chain) volume after ∧ Broken io) := by
  have hstartable : ∀ after, FatOnly layout { volume with allocSearchStart := 2 } after →
      Startable layout after := by
    intro after honly
    have htwo : after.allocSearchStart.toNat = 2 := by
      rw [honly.allocSearchStart]
      rfl
    exact ⟨htwo.ge, by omega⟩
  have hcoherent' : Coherent layout { volume with allocSearchStart := 2 } :=
    ⟨hcoherent.clean, hcoherent.pending, hcoherent.waiting, hcoherent.logical,
      hcoherent.copies⟩
  rw [freeChain, ends_bind, ends_modify]
  apply (ends_freeLoop hsound hcoherent' hchain.linked hchain.clusters hrounds).imp
  · rintro done after ⟨hdone, honly, hfat⟩
    refine ⟨hdone, ⟨honly.coherent, hstartable after honly, honly.plain, ?_⟩, ?_⟩
    · intro other hout
      exact (hfat other).trans (if_neg hout)
    · intro other hin
      exact (hfat other).trans (if_pos hin)
  · rintro after ⟨honly, hbroken, hothers⟩
    exact ⟨⟨honly.coherent, hstartable after honly, honly.plain, hothers⟩, hbroken⟩

end SdVolume

namespace FatFile

theorem ends_freeRest (hsound : layout.Sound) (hcoherent : Coherent layout volume)
    (hstartable : Startable layout volume) {init rest : List UInt32} {last : UInt32}
    (hchain : layout.Chained (volume.fat layout) (init ++ [last] ++ rest))
    (hcur : file.curCluster = last) {rounds : Nat} (hrounds : rest.length ≤ rounds) :
    Ends (freeRest io layout rounds) (volume, file)
      (fun done after => done = some () ∧ after.2 = file ∧
        Freed layout (last :: rest) volume after.1 ∧
        layout.Chained (after.1.fat layout) (init ++ [last]))
      (fun after => Freed layout (last :: rest) volume after.1 ∧ Broken io) := by
  have hlast : (init ++ [last] ++ rest)[init.length]? = some last := by
    rw [List.append_assoc, List.getElem?_append_right (le_refl _), Nat.sub_self]
    rfl
  have hnext : (init ++ [last] ++ rest)[init.length + 1]? = rest.head? := by
    rw [List.getElem?_append_right (by simp), List.head?_eq_getElem?]
    simp
  have hcluster := hchain.cluster_get hlast
  rw [freeRest, ends_bind, ends_getFile, ends_bind, ends_onVolume, hcur]
  apply (ends_fatGet hsound hcoherent hcluster.2).imp
  · rintro toFree got ⟨rfl, hkept⟩
    have hfat := hkept.same.fat hsound
    cases rest with
    | nil =>
        rw [if_pos (hchain.fat_last hlast hnext), ends_pure]
        refine ⟨rfl, rfl, hkept.freed hsound hstartable, ?_⟩
        rw [hfat]
        rw [List.append_nil] at hchain
        exact hchain
    | cons head tail =>
        obtain ⟨hhead, hgoes⟩ := hchain.fat_next hlast hnext
        have hrest : layout.Chained (got.fat layout) (head :: tail) := by
          rw [hfat]
          exact ⟨fun cluster hin => hchain.clusters cluster (List.mem_append_right _ hin),
            hchain.linked.tail⟩
        rw [if_neg hgoes, hhead, ends_bind, ends_onVolume]
        have hsofar : ∀ after, Freed layout (head :: tail) got after →
            Freed layout (last :: head :: tail) volume after := fun after hfreed =>
          (hkept.freed hsound hstartable).trans
            (hfreed.mono fun cluster hin => .tail last hin)
        apply (ends_freeChain hsound hkept.coherent hrest hrounds).imp
        · rintro - freed ⟨rfl, hfreed, -⟩
          have hnodup := List.nodup_append.mp hchain.linked.nodup
          have hinit : ∀ cluster ∈ init ++ [last], cluster ∉ head :: tail :=
            fun cluster hin hout => hnodup.2.2 cluster hin cluster hout rfl
          have hinit' : ∀ cluster ∈ init, cluster ≠ last := by
            intro cluster hin hsame
            exact (List.nodup_append.mp hnodup.1).2.2 cluster hin last (.head _) hsame
          dsimp only
          rw [ends_bind, ends_onVolume]
          apply (ends_fatPut hsound hfreed.coherent hcluster 0x0FFFFFFF).imp
          · rintro - ended ⟨honly, hput⟩
            have hchanged : ∀ cluster, cluster ∉ last :: head :: tail →
                ended.fat layout cluster = volume.fat layout cluster := by
              intro cluster hout
              obtain ⟨hapart, hout'⟩ := not_or.mp (mt List.mem_cons.mpr hout)
              rw [hput, Function.update_of_ne hapart, hfreed.fat cluster hout', hfat]
            rw [ends_pure]
            refine ⟨rfl, rfl, ⟨honly.coherent,
              (hsofar freed hfreed).startable.of_eq honly.allocSearchStart, ?_, hchanged⟩,
              ⟨fun cluster hin => hchain.clusters cluster (List.mem_append_left _ hin), ?_⟩⟩
            · intro block hplain
              exact (honly.plain block hplain).trans
                ((hsofar freed hfreed).plain block hplain)
            · apply hchain.linked.cut
              · intro cluster hin
                have hout : cluster ∉ last :: head :: tail := by
                  intro hmem
                  rcases List.mem_cons.mp hmem with hsame | hmem
                  · exact hinit' cluster hin hsame
                  · exact hinit cluster (List.mem_append_left _ hin) hmem
                rw [Layout.links, Layout.links, hchanged cluster hout]
              · rw [Layout.links, hput, Function.update_self,
                  if_pos (Layout.isEOC_kept layout)]
          · rintro after ⟨hafter, hbroken⟩
            have hstart := (hsofar freed hfreed).startable
            exact ⟨(hsofar freed hfreed).trans (hafter.freed hsound hstart), hbroken⟩
        · rintro after ⟨hfreed, hbroken⟩
          exact ⟨hsofar after hfreed, hbroken⟩
  · rintro after ⟨hkept, hbroken⟩
    exact ⟨hkept.freed hsound hstartable, hbroken⟩

/-- How many clusters hold so many bytes. -/
def clustersOf (layout : Layout) (length : UInt32) : Nat :=
  if length = 0 then 0 else (length.toNat - 1) / layout.clusterBytes + 1

theorem le_clustersOf (layout : Layout) (length : UInt32) :
    length.toNat ≤ clustersOf layout length * layout.clusterBytes := by
  unfold clustersOf
  split
  · next hzero =>
    rw [hzero, Nat.zero_mul]
    exact le_refl 0
  · have hbefore := Nat.lt_div_mul_add layout.clusterBytes_pos (a := length.toNat - 1)
    rw [Nat.add_mul, Nat.one_mul]
    omega

end FatFile

theorem FileAt.cut {table table' : UInt32 → UInt32} (hfile : FileAt layout table chain file)
    {kept rest : List UInt32} (hsplit : chain = kept ++ rest)
    (hlength : kept.length = FatFile.clustersOf layout file.curPosition)
    (hkept : layout.Chained table' kept) :
    FileAt layout table' kept (FatFile.cutTo file.curPosition file) := by
  have hroom := FatFile.le_clustersOf layout file.curPosition
  rw [← hlength] at hroom
  refine ⟨⟨hkept, ?_, hroom, ?_⟩, hfile.type, le_refl _, hroom⟩
  · by_cases hzero : file.curPosition = 0
    · rw [FatFile.clustersOf, if_pos hzero, List.length_eq_zero_iff] at hlength
      rw [hlength]
      exact if_pos hzero
    · refine (if_neg hzero).trans ?_
      rw [hfile.first, hsplit]
      cases kept with
      | nil =>
          rw [FatFile.clustersOf, if_neg hzero] at hlength
          cases hlength
      | cons head tail => rfl
  · refine hfile.cluster.trans ?_
    by_cases hzero : file.curPosition = 0
    · rw [if_pos hzero]
      exact (if_pos hzero).symm
    · rw [FatFile.clustersOf, if_neg hzero] at hlength
      have hin : (file.curPosition.toNat - 1) / layout.clusterBytes < kept.length := by
        omega
      rw [if_neg hzero, hsplit, List.getD_append _ _ _ _ hin]
      exact (if_neg hzero).symm

namespace FatFile

theorem ends_freeAfter (hsound : layout.Sound) (hcoherent : Coherent layout volume)
    (hstartable : Startable layout volume)
    (hfile : FileAt layout (volume.fat layout) chain file) (hsize : file.fileSize ≠ 0)
    {rounds : Nat} (hrounds : chain.length ≤ rounds) :
    Ends (freeAfter io layout rounds file.curPosition) (volume, file)
      (fun done after => done = some () ∧ after.2 = file ∧
        Freed layout chain volume after.1 ∧ ∃ kept rest, chain = kept ++ rest ∧
          kept.length = clustersOf layout file.curPosition ∧
          layout.Chained (after.1.fat layout) kept)
      (fun after => Freed layout chain volume after.1 ∧ Broken io) := by
  have hnat : file.fileSize.toNat ≠ 0 := fun hnat => hsize (UInt32.toNat_inj.mp hnat)
  have hroom := hfile.size
  rw [freeAfter, ends_bind, ends_getFile]
  by_cases hzero : file.curPosition = 0
  · rw [if_pos hzero, ends_onVolume, hfile.first]
    cases chain with
    | nil =>
        rw [List.length_nil, Nat.zero_mul] at hroom
        omega
    | cons head tail =>
        apply (ends_freeChain hsound hcoherent hfile.toChained hrounds).imp
        · rintro done freed ⟨hdone, hfreed, -⟩
          refine ⟨hdone, rfl, hfreed, [], head :: tail, rfl, ?_, .nil layout _⟩
          rw [clustersOf, if_pos hzero]
          rfl
        · exact fun _ hfailed => hfailed
  · have hpos : 0 < file.curPosition.toNat :=
      Nat.pos_of_ne_zero fun hnat => hzero (UInt32.toNat_inj.mp hnat)
    have hin := index_before hpos hfile.reached
    have hcur := hfile.cluster
    rw [if_neg hzero] at hcur
    rw [← hcur] at hin
    obtain ⟨hlt, hget⟩ := List.getElem?_eq_some_iff.mp hin
    obtain ⟨index, hindex⟩ : ∃ index,
        index = (file.curPosition.toNat - 1) / layout.clusterBytes := ⟨_, rfl⟩
    rw [← hindex] at hlt
    have hsplit : chain = chain.take index ++ [file.curCluster] ++ chain.drop (index + 1) := by
      simp only [← hindex] at hget
      rw [← hget, List.append_assoc, List.singleton_append, List.getElem_cons_drop,
        List.take_append_drop]
    have hchain := hfile.toChained
    rw [hsplit] at hchain
    have hdrop : (chain.drop (index + 1)).length ≤ rounds := by
      rw [List.length_drop]
      omega
    rw [if_neg hzero]
    have hmono : ∀ cluster ∈ file.curCluster :: chain.drop (index + 1),
        cluster ∈ chain := by
      intro cluster hcluster
      rw [hsplit, List.append_assoc]
      exact List.mem_append_right _ hcluster
    apply (ends_freeRest hsound hcoherent hstartable hchain rfl hdrop).imp
    · rintro done after ⟨hdone, hsame, hfreed, hkept⟩
      refine ⟨hdone, hsame, hfreed.mono hmono, _, _, hsplit, ?_, hkept⟩
      rw [clustersOf, if_neg hzero, ← hindex, List.length_append, List.length_take,
        List.length_singleton, Nat.min_eq_left (by omega)]
    · rintro after ⟨hfreed, hbroken⟩
      exact ⟨hfreed.mono hmono, hbroken⟩

end FatFile

theorem Held.cut (hheld : Held layout volume chain file)
    (hfreed : Freed layout chain volume after) {kept rest : List UInt32}
    (hsplit : chain = kept ++ rest)
    (hlength : kept.length = FatFile.clustersOf layout file.curPosition)
    (hkept : layout.Chained (after.fat layout) kept) (hsound : layout.Sound) :
    Served layout chain kept
      ((contentOf layout volume chain file.fileSize.toNat).take file.curPosition.toNat)
      (volume, file) (after, FatFile.cutTo file.curPosition file) := by
  have hwithin : Within layout (· ∈ chain) file.entryOf volume after :=
    hfreed.within fun _ hin => hin
  have hfile := hheld.toFileAt.cut hsplit hlength hkept
  have hfresh : ∀ cluster ∈ kept, cluster ∈ chain ∨ volume.fat layout cluster = 0 := by
    intro cluster hin
    rw [hsplit]
    exact .inl (List.mem_append_left _ hin)
  refine ⟨⟨hfile, hheld.plain, ?_, ?_, ?_⟩, ?_, hwithin, hfresh,
    ⟨rfl, rfl, rfl, sameFlags_dirty file.flags⟩⟩
  · intro cluster hcluster hin
    apply hheld.apart cluster hcluster
    rcases hin with hin | hfree
    · exact hfresh cluster hin
    · exact hwithin.free cluster hcluster hfree
  · rw [show (FatFile.cutTo file.curPosition file).dirBlock = file.dirBlock from rfl,
      hfreed.plain file.dirBlock hheld.plain]
    exact hheld.regular
  · exact fun hclean => absurd hclean (or_dirty_ne file.flags)
  · have hposition := hheld.position
    have hsize : (FatFile.cutTo file.curPosition file).fileSize = file.curPosition := rfl
    have hroom := FatFile.le_clustersOf layout file.curPosition
    rw [← hlength] at hroom
    dsimp only
    rw [hsize, contentOf, contentOf, ← List.map_take, List.take_range,
      Nat.min_eq_left hposition]
    apply List.map_congr_left
    intro place hplace
    have hlt := Nat.lt_of_lt_of_le (List.mem_range.mp hplace) hroom
    rw [hsplit, byteOf_append rest hlt]
    exact byteOf_congr (fun cluster hin block hblock => hfreed.plain block
      (hsound.plain_block (hkept.clusters cluster hin) hblock)) hlt

namespace FatFile

theorem ends_truncateEnd (hsound : layout.Sound) (hcoherent : Coherent layout volume)
    (hstartable : Startable layout volume) {length newPos : UInt32}
    (hheld : Held layout volume chain (cutTo length file))
    (hposition : newPos.toNat ≤ length.toNat) :
    Ends (truncateEnd io layout length newPos) (volume, file)
      (fun _ after => Served layout chain chain
          (contentOf layout volume chain length.toNat) (volume, cutTo length file) after ∧
        after.2.curPosition = newPos)
      (fun after => Within layout (· ∈ chain) file.entryOf volume after.1 ∧
        Broken io) := by
  have hopen : ¬ (cutTo length file).type = .closed := by
    rw [hheld.type]
    exact nofun
  have hsynced : Ends (sync io) (volume, cutTo length file) _
      (fun after => Within layout (· ∈ chain) file.entryOf volume after.1 ∧ Broken io) :=
    ends_sync hsound hcoherent hstartable hheld.plain hopen
  rw [truncateEnd, ends_bind, ends_modifyFile]
  apply hsynced.bind
  · rintro - ⟨synced, file'⟩ hafter
    obtain ⟨hserved, hcleared⟩ := hheld.synced hsound hstartable hafter
    have hheld' : Held layout synced chain file' := hserved.held
    have hwithin : Within layout (· ∈ chain) file.entryOf volume synced := hserved.within
    have hsize : file'.fileSize = length := by
      have hhandle : file' = _ := hafter.handle
      rw [hhandle]
      rfl
    apply (ends_seekSet hsound hwithin.coherent hheld'.toFileAt (hsize.symm ▸ hposition)).imp
    · rintro - ⟨sought, file''⟩ ⟨hkept, hmoved, hfile⟩
      have hsought := hheld'.moved hsound hwithin.startable hkept hmoved hfile
      have hcontent : contentOf layout synced chain file'.fileSize.toNat =
          contentOf layout volume chain length.toNat := hserved.content
      have hposition' : file''.curPosition = newPos := by
        dsimp only at hmoved
        rw [hmoved]
      rw [hcontent] at hsought
      exact ⟨hserved.trans hsought, hposition'⟩
    · rintro after ⟨hkept, hbroken⟩
      exact ⟨hwithin.kept hsound hkept, hbroken⟩
  · exact fun _ hfailed => hfailed

/-- `truncate` keeps the first bytes of the file. -/
theorem ends_truncate (hsound : layout.Sound) (hcoherent : Coherent layout volume)
    (hstartable : Startable layout volume) (hheld : Held layout volume chain file)
    (hflags : file.flags &&& oWrite ≠ 0) {length : UInt32}
    (hlength : length.toNat ≤ file.fileSize.toNat) {rounds : Nat}
    (hrounds : chain.length ≤ rounds) :
    Ends (truncate io layout rounds length) (volume, file)
      (fun done after => done = some () ∧ ∃ kept, Served layout chain kept
          ((contentOf layout volume chain file.fileSize.toNat).take length.toNat)
          (volume, file) after ∧
        after.2.curPosition.toNat = min file.curPosition.toNat length.toNat)
      (fun after => Within layout (· ∈ chain) file.entryOf volume after.1 ∧
        Broken io) := by
  have hopen : ¬ (file.type ≠ .normal ∨ file.flags &&& oWrite = 0) := by
    rintro (htype | hnone)
    · exact htype hheld.type
    · exact hflags hnone
  have hpast : ¬ length > file.fileSize := by
    rw [gt_iff_lt, UInt32.lt_iff_toNat_lt]
    omega
  rw [truncate, ends_bind, ends_getFile, if_neg hopen, if_neg hpast]
  by_cases hsize : file.fileSize = 0
  · have hposition := hheld.position
    have hcontent : contentOf layout volume chain file.fileSize.toNat = [] := by
      rw [hsize]
      rfl
    have hserved := hheld.unmoved hsound hcoherent hstartable
    rw [if_pos hsize, ends_pure]
    refine ⟨rfl, chain, ?_, ?_⟩
    · rw [hcontent, List.take_nil, ← hcontent]
      exact hserved
    · rw [hsize, UInt32.toNat_zero] at hposition hlength
      dsimp only
      omega
  · rw [if_neg hsize]
    apply (ends_seekSet hsound hcoherent hheld.toFileAt hlength).bind
    · rintro - ⟨sought, file'⟩ ⟨hkept, hmoved, hfile⟩
      have hsought := hheld.moved hsound hstartable hkept hmoved hfile
      dsimp only at hkept hmoved hfile
      have hheld' : Held layout sought chain file' := hsought.held
      have hposition' : file'.curPosition = length := by rw [hmoved]
      have hsize' : file'.fileSize = file.fileSize := by rw [hmoved]
      have hcontent : contentOf layout sought chain file'.fileSize.toNat =
          contentOf layout volume chain file.fileSize.toNat := hsought.content
      have hwithin : Within layout (· ∈ chain) file.entryOf volume sought := hsought.within
      have hentry : file'.entryOf = file.entryOf := hsought.same.entryOf
      have hfreed : Ends (freeAfter io layout rounds length) (sought, file') _ _ :=
        hposition' ▸ ends_freeAfter hsound hwithin.coherent hwithin.startable hfile
          (hsize'.symm ▸ hsize) hrounds
      apply hfreed.bind
      · rintro done ⟨freed, file''⟩ ⟨rfl, hfile'', hstage, kept, rest, hsplit, hcount, hchain⟩
        dsimp only at hfile'' hstage hcount hchain
        subst hfile''
        have hcut := hheld'.cut hstage hsplit (hposition'.symm ▸ hcount) hchain hsound
        rw [hcontent, hposition'] at hcut
        have hsofar := hsought.trans hcut
        have hheld'' : Held layout freed kept (cutTo length file'') := hsofar.held
        have hwithin' : Within layout (· ∈ chain) file.entryOf volume freed := hsofar.within
        have hnewPos : (if file.curPosition > length then length
            else file.curPosition).toNat = min file.curPosition.toNat length.toNat := by
          by_cases hless : length < file.curPosition
          · have hlt := UInt32.lt_iff_toNat_lt.mp hless
            rw [if_pos hless, Nat.min_eq_right hlt.le]
          · have hle := Nat.le_of_not_lt (mt UInt32.lt_iff_toNat_lt.mpr hless)
            rw [if_neg hless, Nat.min_eq_left hle]
        have hend : Ends (truncateEnd io layout length (if file.curPosition > length then
            length else file.curPosition)) (freed, file'') _ _ :=
          ends_truncateEnd hsound hwithin'.coherent hwithin'.startable hheld''
            (hnewPos.le.trans (Nat.min_le_right _ _))
        apply hend.bind
        · rintro - ended ⟨hserved, hposition⟩
          have hcontent' : contentOf layout freed kept length.toNat = _ := hsofar.content
          rw [hcontent'] at hserved
          rw [ends_pure]
          refine ⟨rfl, kept, hsofar.trans hserved, ?_⟩
          rw [hposition, hnewPos]
        · rintro after ⟨hfailed, hbroken⟩
          rw [hentry] at hfailed
          exact ⟨hwithin'.trans hfailed hsofar.fresh, hbroken⟩
      · rintro after ⟨hstage, hbroken⟩
        have hfailed : Within layout (· ∈ chain) file.entryOf sought after.1 :=
          hstage.within fun _ hin => hin
        exact ⟨hwithin.trans hfailed fun _ hin => .inl hin, hbroken⟩
    · rintro after ⟨hkept, hbroken⟩
      exact ⟨hkept.within hsound hstartable, hbroken⟩

end FatFile

end SenseBox.SD
