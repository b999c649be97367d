import SenseBox.SD.Clusters

namespace SenseBox.SD

open SenseBox.Data
open SdVolume

/-! An open file and its chain of clusters: seeking and reading. -/

/-- What the handle says of a chain: its first cluster, and the cluster of the byte
before the position. -/
structure OnChain (layout : Layout) (table : UInt32 → UInt32) (chain : List UInt32)
    (file : FatFile) : Prop extends layout.Chained table chain where
  first : file.firstCluster = chain.headD 0
  reached : file.curPosition.toNat ≤ chain.length * layout.clusterBytes
  cluster : file.curCluster =
    if file.curPosition = 0 then 0
    else chain.getD ((file.curPosition.toNat - 1) / layout.clusterBytes) 0

/-- An open file, with the chain that holds its bytes. -/
structure FileAt (layout : Layout) (table : UInt32 → UInt32) (chain : List UInt32)
    (file : FatFile) : Prop extends OnChain layout table chain file where
  type : file.type = .normal
  position : file.curPosition.toNat ≤ file.fileSize.toNat
  size : file.fileSize.toNat ≤ chain.length * layout.clusterBytes

def FatFile.located (layout : Layout) (chain : List UInt32) (file : FatFile) : FatFile :=
  FatFile.setCluster (chain.getD (file.curPosition.toNat / layout.clusterBytes) 0) file

section Programs

variable {Value : Type} {opened : FatFile.Opened} {failed : FatFile.Opened → Prop}

theorem ends_onVolume {program : Failing SdVolume Value}
    {returned : Value → FatFile.Opened → Prop} :
    Ends (FatFile.onVolume program) opened returned failed ↔
      Ends program opened.1 (fun value volume => returned value (volume, opened.2))
        (fun volume => failed (volume, opened.2)) := ends_onPart

theorem ends_getFile {returned : FatFile → FatFile.Opened → Prop} :
    Ends FatFile.getFile opened returned failed ↔ returned opened.2 opened := Iff.rfl

theorem ends_modifyFile {change : FatFile → FatFile}
    {returned : Unit → FatFile.Opened → Prop} :
    Ends (FatFile.modifyFile change) opened returned failed ↔
      returned () (opened.1, change opened.2) := Iff.rfl

end Programs

variable {layout : Layout} {io : Accesses} {table : UInt32 → UInt32}
  {chain : List UInt32} {file : FatFile}

theorem Layout.headD_eq (chain : List UInt32) : chain.headD 0 = chain.getD 0 0 := by
  cases chain <;> rfl

/-- Bytes up to the end of the block are in the chain with the first of them. -/
theorem Layout.block_le {place n : Nat}
    (hplace : place < chain.length * layout.clusterBytes)
    (hblock : place % 512 + n ≤ 512) :
    place + n ≤ chain.length * layout.clusterBytes := by
  have hsplit := Nat.div_add_mod place 512
  have hbytes : chain.length * layout.clusterBytes =
      512 * (chain.length * 2 ^ layout.clusterSizeShift.toNat) := by
    rw [Layout.clusterBytes, Nat.mul_left_comm]
  rw [hbytes] at hplace ⊢
  omega

/-- The handle has come to the cluster of its position, and goes on in the block. -/
theorem OnChain.advance (hchain : OnChain layout table chain file)
    (hplace : file.curPosition.toNat < chain.length * layout.clusterBytes) {n : Nat}
    (hn : 0 < n) (hblock : file.curPosition.toNat % 512 + n ≤ 512)
    (hfit : file.curPosition.toNat + n < 2 ^ 32) :
    OnChain layout table chain (FatFile.advance n (FatFile.located layout chain file)) ∧
    (file.curPosition + UInt32.ofNat n).toNat = file.curPosition.toNat + n := by
  have hnat : (file.curPosition + UInt32.ofNat n).toNat =
      file.curPosition.toNat + n := by
    rw [UInt32.toNat_add, UInt32.toNat_ofNat',
      Nat.mod_eq_of_lt (by omega : n < 2 ^ 32), Nat.mod_eq_of_lt hfit]
  have hsame : (file.curPosition.toNat + n - 1) / layout.clusterBytes =
      file.curPosition.toNat / layout.clusterBytes := by
    have hsplit := Nat.div_add_mod file.curPosition.toNat 512
    have hin : (file.curPosition.toNat + n - 1) / 512 = file.curPosition.toNat / 512 := by
      omega
    rw [Layout.div_clusterBytes, Layout.div_clusterBytes, hin]
  refine ⟨⟨hchain.toChained, hchain.first, ?_, ?_⟩, hnat⟩
  · exact hnat.le.trans (Layout.block_le hplace hblock)
  · have hpast : ¬ file.curPosition + UInt32.ofNat n = 0 := by
      intro hzero
      rw [hzero, UInt32.toNat_zero] at hnat
      omega
    refine Eq.symm ((if_neg hpast).trans ?_)
    change chain.getD (((file.curPosition + UInt32.ofNat n).toNat - 1) /
      layout.clusterBytes) 0 = _
    rw [hnat, hsame]
    rfl

/-- The cluster that comes next is where the position is. -/
theorem OnChain.cluster_within (hchain : OnChain layout table chain file)
    (hstart : ¬ file.curPosition.toNat % layout.clusterBytes = 0) :
    file.curCluster = chain.getD (file.curPosition.toNat / layout.clusterBytes) 0 := by
  have hpos := layout.clusterBytes_pos
  have hzero : ¬ file.curPosition = 0 := by
    intro hzero
    rw [hzero, UInt32.toNat_zero] at hstart
    exact hstart (Nat.zero_mod _)
  have hsplit := Nat.div_add_mod file.curPosition.toNat layout.clusterBytes
  have hmod := Nat.mod_lt file.curPosition.toNat hpos
  have hbefore : (file.curPosition.toNat - 1) / layout.clusterBytes =
      file.curPosition.toNat / layout.clusterBytes := by
    apply Nat.div_eq_of_lt_le
    · rw [Nat.mul_comm]
      omega
    · rw [Nat.add_mul, Nat.one_mul, Nat.mul_comm]
      omega
  rw [hchain.cluster, if_neg hzero, hbefore]

/-- At the start of a cluster the handle holds the one before it. -/
theorem OnChain.cluster_before (hchain : OnChain layout table chain file)
    (hstart : file.curPosition.toNat % layout.clusterBytes = 0)
    (hzero : ¬ file.curPosition = 0) :
    ∃ index, file.curPosition.toNat / layout.clusterBytes = index + 1 ∧
      chain[index]? = some file.curCluster := by
  have hpos := layout.clusterBytes_pos
  have hsplit := Nat.div_add_mod file.curPosition.toNat layout.clusterBytes
  have hreached := hchain.reached
  have hnat : file.curPosition.toNat ≠ 0 := fun hnat =>
    hzero (UInt32.toNat_inj.mp hnat)
  obtain ⟨index, hindex⟩ : ∃ index,
      file.curPosition.toNat / layout.clusterBytes = index + 1 := by
    apply Nat.exists_eq_succ_of_ne_zero
    intro hdiv
    rw [hdiv, Nat.mul_zero] at hsplit
    omega
  rw [hindex] at hsplit
  have hbefore : (file.curPosition.toNat - 1) / layout.clusterBytes = index := by
    apply Nat.div_eq_of_lt_le
    · rw [Nat.mul_comm]
      rw [Nat.mul_add] at hsplit
      omega
    · rw [Nat.mul_comm]
      omega
  have hlt : index < chain.length := by
    by_contra hge
    have hmul := Nat.mul_le_mul_right layout.clusterBytes (Nat.not_lt.mp hge)
    rw [Nat.mul_add, Nat.mul_comm] at hsplit
    omega
  refine ⟨index, hindex, ?_⟩
  rw [hchain.cluster, if_neg hzero, hbefore, List.getD_eq_getElem _ _ hlt]
  exact List.getElem?_eq_getElem hlt

theorem Layout.Chained.fat_next (hchain : layout.Chained table chain) {index : Nat}
    {cluster next : UInt32} (hcluster : chain[index]? = some cluster)
    (hnext : chain[index + 1]? = some next) :
    table cluster = next ∧ ¬ layout.isEOC (table cluster) = true := by
  have hlink := hchain.linked.next_eq hcluster
  rw [hnext, Layout.links] at hlink
  split at hlink
  · cases hlink
  · next hnot => exact ⟨Option.some.inj hlink, hnot⟩

theorem Layout.Chained.fat_last (hchain : layout.Chained table chain) {index : Nat}
    {cluster : UInt32} (hcluster : chain[index]? = some cluster)
    (hnext : chain[index + 1]? = none) : layout.isEOC (table cluster) = true := by
  have hlink := hchain.linked.next_eq hcluster
  rw [hnext, Layout.links] at hlink
  split at hlink
  · next heoc => exact heoc
  · cases hlink

theorem Layout.Chained.cluster_get (hchain : layout.Chained table chain) {index : Nat}
    {cluster : UInt32} (hcluster : chain[index]? = some cluster) :
    layout.Cluster cluster :=
  hchain.clusters cluster (List.mem_of_getElem? hcluster)

namespace FatFile

theorem ends_followChain (hsound : layout.Sound) {left : Nat} {volume : SdVolume}
    (hcoherent : Coherent layout volume)
    (hchain : layout.Chained (volume.fat layout) chain) {index : Nat} {target : UInt32}
    (hcur : chain[index]? = some file.curCluster)
    (htarget : chain[index + left]? = some target) :
    Ends (followChain io layout left) (volume, file)
      (fun _ after => Kept layout volume after.1 ∧ after.2 = setCluster target file)
      (fun after => Kept layout volume after.1 ∧ Broken io) := by
  induction left generalizing volume file index with
  | zero =>
      rw [Nat.add_zero, hcur] at htarget
      rw [followChain, ends_pure]
      exact ⟨⟨hcoherent, .refl _⟩, by rw [setCluster, ← Option.some.inj htarget]⟩
  | succ left ih =>
      obtain ⟨next, hnext⟩ : ∃ next, chain[index + 1]? = some next := by
        have hlt := (List.getElem?_eq_some_iff.mp htarget).1
        exact ⟨_, List.getElem?_eq_getElem (by omega)⟩
      have hfat := (hchain.fat_next hcur hnext).1
      rw [followChain, ends_bind, ends_getFile, ends_bind, ends_onVolume]
      apply (ends_fatGet hsound hcoherent (hchain.cluster_get hcur).2).imp
      · rintro cluster got ⟨rfl, hkept⟩
        rw [ends_bind, ends_modifyFile, hfat]
        have hchain' : layout.Chained (got.fat layout) chain := by
          rw [hkept.same.fat hsound]
          exact hchain
        rw [← Nat.add_assoc, Nat.add_right_comm] at htarget
        apply (ih hkept.coherent hchain' hnext htarget).imp
        · rintro - after ⟨hafter, hfile⟩
          exact ⟨hkept.trans hafter, hfile⟩
        · rintro after ⟨hafter, hbroken⟩
          exact ⟨hkept.trans hafter, hbroken⟩
      · exact fun _ hfailed => hfailed

theorem toNat_clusterIndex (hsound : layout.Sound) {position : UInt32}
    (hpos : position ≠ 0) :
    (clusterIndex layout position).toNat =
      (position.toNat - 1) / layout.clusterBytes := by
  have hshift := hsound.shift
  have hone : (1 : UInt32) ≤ position := by
    rw [UInt32.le_iff_toNat_le, UInt32.toNat_one]
    exact Nat.pos_of_ne_zero fun hnat => hpos (UInt32.toNat_inj.mp hnat)
  have hnine : (layout.clusterSizeShift.toUInt32 + 9).toNat =
      layout.clusterSizeShift.toNat + 9 := by
    have hvalue : (9 : UInt32).toNat = 9 := rfl
    rw [UInt32.toNat_add, UInt8.toNat_toUInt32, hvalue]
    exact Nat.mod_eq_of_lt (by omega)
  rw [clusterIndex, UInt32.toNat_shiftRight, hnine, UInt32.toNat_sub_of_le _ _ hone,
    Nat.mod_eq_of_lt (by omega : layout.clusterSizeShift.toNat + 9 < 32),
    Nat.shiftRight_eq_div_pow, pow_add, Layout.clusterBytes, Nat.mul_comm]
  rfl

/-- The cluster of the byte before a place is in the chain. -/
theorem index_before {place : Nat} (hpos : 0 < place)
    (hplace : place ≤ chain.length * layout.clusterBytes) :
    chain[(place - 1) / layout.clusterBytes]? =
      some (chain.getD ((place - 1) / layout.clusterBytes) 0) := by
  have hlt : (place - 1) / layout.clusterBytes < chain.length :=
    Layout.index_lt (by omega)
  rw [List.getD_eq_getElem _ _ hlt]
  exact List.getElem?_eq_getElem hlt

def Moved (pos : UInt32) (before after : FatFile) : Prop :=
  after = { before with curPosition := pos, curCluster := after.curCluster }

theorem Moved.trans {pos pos' : UInt32} {first second third : FatFile}
    (hfirst : Moved pos first second) (hsecond : Moved pos' second third) :
    Moved pos' first third := by
  refine Eq.trans hsecond ?_
  rw [hfirst]

end FatFile

theorem FileAt.moved (hfile : FileAt layout table chain file) {pos : UInt32}
    (hpos : pos.toNat ≤ file.fileSize.toNat) (hzero : ¬ pos = 0) :
    FileAt layout table chain (FatFile.setPosition pos (FatFile.setCluster
      (chain.getD ((pos.toNat - 1) / layout.clusterBytes) 0) file)) where
  toChained := hfile.toChained
  first := hfile.first
  reached := hpos.trans hfile.size
  cluster := (if_neg hzero).symm
  type := hfile.type
  position := hpos
  size := hfile.size

theorem FileAt.rewound (hfile : FileAt layout table chain file) :
    FileAt layout table chain
      (FatFile.setPosition 0 (FatFile.setCluster 0 file)) where
  toChained := hfile.toChained
  first := hfile.first
  reached := Nat.zero_le _
  cluster := rfl
  type := hfile.type
  position := Nat.zero_le _
  size := hfile.size

namespace FatFile

theorem ends_seekSet (hsound : layout.Sound) {volume : SdVolume}
    (hcoherent : Coherent layout volume)
    (hfile : FileAt layout (volume.fat layout) chain file) {pos : UInt32}
    (hpos : pos.toNat ≤ file.fileSize.toNat) :
    Ends (seekSet io layout pos) (volume, file)
      (fun _ after => Kept layout volume after.1 ∧ Moved pos file after.2 ∧
        FileAt layout (after.1.fat layout) chain after.2)
      (fun after => Kept layout volume after.1 ∧ Broken io) := by
  have hopen : ¬ (file.type = .closed ∨ pos > file.fileSize) := by
    rw [hfile.type, gt_iff_lt, UInt32.lt_iff_toNat_lt]
    rintro (hclosed | hpast)
    · cases hclosed
    · omega
  have hnormal : ¬ file.type = .root16 := by
    rw [hfile.type]
    exact nofun
  rw [seekSet, ends_bind, ends_getFile, if_neg hopen, if_neg hnormal]
  by_cases hzero : pos = 0
  · rw [if_pos hzero, ends_bind, ends_modifyFile, ends_modifyFile, hzero]
    exact ⟨⟨hcoherent, .refl _⟩, rfl, hfile.rewound⟩
  · have hnonzero : 0 < pos.toNat :=
      Nat.pos_of_ne_zero fun hnat => hzero (UInt32.toNat_inj.mp hnat)
    have htarget := index_before hnonzero (hpos.trans hfile.size)
    have hlength : 0 < chain.length :=
      Nat.lt_of_le_of_lt (Nat.zero_le _) (List.getElem?_eq_some_iff.mp htarget).1
    have hfirst : chain[0]? = some file.firstCluster := by
      rw [hfile.first, Layout.headD_eq, List.getD_eq_getElem _ _ hlength]
      exact List.getElem?_eq_getElem hlength
    have hnew := toNat_clusterIndex hsound hzero
    have hdone : ∀ after : Opened, Kept layout volume after.1 →
        after.2 = setCluster
          (chain.getD ((pos.toNat - 1) / layout.clusterBytes) 0) file →
        Kept layout volume after.1 ∧ Moved pos file (setPosition pos after.2) ∧
          FileAt layout (after.1.fat layout) chain (setPosition pos after.2) := by
      intro after hkept hafter
      rw [hafter, hkept.same.fat hsound]
      exact ⟨hkept, rfl, hfile.moved hpos hzero⟩
    rw [if_neg hzero]
    by_cases hback : clusterIndex layout pos < clusterIndex layout file.curPosition ∨
        file.curPosition = 0
    · -- from the first cluster of the chain
      rw [if_pos hback, ends_bind, ends_modifyFile]
      rw [← hnew, ← Nat.zero_add (clusterIndex layout pos).toNat] at htarget
      apply (ends_followChain hsound hcoherent hfile.toChained hfirst htarget).bind
      · rintro - after ⟨hkept, hafter⟩
        rw [Nat.zero_add, hnew] at hafter
        exact hdone after hkept hafter
      · exact fun _ hfailed => hfailed
    · -- from the cluster of the old position
      obtain ⟨hless, hcur⟩ := not_or.mp hback
      have hold := toNat_clusterIndex hsound hcur
      have hle := Nat.le_of_not_lt (mt UInt32.lt_iff_toNat_lt.mpr hless)
      have hsub := UInt32.toNat_sub_of_le _ _ (UInt32.le_iff_toNat_le.mpr hle)
      have hstart : chain[(file.curPosition.toNat - 1) / layout.clusterBytes]? =
          some file.curCluster := by
        rw [hfile.cluster, if_neg hcur]
        exact index_before (Nat.pos_of_ne_zero fun hnat => hcur (UInt32.toNat_inj.mp hnat))
          hfile.reached
      have hindex : (pos.toNat - 1) / layout.clusterBytes =
          (file.curPosition.toNat - 1) / layout.clusterBytes +
            (clusterIndex layout pos - clusterIndex layout file.curPosition).toNat := by
        omega
      rw [hindex] at htarget
      rw [if_neg hback]
      apply (ends_followChain hsound hcoherent hfile.toChained hstart htarget).bind
      · rintro - after ⟨hkept, hafter⟩
        rw [← hindex] at hafter
        exact hdone after hkept hafter
      · exact fun _ hfailed => hfailed

/-! Reading. -/

theorem ends_readLocate (hsound : layout.Sound) {volume : SdVolume}
    (hcoherent : Coherent layout volume)
    (hchain : OnChain layout (volume.fat layout) chain file)
    (htype : ¬ file.type = .root16)
    (hplace : file.curPosition.toNat < chain.length * layout.clusterBytes) :
    Ends (readLocate io layout) (volume, file)
      (fun block after => block = layout.blockAt chain file.curPosition.toNat ∧
        Kept layout volume after.1 ∧ after.2 = located layout chain file)
      (fun after => Kept layout volume after.1 ∧ Broken io ∧ after.2 = file) := by
  have hblock : ∀ cluster, cluster =
      chain.getD (file.curPosition.toNat / layout.clusterBytes) 0 →
      layout.clusterStartBlock cluster +
          (layout.blockOfCluster file.curPosition).toUInt32 =
        layout.blockAt chain file.curPosition.toNat := by
    rintro cluster rfl
    rw [hsound.toUInt32_blockOfCluster, Layout.blockAt]
  have hlt := Layout.index_lt hplace
  rw [readLocate, ends_bind, ends_getFile, if_neg htype]
  by_cases hstart : file.curPosition.toNat % layout.clusterBytes = 0
  · rw [if_pos (And.comm.mp ((start_iff hsound file).mpr hstart))]
    by_cases hzero : file.curPosition = 0
    · have hfirst : file.firstCluster =
          chain.getD (file.curPosition.toNat / layout.clusterBytes) 0 := by
        rw [hchain.first, Layout.headD_eq, hzero, UInt32.toNat_zero, Nat.zero_div]
      rw [if_pos hzero, ends_bind, ends_modifyFile, ends_bind, ends_getFile, ends_pure,
        hfirst]
      exact ⟨hblock _ rfl, ⟨hcoherent, .refl _⟩, rfl⟩
    · obtain ⟨index, hindex, hcur⟩ := hchain.cluster_before hstart hzero
      have hnext : chain[index + 1]? =
          some (chain.getD (file.curPosition.toNat / layout.clusterBytes) 0) := by
        rw [← hindex, List.getD_eq_getElem _ _ hlt]
        exact List.getElem?_eq_getElem hlt
      have hfat := (hchain.fat_next hcur hnext).1
      rw [if_neg hzero, ends_bind, ends_onVolume]
      apply (ends_fatGet hsound hcoherent (hchain.cluster_get hcur).2).imp
      · rintro cluster got ⟨rfl, hkept⟩
        rw [ends_bind, ends_modifyFile, ends_bind, ends_getFile, ends_pure, hfat]
        exact ⟨hblock _ rfl, hkept, rfl⟩
      · exact fun _ hfailed => ⟨hfailed.1, hfailed.2, rfl⟩
  · have hwithin := hchain.cluster_within hstart
    rw [if_neg (fun hboth => hstart ((start_iff hsound file).mp (And.comm.mp hboth))),
      ends_bind, ends_getFile, ends_pure]
    refine ⟨hblock _ hwithin, ⟨hcoherent, .refl _⟩, ?_⟩
    rw [located, ← hwithin]
    rfl

theorem bytesAt_blockAt {volume : SdVolume} {place n : Nat}
    (hblock : place % 512 + n ≤ 512) :
    bytesAt (volume.memory (layout.blockAt chain place)) (place % 512) n =
      (List.range n).map fun index => byteOf layout volume chain (place + index) := by
  apply List.map_congr_left
  intro index hindex
  have hlt := List.mem_range.mp hindex
  have hsplit := Nat.div_add_mod place 512
  have hdiv : (place + index) / 512 = place / 512 := by omega
  have hmod : (place + index) % 512 = place % 512 + index := by omega
  rw [byteOf, Layout.blockAt_congr hdiv, hmod]

end FatFile

theorem SdVolume.Kept.byteOf (hsound : layout.Sound) {volume after : SdVolume}
    (hkept : Kept layout volume after) (hchain : layout.Chained table chain)
    {place : Nat} (hplace : place < chain.length * layout.clusterBytes) :
    byteOf layout after chain place = byteOf layout volume chain place :=
  byteOf_congr (fun _ hcluster _ hin => hkept.same.memory _
    (hsound.plain_block (hchain.clusters _ hcluster) hin).1) hplace

namespace FatFile

theorem ends_readLoop (hsound : layout.Sound) {volume : SdVolume}
    (hcoherent : Coherent layout volume)
    (hchain : OnChain layout (volume.fat layout) chain file)
    (htype : ¬ file.type = .root16) {toRead : Nat}
    (hroom : file.curPosition.toNat + toRead ≤ chain.length * layout.clusterBytes)
    (hfit : file.curPosition.toNat + toRead < 2 ^ 32) :
    Ends (readLoop io layout toRead) (volume, file)
      (fun bytes after =>
        bytes = (List.range toRead).map (fun index =>
          byteOf layout volume chain (file.curPosition.toNat + index)) ∧
        Kept layout volume after.1 ∧
        Moved (file.curPosition + UInt32.ofNat toRead) file after.2 ∧
        OnChain layout (after.1.fat layout) chain after.2)
      (fun after => Kept layout volume after.1 ∧ Broken io) := by
  induction toRead using Nat.strong_induction_on generalizing volume file with
  | _ toRead ih =>
    rw [readLoop]
    by_cases hdone : toRead = 0
    · rw [if_pos hdone, ends_pure, hdone]
      refine ⟨rfl, ⟨hcoherent, .refl _⟩, ?_, hchain⟩
      exact congrArg (fun position => { file with curPosition := position })
        (UInt32.add_zero file.curPosition).symm
    · have hoffset := blockOffset_eq file
      have hlt := blockOffset_lt file
      have hplace : file.curPosition.toNat < chain.length * layout.clusterBytes := by omega
      obtain ⟨n, hn⟩ : ∃ n, n = min toRead (512 - file.blockOffset) := ⟨_, rfl⟩
      have hblock : file.curPosition.toNat % 512 + n ≤ 512 := by omega
      rw [if_neg hdone, ends_bind, ends_getFile]
      apply (ends_readLocate hsound hcoherent hchain htype hplace).bind
      · rintro block ⟨reached, file'⟩ ⟨rfl, hlocated, rfl⟩
        dsimp only at hlocated ⊢
        obtain ⟨hmem, hin⟩ := Layout.blockAt_in hplace
        have hlogical := (hsound.plain_block (hchain.clusters _ hmem) hin).1
        rw [← hn, ends_bind, ends_onVolume]
        apply (ends_readPart hsound hlocated.coherent hlogical _ _ n).imp
        · rintro bytes got ⟨rfl, hgot⟩
          have hkept := hlocated.trans hgot
          obtain ⟨hadvanced, hnat⟩ := hchain.advance hplace (by omega) hblock (by omega)
          rw [← hkept.same.fat hsound] at hadvanced
          rw [ends_bind, ends_modifyFile]
          have hposition : (advance n (located layout chain file)).curPosition.toNat =
              file.curPosition.toNat + n := hnat
          apply (ih (toRead - n) (by omega) hkept.coherent hadvanced htype
            (by omega) (by omega)).bind
          · rintro rest after ⟨hrest, hafter, hmoved, hchain'⟩
            rw [ends_pure]
            have hsplit : toRead = n + (toRead - n) := by omega
            refine ⟨?_, hkept.trans hafter, ?_, hchain'⟩
            · rw [hrest, hposition, hoffset, bytesAt_blockAt hblock]
              conv => rhs; rw [hsplit, List.range_add, List.map_append, List.map_map]
              congr 1
              · apply List.map_congr_left
                intro index hindex
                have hlt := List.mem_range.mp hindex
                exact hlocated.byteOf hsound hchain.toChained (by omega)
              · apply List.map_congr_left
                intro index hindex
                have hlt := List.mem_range.mp hindex
                rw [hkept.byteOf hsound hchain.toChained (by omega), Function.comp_apply,
                  Nat.add_assoc]
            · have hsum : (advance n (located layout chain file)).curPosition +
                  UInt32.ofNat (toRead - n) = file.curPosition + UInt32.ofNat toRead := by
                conv => rhs; rw [hsplit, UInt32.ofNat_add, ← UInt32.add_assoc]
                rfl
              rw [hsum] at hmoved
              have hfirst : Moved (file.curPosition + UInt32.ofNat n) file
                  (advance n (located layout chain file)) := rfl
              exact hfirst.trans hmoved
          · rintro after ⟨hafter, hbroken⟩
            exact ⟨hkept.trans hafter, hbroken⟩
        · rintro after ⟨hafter, hbroken⟩
          exact ⟨hlocated.trans hafter, hbroken⟩
      · exact fun _ hfailed => ⟨hfailed.1, hfailed.2.1⟩

end FatFile

def SdVolume.contentOf (layout : Layout) (volume : SdVolume) (chain : List UInt32)
    (size : Nat) : List UInt8 :=
  (List.range size).map (byteOf layout volume chain)

@[simp] theorem SdVolume.length_contentOf {volume : SdVolume} {size : Nat} :
    (contentOf layout volume chain size).length = size := by
  rw [contentOf, List.length_map, List.length_range]

theorem SdVolume.contentOf_part {volume : SdVolume} {size start n count : Nat}
    (hcount : count = min n (size - start)) :
    (List.range count).map (fun index => byteOf layout volume chain (start + index)) =
      ((contentOf layout volume chain size).drop start).take n := by
  apply List.ext_getElem
  · rw [List.length_map, List.length_range, List.length_take, List.length_drop,
      length_contentOf, hcount]
  · intro index hleft hright
    simp only [contentOf, List.getElem_map, List.getElem_range, List.getElem_take,
      List.getElem_drop]

namespace FatFile

/-- `read` returns the bytes from the position on, as many as wanted or as there are. -/
theorem ends_read (hsound : layout.Sound) {volume : SdVolume}
    (hcoherent : Coherent layout volume)
    (hfile : FileAt layout (volume.fat layout) chain file)
    (hflags : file.flags &&& oRead ≠ 0) (nbyte : UInt16) :
    Ends (read io layout nbyte) (volume, file)
      (fun bytes after =>
        bytes = ((contentOf layout volume chain file.fileSize.toNat).drop
          file.curPosition.toNat).take nbyte.toNat ∧
        Kept layout volume after.1 ∧
        Moved (file.curPosition + UInt32.ofNat bytes.length) file after.2 ∧
        FileAt layout (after.1.fat layout) chain after.2)
      (fun after => Kept layout volume after.1 ∧ Broken io) := by
  have hopen : ¬ (file.type = .closed ∨ file.flags &&& oRead = 0) := by
    rw [hfile.type]
    rintro (hclosed | hnone)
    · cases hclosed
    · exact hflags hnone
  have hnormal : ¬ file.type = .root16 := by
    rw [hfile.type]
    exact nofun
  have hleft : (file.fileSize - file.curPosition).toNat =
      file.fileSize.toNat - file.curPosition.toNat :=
    UInt32.toNat_sub_of_le _ _ (UInt32.le_iff_toNat_le.mpr hfile.position)
  have hposition := hfile.position
  have hsize := hfile.size
  have hlt := file.fileSize.toNat_lt
  rw [read, ends_bind, ends_getFile, if_neg hopen, hleft]
  apply (ends_readLoop hsound hcoherent hfile.toOnChain hnormal (by omega) (by omega)).imp
  · rintro bytes after ⟨rfl, hkept, hmoved, hchain⟩
    refine ⟨contentOf_part rfl, hkept, ?_, ⟨hchain, ?_, ?_, ?_⟩⟩
    · rwa [List.length_map, List.length_range]
    · rw [hmoved]
      exact hfile.type
    · rw [hmoved]
      dsimp only
      rw [UInt32.toNat_add, UInt32.toNat_ofNat']
      have hmod := Nat.mod_le (file.curPosition.toNat + min nbyte.toNat
        (file.fileSize.toNat - file.curPosition.toNat) % 2 ^ 32) (2 ^ 32)
      have hmod' := Nat.mod_le (min nbyte.toNat
        (file.fileSize.toNat - file.curPosition.toNat)) (2 ^ 32)
      omega
    · rw [hmoved]
      exact hsize
  · exact fun _ hfailed => hfailed

end FatFile

end SenseBox.SD
