import SenseBox.SD.Fat
import SenseBox.Data.Linked
import Mathlib.Order.Interval.Finset.Nat

namespace SenseBox.SD

open SenseBox.Data

/-! Free clusters: their search, and the chains that they are linked to. -/

namespace Layout

structure FreeGroup (layout : Layout) (table : UInt32 → UInt32)
    (count bgnCluster endCluster : UInt32) : Prop where
  bgn : 2 ≤ bgnCluster.toNat
  order : bgnCluster.toNat ≤ endCluster.toNat
  last : endCluster.toNat ≤ layout.clusterCount.toNat + 1
  count : endCluster.toNat - bgnCluster.toNat + 1 = count.toNat
  free : ∀ cluster : UInt32, bgnCluster.toNat ≤ cluster.toNat →
    cluster.toNat ≤ endCluster.toNat → table cluster = 0

/-- The clusters up to the one that the search comes to next are free. -/
structure Searching (layout : Layout) (table : UInt32 → UInt32)
    (bgnCluster endCluster : UInt32) : Prop where
  bgn : 2 ≤ bgnCluster.toNat
  order : bgnCluster.toNat ≤ endCluster.toNat
  last : endCluster.toNat ≤ layout.clusterCount.toNat + 2
  free : ∀ cluster : UInt32, bgnCluster.toNat ≤ cluster.toNat →
    cluster.toNat < endCluster.toNat → table cluster = 0

/-- The number of a cluster, counted on past the end of the FAT. -/
def around (layout : Layout) (place : Nat) : Nat :=
  if layout.clusterCount.toNat + 1 < place then place - layout.clusterCount.toNat
  else place

/-- So many clusters, from the first one on, are in use. -/
def Tried (layout : Layout) (table : UInt32 → UInt32) (first places : Nat) : Prop :=
  ∀ place, place < places →
    table (UInt32.ofNat (layout.around (first + place))) ≠ 0

variable {layout : Layout} {table : UInt32 → UInt32}

theorem Tried.cons {first places : Nat}
    (hplaces : places + 1 ≤ layout.clusterCount.toNat)
    (hlast : first ≤ layout.clusterCount.toNat + 2)
    (hfirst : table (UInt32.ofNat (layout.around first)) ≠ 0)
    (hrest : layout.Tried table (layout.around first + 1) places) :
    layout.Tried table first (places + 1) := by
  intro place hplace
  cases place with
  | zero => exact hfirst
  | succ place =>
      have hnext : layout.around (first + (place + 1)) =
          layout.around (layout.around first + 1 + place) := by
        unfold around
        split <;> split <;> split <;> omega
      rw [hnext]
      exact hrest place (Nat.lt_of_succ_lt_succ hplace)

theorem Tried.used {first places : Nat} (htried : layout.Tried table first places)
    {cluster : UInt32} {place : Nat} (hplace : place < places)
    (haround : layout.around (first + place) = cluster.toNat) : table cluster ≠ 0 := by
  have hused := htried place hplace
  rwa [haround, UInt32.ofNat_toNat] at hused

/-- As many clusters as there are, from any one on, are all of them. -/
theorem Tried.all {first : Nat} (hfirst : 2 ≤ first)
    (hlast : first ≤ layout.clusterCount.toNat + 2)
    (htried : layout.Tried table first layout.clusterCount.toNat)
    {cluster : UInt32} (hcluster : layout.Cluster cluster) : table cluster ≠ 0 := by
  obtain ⟨hlow, hhigh⟩ := hcluster
  by_cases hbefore : cluster.toNat < first
  · have hplace : cluster.toNat + layout.clusterCount.toNat - first <
        layout.clusterCount.toNat := by omega
    apply htried.used hplace
    rw [around, if_pos (by omega)]
    omega
  · have hplace : cluster.toNat - first < layout.clusterCount.toNat := by omega
    apply htried.used hplace
    rw [around, if_neg (by omega)]
    omega

/-- The first free cluster that is met is the lowest one, when those before the start
of the search are in use. -/
theorem Tried.lowest {first places : Nat} {bgnCluster : UInt32}
    (hplaces : places < layout.clusterCount.toNat)
    (hbgn : bgnCluster.toNat = layout.around (first + places))
    (hfree : table bgnCluster = 0) (htwo : 2 ≤ bgnCluster.toNat)
    (htried : layout.Tried table first places)
    (hbelow : ∀ cluster : UInt32, 2 ≤ cluster.toNat → cluster.toNat < first →
      table cluster ≠ 0) {cluster : UInt32} (hcluster : 2 ≤ cluster.toNat)
    (hlt : cluster.toNat < bgnCluster.toNat) : table cluster ≠ 0 := by
  have hstart : ¬ bgnCluster.toNat < first := fun hbefore =>
    hbelow bgnCluster htwo hbefore hfree
  by_cases hbefore : cluster.toNat < first
  · exact hbelow cluster hcluster hbefore
  · have hwrap : ¬ layout.clusterCount.toNat + 1 < first + places := by
      intro hpast
      rw [around, if_pos hpast] at hbgn
      omega
    rw [around, if_neg hwrap] at hbgn
    have hplace : cluster.toNat - first < places := by omega
    apply htried.used hplace
    rw [around, if_neg (by omega)]
    omega

namespace Searching

variable {bgnCluster endCluster : UInt32}

/-- Past the end of the FAT the search goes on at its beginning. -/
theorem wrapped (hsound : layout.Sound) (hcount : 0 < layout.clusterCount.toNat)
    (hsearching : layout.Searching table bgnCluster endCluster) :
    ∃ bgn first : UInt32,
      bgn = (if endCluster > layout.clusterCount + 1 then 2 else bgnCluster) ∧
      first = (if endCluster > layout.clusterCount + 1 then 2 else endCluster) ∧
      layout.Searching table bgn first ∧
      first.toNat ≤ layout.clusterCount.toNat + 1 ∧
      first.toNat = layout.around endCluster.toNat ∧
      (bgnCluster = endCluster → bgn = first) := by
  refine ⟨_, _, rfl, rfl, ?_⟩
  have hlast := hsearching.last
  have htwo : (2 : UInt32).toNat = 2 := rfl
  by_cases hpast : endCluster > layout.clusterCount + 1
  · have hnat := UInt32.lt_iff_toNat_lt.mp hpast
    rw [hsound.toNat_last] at hnat
    rw [if_pos hpast, if_pos hpast, htwo, around, if_pos hnat]
    refine ⟨⟨le_refl 2, le_refl 2, by omega, ?_⟩, by omega, by omega, fun _ => rfl⟩
    intro cluster hfrom hto
    omega
  · have hnat := mt UInt32.lt_iff_toNat_lt.mpr hpast
    rw [hsound.toNat_last] at hnat
    rw [if_neg hpast, if_neg hpast, around, if_neg hnat]
    exact ⟨hsearching, by omega, rfl, id⟩

theorem toNat_next (hsound : layout.Sound)
    (hlast : endCluster.toNat ≤ layout.clusterCount.toNat + 1) :
    (endCluster + 1).toNat = endCluster.toNat + 1 := by
  have hcount := hsound.count_lt
  rw [UInt32.toNat_add, UInt32.toNat_one, Nat.mod_eq_of_lt (by omega)]

theorem restart (hsound : layout.Sound)
    (hsearching : layout.Searching table bgnCluster endCluster)
    (hlast : endCluster.toNat ≤ layout.clusterCount.toNat + 1) :
    layout.Searching table (endCluster + 1) (endCluster + 1) := by
  have hbgn := hsearching.bgn
  have horder := hsearching.order
  have hnext := toNat_next hsound hlast
  refine ⟨by omega, le_refl _, by omega, ?_⟩
  intro cluster hfrom hto
  omega

theorem free_upto (hsearching : layout.Searching table bgnCluster endCluster)
    (hfree : table endCluster = 0) {cluster : UInt32}
    (hfrom : bgnCluster.toNat ≤ cluster.toNat)
    (hto : cluster.toNat ≤ endCluster.toNat) : table cluster = 0 := by
  by_cases hend : cluster.toNat = endCluster.toNat
  · rw [UInt32.toNat_inj.mp hend]
    exact hfree
  · exact hsearching.free cluster hfrom (by omega)

theorem extend (hsound : layout.Sound)
    (hsearching : layout.Searching table bgnCluster endCluster)
    (hlast : endCluster.toNat ≤ layout.clusterCount.toNat + 1)
    (hfree : table endCluster = 0) :
    layout.Searching table bgnCluster (endCluster + 1) := by
  have horder := hsearching.order
  have hnext := toNat_next hsound hlast
  refine ⟨hsearching.bgn, by omega, by omega, ?_⟩
  intro cluster hfrom hto
  exact hsearching.free_upto hfree hfrom (by omega)

theorem toNat_length (hsound : layout.Sound)
    (hsearching : layout.Searching table bgnCluster endCluster)
    (hlast : endCluster.toNat ≤ layout.clusterCount.toNat + 1) :
    (endCluster - bgnCluster + 1).toNat =
      endCluster.toNat - bgnCluster.toNat + 1 := by
  have hcount := hsound.count_lt
  have hsub := UInt32.toNat_sub_of_le endCluster bgnCluster
    (UInt32.le_iff_toNat_le.mpr hsearching.order)
  rw [UInt32.toNat_add, UInt32.toNat_one, hsub, Nat.mod_eq_of_lt (by omega)]

theorem group (hsound : layout.Sound)
    (hsearching : layout.Searching table bgnCluster endCluster)
    (hlast : endCluster.toNat ≤ layout.clusterCount.toNat + 1)
    (hfree : table endCluster = 0) {count : UInt32}
    (hcount : endCluster - bgnCluster + 1 = count) :
    layout.FreeGroup table count bgnCluster endCluster where
  bgn := hsearching.bgn
  order := hsearching.order
  last := hlast
  count := by
    rw [← hcount, hsearching.toNat_length hsound hlast]
  free _ hfrom hto := hsearching.free_upto hfree hfrom hto

end Searching

end Layout

namespace SdVolume

variable {layout : Layout} {io : Accesses}

/-- A group that is found is free, and one cluster is the first free one that is
met; where one cluster is not found, none is free. -/
theorem ends_allocSearch (hsound : layout.Sound) {count : UInt32} {left : Nat}
    (hleft : left ≤ layout.clusterCount.toNat) {volume : SdVolume}
    (hcoherent : Coherent layout volume) {bgnCluster endCluster : UInt32}
    (hsearching : layout.Searching (volume.fat layout) bgnCluster endCluster) :
    Ends (allocSearch io layout count left bgnCluster endCluster) volume
      (fun group after => Kept layout volume after ∧
        layout.FreeGroup (volume.fat layout) count group.1 group.2 ∧
        (count = 1 → bgnCluster = endCluster → ∃ places, places < left ∧
          group.1.toNat = layout.around (endCluster.toNat + places) ∧
          layout.Tried (volume.fat layout) endCluster.toNat places))
      (fun after => Kept layout volume after ∧ (Broken io ∨
        (count = 1 → bgnCluster = endCluster →
          layout.Tried (volume.fat layout) endCluster.toNat left))) := by
  induction left generalizing volume bgnCluster endCluster with
  | zero =>
      rw [allocSearch, ends_failure]
      exact ⟨⟨hcoherent, .refl volume⟩, .inr fun _ _ place hplace =>
        absurd hplace (Nat.not_lt_zero place)⟩
  | succ left ih =>
      obtain ⟨bgn, first, hbgn, hfirst, hwrapped, hlast, haround, hsame⟩ :=
        hsearching.wrapped hsound (by omega)
      rw [allocSearch, ← hbgn, ← hfirst]
      apply (ends_fatGet hsound hcoherent hlast).bind
      · rintro f got ⟨rfl, hkept⟩
        have hfat := hkept.same.fat hsound
        by_cases hfree : volume.fat layout first = 0
        · rw [if_neg (not_not_intro hfree)]
          by_cases hdone : first - bgn + 1 = count
          · rw [if_pos hdone, ends_pure]
            refine ⟨hkept, hwrapped.group hsound hlast hfree hdone, ?_⟩
            intro _ hstart
            refine ⟨0, Nat.succ_pos left, ?_, fun place hplace =>
              absurd hplace (Nat.not_lt_zero place)⟩
            rw [hsame hstart, haround, Nat.add_zero]
          · rw [if_neg hdone]
            have hnext := hwrapped.extend hsound hlast hfree
            have hone : ¬ (count = 1 ∧ bgnCluster = endCluster) := by
              rintro ⟨rfl, hstart⟩
              apply hdone
              rw [hsame hstart, UInt32.sub_self, UInt32.zero_add]
            rw [← hfat] at hnext
            apply (ih (by omega) hkept.coherent hnext).imp
            · rintro group after ⟨hafter, hgroup, -⟩
              rw [hfat] at hgroup
              exact ⟨hkept.trans hafter, hgroup, fun hcount hstart =>
                absurd ⟨hcount, hstart⟩ hone⟩
            · rintro after ⟨hafter, hfailed⟩
              exact ⟨hkept.trans hafter, hfailed.imp_right fun _ hcount hstart =>
                absurd ⟨hcount, hstart⟩ hone⟩
        · rw [if_pos hfree]
          have hnext := hwrapped.restart hsound hlast
          have hsucc := Layout.Searching.toNat_next hsound hlast
          rw [haround] at hsucc
          have hused : volume.fat layout
              (UInt32.ofNat (layout.around endCluster.toNat)) ≠ 0 := by
            rw [← haround, UInt32.ofNat_toNat]
            exact hfree
          rw [← hfat] at hnext
          apply (ih (by omega) hkept.coherent hnext).imp
          · rintro group after ⟨hafter, hgroup, hmet⟩
            rw [hfat] at hgroup hmet
            refine ⟨hkept.trans hafter, hgroup, fun hcount _ => ?_⟩
            obtain ⟨places, hplaces, hplace, htried⟩ := hmet hcount rfl
            rw [hsucc] at hplace htried
            refine ⟨places + 1, Nat.succ_lt_succ hplaces, ?_,
              htried.cons (by omega) hsearching.last hused⟩
            rw [hplace]
            have := hsearching.last
            unfold Layout.around
            split <;> split <;> split <;> omega
          · rintro after ⟨hafter, hfailed⟩
            refine ⟨hkept.trans hafter, hfailed.imp_right fun htried hcount _ => ?_⟩
            have htried := htried hcount rfl
            rw [hfat, hsucc] at htried
            exact htried.cons (by omega) hsearching.last hused
      · rintro after ⟨hkept, hbroken⟩
        exact ⟨hkept, .inl hbroken⟩

end SdVolume

namespace Layout

def links (layout : Layout) (table : UInt32 → UInt32) (cluster : UInt32) :
    Option UInt32 :=
  if layout.isEOC (table cluster) then none else some (table cluster)

def group (bgnCluster : UInt32) (count : Nat) : List UInt32 :=
  (List.range count).map fun place => bgnCluster + UInt32.ofNat place

variable {layout : Layout}

theorem isEOC_iff {cluster : UInt32} :
    layout.isEOC cluster = true ↔ layout.eocMin.toNat ≤ cluster.toNat := by
  rw [isEOC, decide_eq_true_iff, ge_iff_le, UInt32.le_iff_toNat_le]

theorem kept_eq {value : UInt32} (hvalue : value.toNat < layout.eocMin.toNat) :
    layout.kept value = value := by
  apply UInt32.toNat_inj.mp
  unfold kept
  unfold eocMin at hvalue
  cases htype : layout.fatType with
  | fat16 =>
      rw [htype] at hvalue
      have hmask : value.toNat &&& (0xFFFF : UInt32).toNat = value.toNat % 2 ^ 16 :=
        Nat.and_two_pow_sub_one_eq_mod _ 16
      have hmin : (0xFFF8 : UInt32).toNat = 0xFFF8 := rfl
      dsimp only at hvalue ⊢
      rw [UInt32.toNat_and, hmask, Nat.mod_eq_of_lt (by omega)]
  | fat32 =>
      rw [htype] at hvalue
      have hmask : value.toNat &&& (0x0FFFFFFF : UInt32).toNat = value.toNat % 2 ^ 28 :=
        Nat.and_two_pow_sub_one_eq_mod _ 28
      have hmin : (0x0FFFFFF8 : UInt32).toNat = 0x0FFFFFF8 := rfl
      dsimp only at hvalue ⊢
      rw [UInt32.toNat_and, hmask, Nat.mod_eq_of_lt (by omega)]

theorem isEOC_kept (layout : Layout) :
    layout.isEOC (layout.kept 0x0FFFFFFF) = true := by
  unfold isEOC kept eocMin
  cases layout.fatType <;> rfl

@[simp] theorem kept_zero (layout : Layout) : layout.kept 0 = 0 := by
  unfold kept
  cases layout.fatType <;> rfl

theorem Sound.kept_cluster (hsound : layout.Sound) {cluster : UInt32}
    (hcluster : layout.Cluster cluster) : layout.kept cluster = cluster :=
  kept_eq (Nat.lt_of_le_of_lt hcluster.2 hsound.count)

theorem Cluster.ne_zero {cluster : UInt32} (hcluster : layout.Cluster cluster) :
    cluster ≠ 0 := by
  rintro rfl
  have htwo := hcluster.1
  rw [UInt32.toNat_zero] at htwo
  omega

theorem links_zero_iff {table : UInt32 → UInt32} {cluster : UInt32} :
    layout.links table cluster = some 0 ↔ table cluster = 0 := by
  unfold links
  constructor
  · intro hlink
    split at hlink
    · cases hlink
    · exact Option.some.inj hlink
  · intro hzero
    have hmin : ¬ layout.isEOC 0 = true := by
      unfold isEOC eocMin
      cases layout.fatType <;> decide
    rw [hzero, if_neg hmin]

/-! The clusters of a group. -/

section Group

variable {bgnCluster : UInt32} {count : Nat}

theorem toNat_group (hlast : bgnCluster.toNat + count < 2 ^ 32) {place : Nat}
    (hplace : place ≤ count) :
    (bgnCluster + UInt32.ofNat place).toNat = bgnCluster.toNat + place := by
  rw [UInt32.toNat_add, UInt32.toNat_ofNat', Nat.mod_eq_of_lt (by omega : place < _),
    Nat.mod_eq_of_lt (by omega)]

theorem mem_group (hlast : bgnCluster.toNat + count < 2 ^ 32) {cluster : UInt32} :
    cluster ∈ group bgnCluster count ↔
      bgnCluster.toNat ≤ cluster.toNat ∧
        cluster.toNat < bgnCluster.toNat + count := by
  unfold group
  rw [List.mem_map]
  constructor
  · rintro ⟨place, hplace, rfl⟩
    have hplace := List.mem_range.mp hplace
    rw [toNat_group hlast hplace.le]
    omega
  · rintro ⟨hfrom, hto⟩
    refine ⟨cluster.toNat - bgnCluster.toNat, List.mem_range.mpr (by omega), ?_⟩
    apply UInt32.toNat_inj.mp
    rw [toNat_group hlast (by omega)]
    omega

@[simp] theorem length_group : (group bgnCluster count).length = count := by
  rw [group, List.length_map, List.length_range]

theorem group_succ :
    group bgnCluster (count + 1) =
      group bgnCluster count ++ [bgnCluster + UInt32.ofNat count] := by
  rw [group, List.range_succ, List.map_append, List.map_singleton, group]

theorem group_one : group bgnCluster (1 : UInt32).toNat = [bgnCluster] := by
  rw [UInt32.toNat_one, group_succ]
  exact congrArg (fun other => [other]) (UInt32.add_zero bgnCluster)

theorem head?_group : (group bgnCluster (count + 1)).head? = some bgnCluster := by
  rw [group, List.range_succ_eq_map, List.map_cons, List.head?_cons]
  exact congrArg some (UInt32.add_zero bgnCluster)

/-- Clusters that are each linked to the next one are a chain up to the cluster
after them. -/
theorem leads_group {table : UInt32 → UInt32}
    (hlast : bgnCluster.toNat + count < layout.eocMin.toNat)
    (hnext : ∀ place, place < count →
      table (bgnCluster + UInt32.ofNat place) =
        bgnCluster + UInt32.ofNat (place + 1)) :
    Leads (layout.links table) (group bgnCluster count)
      (some (bgnCluster + UInt32.ofNat count)) := by
  have hmin := layout.eocMin.toNat_lt
  induction count with
  | zero => trivial
  | succ count ih =>
      have hbefore := ih (by omega) fun place hplace => hnext place (by omega)
      rw [group_succ, leads_append]
      refine ⟨hbefore, ?_, trivial⟩
      have hnat : (bgnCluster + UInt32.ofNat (count + 1)).toNat =
          bgnCluster.toNat + (count + 1) :=
        toNat_group (by omega) (le_refl (count + 1))
      have hin : ¬ layout.isEOC (bgnCluster + UInt32.ofNat (count + 1)) = true := by
        rw [isEOC_iff, hnat]
        omega
      rw [links, hnext count (Nat.lt_succ_self count), if_neg hin]
      rfl

end Group

def linkedTable (table : UInt32 → UInt32) (bgnCluster : UInt32) (left : Nat)
    (cluster : UInt32) : UInt32 :=
  if bgnCluster.toNat ≤ cluster.toNat ∧ cluster.toNat < bgnCluster.toNat + left
  then cluster + 1
  else table cluster

theorem linkedTable_of_lt {table : UInt32 → UInt32} {bgnCluster cluster : UInt32}
    {left : Nat} (hin : bgnCluster.toNat ≤ cluster.toNat ∧
      cluster.toNat < bgnCluster.toNat + left) :
    linkedTable table bgnCluster left cluster = cluster + 1 := if_pos hin

theorem linkedTable_of_out {table : UInt32 → UInt32} {bgnCluster cluster : UInt32}
    {left : Nat} (hout : ¬ (bgnCluster.toNat ≤ cluster.toNat ∧
      cluster.toNat < bgnCluster.toNat + left)) :
    linkedTable table bgnCluster left cluster = table cluster := if_neg hout

theorem linkedTable_succ {table : UInt32 → UInt32} {bgnCluster : UInt32} {left : Nat}
    (hlast : bgnCluster.toNat + left < 2 ^ 32) :
    linkedTable
        (Function.update table (bgnCluster + UInt32.ofNat left)
          (bgnCluster + UInt32.ofNat left + 1)) bgnCluster left =
      linkedTable table bgnCluster (left + 1) := by
  funext cluster
  have hnat : (bgnCluster + UInt32.ofNat left).toNat = bgnCluster.toNat + left :=
    toNat_group hlast (le_refl left)
  by_cases hend : cluster = bgnCluster + UInt32.ofNat left
  · rw [hend, linkedTable_of_out (by omega), Function.update_self,
      linkedTable_of_lt (by omega)]
  · have hother : cluster.toNat ≠ bgnCluster.toNat + left := by
      rw [← hnat]
      exact fun hsame => hend (UInt32.toNat_inj.mp hsame)
    unfold linkedTable
    rw [Function.update_of_ne hend]
    exact if_congr (by omega) rfl rfl

theorem linkedTable_of_group {table : UInt32 → UInt32} {bgnCluster : UInt32} {left : Nat}
    (hlast : bgnCluster.toNat + left < 2 ^ 32) {place : Nat} (hplace : place < left) :
    linkedTable table bgnCluster left (bgnCluster + UInt32.ofNat place) =
      bgnCluster + UInt32.ofNat (place + 1) := by
  have hnat : (bgnCluster + UInt32.ofNat place).toNat = bgnCluster.toNat + place :=
    toNat_group hlast hplace.le
  rw [linkedTable_of_lt (by omega), UInt32.ofNat_add, UInt32.add_assoc]
  rfl

/-- Free clusters have been made a chain, and that chain has been put after a
cluster, if there is one.  No other entry has changed. -/
structure Appended (layout : Layout) (count : Nat) (curCluster bgnCluster : UInt32)
    (before after : UInt32 → UInt32) : Prop where
  free : ∀ cluster ∈ group bgnCluster count,
    layout.Cluster cluster ∧ before cluster = 0
  linked : Linked (layout.links after) (group bgnCluster count)
  connected : curCluster ≠ 0 → after curCluster = bgnCluster
  others : ∀ cluster, cluster ∉ group bgnCluster count →
    (cluster = curCluster → curCluster = 0) → after cluster = before cluster

def appendedTable (layout : Layout) (table : UInt32 → UInt32)
    (curCluster bgnCluster endCluster : UInt32) : UInt32 → UInt32 :=
  let linked := linkedTable
    (Function.update table endCluster (layout.kept 0x0FFFFFFF)) bgnCluster
    (endCluster - bgnCluster).toNat
  if curCluster ≠ 0 then Function.update linked curCluster bgnCluster else linked

theorem FreeGroup.toNat_sub {table : UInt32 → UInt32}
    {count bgnCluster endCluster : UInt32}
    (hgroup : layout.FreeGroup table count bgnCluster endCluster) :
    (endCluster - bgnCluster).toNat = endCluster.toNat - bgnCluster.toNat :=
  UInt32.toNat_sub_of_le endCluster bgnCluster
    (UInt32.le_iff_toNat_le.mpr hgroup.order)

theorem FreeGroup.appended (hsound : layout.Sound) {table : UInt32 → UInt32}
    {count curCluster bgnCluster endCluster : UInt32}
    (hgroup : layout.FreeGroup table count bgnCluster endCluster)
    (hcur : curCluster = 0 ∨ table curCluster ≠ 0) :
    layout.Appended count.toNat curCluster bgnCluster table
      (layout.appendedTable table curCluster bgnCluster endCluster) := by
  have hlt := hsound.count_lt
  have heoc := hsound.count
  obtain ⟨hbgn, horder, hlast, hcount, hfree⟩ := hgroup
  have hsub := FreeGroup.toNat_sub ⟨hbgn, horder, hlast, hcount, hfree⟩
  have hmem : ∀ cluster, cluster ∈ group bgnCluster count.toNat ↔
      bgnCluster.toNat ≤ cluster.toNat ∧ cluster.toNat ≤ endCluster.toNat := by
    intro cluster
    rw [mem_group (by omega)]
    omega
  have hcurOut : curCluster ≠ 0 → curCluster ∉ group bgnCluster count.toNat := by
    intro hzero hin
    obtain ⟨hfrom, hto⟩ := (hmem curCluster).mp hin
    exact hcur.resolve_left hzero (hfree curCluster hfrom hto)
  have hconnected : ∀ cluster, (cluster = curCluster → curCluster = 0) →
      layout.appendedTable table curCluster bgnCluster endCluster cluster =
        linkedTable (Function.update table endCluster (layout.kept 0x0FFFFFFF))
          bgnCluster (endCluster.toNat - bgnCluster.toNat) cluster := by
    intro cluster hother
    unfold appendedTable
    rw [hsub]
    split
    · next hzero => rw [Function.update_of_ne (fun hsame => hzero (hother hsame))]
    · rfl
  have hin : ∀ cluster ∈ group bgnCluster count.toNat,
      cluster = curCluster → curCluster = 0 := by
    rintro cluster hcluster rfl
    by_contra hzero
    exact hcurOut hzero hcluster
  refine ⟨?_, ?_, ?_, ?_⟩
  · intro cluster hcluster
    obtain ⟨hfrom, hto⟩ := (hmem cluster).mp hcluster
    exact ⟨⟨by omega, by omega⟩, hfree cluster hfrom hto⟩
  · have hsplit : count.toNat = endCluster.toNat - bgnCluster.toNat + 1 := hcount.symm
    have hend : bgnCluster + UInt32.ofNat (endCluster.toNat - bgnCluster.toNat) =
        endCluster := by
      apply UInt32.toNat_inj.mp
      rw [toNat_group (by omega) (le_refl _)]
      omega
    have hchain : Linked (layout.links (linkedTable
        (Function.update table endCluster (layout.kept 0x0FFFFFFF)) bgnCluster
        (endCluster.toNat - bgnCluster.toNat))) (group bgnCluster count.toNat) := by
      rw [hsplit, group_succ, Linked, leads_append]
      refine ⟨leads_group (by omega) fun place hplace =>
        linkedTable_of_group (by omega) hplace, ?_, trivial⟩
      rw [hend, links, linkedTable_of_out (by omega), Function.update_self,
        if_pos (isEOC_kept layout)]
      rfl
    apply hchain.congr
    intro cluster hcluster
    rw [links, links, hconnected cluster (hin cluster hcluster)]
  · intro hzero
    unfold appendedTable
    rw [if_pos hzero, Function.update_self]
  · intro cluster hout hother
    have hbounds := mt (hmem cluster).mpr hout
    have hend : cluster ≠ endCluster := by
      rintro rfl
      exact hbounds ⟨horder, le_refl _⟩
    rw [hconnected cluster hother, linkedTable_of_out (by omega),
      Function.update_of_ne hend]

end Layout

namespace SdVolume

variable {layout : Layout} {io : Accesses} {volume : SdVolume}

theorem ends_linkClusters (hsound : layout.Sound) {bgnCluster : UInt32} {left : Nat}
    (hbgn : 2 ≤ bgnCluster.toNat)
    (hlast : bgnCluster.toNat + left ≤ layout.clusterCount.toNat + 1)
    (hcoherent : Coherent layout volume) :
    Ends (linkClusters io layout bgnCluster left) volume
      (fun _ after => FatOnly layout volume after ∧
        after.fat layout =
          Layout.linkedTable (volume.fat layout) bgnCluster left)
      (fun after => FatOnly layout volume after ∧ Broken io ∧
        ∀ cluster, ¬ (bgnCluster.toNat ≤ cluster.toNat ∧
            cluster.toNat < bgnCluster.toNat + left) →
          after.fat layout cluster = volume.fat layout cluster) := by
  have hcount := hsound.count_lt
  induction left generalizing volume with
  | zero =>
      rw [linkClusters, ends_pure]
      refine ⟨⟨hcoherent, fun _ _ => rfl, rfl⟩, ?_⟩
      funext cluster
      rw [Layout.linkedTable_of_out (by omega)]
  | succ left ih =>
      have hsub : bgnCluster + UInt32.ofNat (left + 1) - 1 =
          bgnCluster + UInt32.ofNat left := by
        rw [UInt32.ofNat_add, ← UInt32.add_assoc]
        exact UInt32.add_sub_cancel _ _
      have hadd : bgnCluster + UInt32.ofNat (left + 1) =
          bgnCluster + UInt32.ofNat left + 1 := by
        rw [UInt32.ofNat_add, ← UInt32.add_assoc]
        rfl
      have hnat : (bgnCluster + UInt32.ofNat left).toNat = bgnCluster.toNat + left :=
        Layout.toNat_group (by omega) (le_refl left)
      have hnat' : (bgnCluster + UInt32.ofNat (left + 1)).toNat =
          bgnCluster.toNat + (left + 1) :=
        Layout.toNat_group (by omega) (le_refl (left + 1))
      have hcluster : layout.Cluster (bgnCluster + UInt32.ofNat left) := by
        constructor <;> omega
      have hnext : layout.Cluster (bgnCluster + UInt32.ofNat (left + 1)) := by
        constructor <;> omega
      rw [linkClusters, hsub]
      apply (ends_fatPut hsound hcoherent hcluster _).bind
      · rintro - linked ⟨honly, hfat⟩
        rw [hsound.kept_cluster hnext, hadd] at hfat
        apply (ih (by omega) honly.coherent).imp
        · rintro - after ⟨hafter, htable⟩
          rw [hfat, Layout.linkedTable_succ (by omega)] at htable
          exact ⟨honly.trans hafter, htable⟩
        · rintro after ⟨hafter, hbroken, hothers⟩
          refine ⟨honly.trans hafter, hbroken, fun cluster hcluster => ?_⟩
          have hend : cluster ≠ bgnCluster + UInt32.ofNat left := by
            rintro rfl
            omega
          rw [hothers cluster (by omega), hfat, Function.update_of_ne hend]
      · rintro after ⟨hkept, hbroken⟩
        exact ⟨hkept.fatOnly, hbroken, fun cluster _ =>
          congrFun (hkept.same.fat hsound) cluster⟩

structure Startable (layout : Layout) (volume : SdVolume) : Prop where
  bgn : 2 ≤ volume.allocSearchStart.toNat
  last : volume.allocSearchStart.toNat ≤ layout.clusterCount.toNat + 2

structure Allocated (layout : Layout) (count curCluster bgnCluster : UInt32)
    (before after : SdVolume) : Prop where
  coherent : Coherent layout after
  plain : ∀ block, layout.Plain block → after.memory block = before.memory block
  appended : layout.Appended count.toNat curCluster bgnCluster (before.fat layout)
    (after.fat layout)
  start : after.allocSearchStart =
    if curCluster = 0 ∧ count = 1 then bgnCluster + 1 else before.allocSearchStart
  /-- One cluster for a file without clusters is the lowest one that is free. -/
  lowest : curCluster = 0 → count = 1 →
    (∀ cluster : UInt32, 2 ≤ cluster.toNat →
      cluster.toNat < before.allocSearchStart.toNat →
      before.fat layout cluster ≠ 0) →
    ∀ cluster : UInt32, 2 ≤ cluster.toNat → cluster.toNat < bgnCluster.toNat →
      before.fat layout cluster ≠ 0

theorem ends_connectChains (hsound : layout.Sound) (hcoherent : Coherent layout volume)
    {curCluster bgnCluster : UInt32} (hcur : curCluster = 0 ∨ layout.Cluster curCluster)
    (hbgn : layout.Cluster bgnCluster) :
    Ends (connectChains io layout curCluster bgnCluster) volume
      (fun _ after => FatOnly layout volume after ∧
        after.fat layout =
          if curCluster ≠ 0 then
            Function.update (volume.fat layout) curCluster bgnCluster
          else volume.fat layout)
      (fun after => Kept layout volume after ∧ Broken io) := by
  unfold connectChains
  by_cases hzero : curCluster = 0
  · rw [if_neg (not_not_intro hzero), if_neg (not_not_intro hzero), ends_pure]
    exact ⟨⟨hcoherent, fun _ _ => rfl, rfl⟩, rfl⟩
  · rw [if_pos hzero, if_pos hzero]
    apply (ends_fatPut hsound hcoherent (hcur.resolve_left hzero) bgnCluster).imp
    · rintro - after ⟨honly, hfat⟩
      rw [hsound.kept_cluster hbgn] at hfat
      exact ⟨honly, hfat⟩
    · exact fun _ hfailed => hfailed

theorem ends_enterGroup (hsound : layout.Sound) (hcoherent : Coherent layout volume)
    {count curCluster bgnCluster endCluster : UInt32}
    (hgroup : layout.FreeGroup (volume.fat layout) count bgnCluster endCluster)
    (hcur : curCluster = 0 ∨ layout.Cluster curCluster) :
    Ends (enterGroup io layout curCluster bgnCluster endCluster) volume
      (fun _ after => FatOnly layout volume after ∧
        after.fat layout = layout.appendedTable (volume.fat layout) curCluster
          bgnCluster endCluster)
      (fun after => FatOnly layout volume after ∧ Broken io ∧
        ∀ cluster, volume.fat layout cluster ≠ 0 →
          after.fat layout cluster = volume.fat layout cluster) := by
  have hsub := hgroup.toNat_sub
  obtain ⟨hbgn, horder, hlast, -, hfree⟩ := hgroup
  have hend : layout.Cluster endCluster := ⟨by omega, hlast⟩
  have hused : ∀ cluster, volume.fat layout cluster ≠ 0 →
      ¬ (bgnCluster.toNat ≤ cluster.toNat ∧ cluster.toNat ≤ endCluster.toNat) :=
    fun cluster hused ⟨hfrom, hto⟩ => hused (hfree cluster hfrom hto)
  have hapart : ∀ cluster, volume.fat layout cluster ≠ 0 → cluster ≠ endCluster := by
    rintro cluster hcluster rfl
    exact hused cluster hcluster ⟨horder, le_refl _⟩
  rw [enterGroup, fatPutEOC]
  apply (ends_fatPut hsound hcoherent hend _).bind
  · rintro - ended ⟨hended, hendedFat⟩
    apply (ends_linkClusters hsound hbgn (by omega) hended.coherent).bind
    · rintro - linked ⟨hlinked, hlinkedFat⟩
      apply (ends_connectChains hsound hlinked.coherent hcur ⟨by omega, by omega⟩).imp
      · rintro - after ⟨hafter, hfat⟩
        refine ⟨(hended.trans hlinked).trans hafter, ?_⟩
        rw [hfat, hlinkedFat, hendedFat]
        rfl
      · rintro after ⟨hkept, hbroken⟩
        refine ⟨(hended.trans hlinked).trans hkept.fatOnly, hbroken, ?_⟩
        intro cluster hcluster
        have hout := hused cluster hcluster
        rw [hkept.same.fat hsound, hlinkedFat, Layout.linkedTable_of_out (by omega),
          hendedFat, Function.update_of_ne (hapart cluster hcluster)]
    · rintro after ⟨hafter, hbroken, hothers⟩
      refine ⟨hended.trans hafter, hbroken, fun cluster hcluster => ?_⟩
      have hout := hused cluster hcluster
      rw [hothers cluster (by omega), hendedFat,
        Function.update_of_ne (hapart cluster hcluster)]
  · rintro after ⟨hkept, hbroken⟩
    exact ⟨hkept.fatOnly, hbroken, fun cluster _ =>
      congrFun (hkept.same.fat hsound) cluster⟩

/-- A chain is given free clusters, or what is used stays as it was. -/
theorem ends_allocContiguous (hsound : layout.Sound) (hcoherent : Coherent layout volume)
    (hstartable : Startable layout volume) {count curCluster : UInt32}
    (hcur : curCluster = 0 ∨
      layout.Cluster curCluster ∧ volume.fat layout curCluster ≠ 0) :
    Ends (allocContiguous io layout count curCluster) volume
      (fun bgnCluster after =>
        Allocated layout count curCluster bgnCluster volume after)
      (fun after => FatOnly layout volume after ∧
        (∀ cluster, volume.fat layout cluster ≠ 0 →
          after.fat layout cluster = volume.fat layout cluster) ∧
        (Broken io ∨ (count = 1 → ∀ cluster, layout.Cluster cluster →
          volume.fat layout cluster ≠ 0))) := by
  have hlt := hsound.count_lt
  obtain ⟨start, hstart⟩ : ∃ start : UInt32,
      start = if curCluster ≠ 0 then curCluster + 1 else volume.allocSearchStart :=
    ⟨_, rfl⟩
  have hbounds : 2 ≤ start.toNat ∧ start.toNat ≤ layout.clusterCount.toNat + 2 := by
    rw [hstart]
    by_cases hzero : curCluster = 0
    · rw [if_neg (not_not_intro hzero)]
      exact ⟨hstartable.bgn, hstartable.last⟩
    · rw [if_pos hzero]
      obtain ⟨hlow, hhigh⟩ := (hcur.resolve_left hzero).1
      rw [Layout.Searching.toNat_next hsound hhigh]
      omega
  have hsearching : layout.Searching (volume.fat layout) start start :=
    ⟨hbounds.1, le_refl _, hbounds.2, fun cluster hfrom hto => by omega⟩
  rw [allocContiguous, ends_bind, ends_get]
  dsimp only
  rw [← hstart]
  apply (ends_allocSearch hsound (le_refl _) hcoherent hsearching).bind
  · rintro ⟨bgnCluster, endCluster⟩ searched ⟨hkept, hgroup, hfound⟩
    have hfat := hkept.same.fat hsound
    dsimp only at hgroup hfound ⊢
    have happended := hgroup.appended hsound (hcur.imp_right And.right)
    have hentered : Ends (enterGroup io layout curCluster bgnCluster endCluster)
        searched _ _ :=
      ends_enterGroup hsound hkept.coherent (hfat.symm ▸ hgroup)
        (hcur.imp_right And.left)
    rw [hfat] at hentered
    apply hentered.bind
    · rintro - entered ⟨honly, htable⟩
      rw [ends_bind, ends_modify, ends_pure]
      have hchanged : (SdVolume.fat layout
          { entered with
            allocSearchStart :=
              if curCluster = 0 ∧ count = 1 then bgnCluster + 1
              else entered.allocSearchStart }) =
          layout.appendedTable (volume.fat layout) curCluster bgnCluster endCluster :=
        htable
      refine ⟨⟨honly.coherent.clean, honly.coherent.pending, honly.coherent.waiting,
        honly.coherent.logical, honly.coherent.copies⟩, ?_, ?_, ?_, ?_⟩
      · intro block hplain
        exact (honly.plain block hplain).trans (hkept.same.memory block hplain.1)
      · rw [hchanged]
        exact happended
      · rw [honly.allocSearchStart, hkept.same.allocSearchStart]
      · rintro rfl rfl hbelow cluster hcluster hbefore
        rw [if_neg (not_not_intro rfl)] at hstart
        obtain ⟨places, hplaces, haround, htried⟩ := hfound rfl rfl
        rw [← hstart] at hbelow
        exact htried.lowest hplaces haround
          (hgroup.free bgnCluster (le_refl _) hgroup.order) hgroup.bgn hbelow
          hcluster hbefore
    · rintro after ⟨honly, hbroken, hused⟩
      exact ⟨hkept.fatOnly.trans honly, hused, .inl hbroken⟩
  · rintro after ⟨hkept, hfailed⟩
    refine ⟨hkept.fatOnly, fun cluster _ => congrFun (hkept.same.fat hsound) cluster,
      hfailed.imp_right fun htried hcount cluster hcluster => ?_⟩
    exact (htried hcount rfl).all hbounds.1 hbounds.2 hcluster

/-! Freeing a chain. -/

theorem ends_freeRound (hsound : layout.Sound) (hcoherent : Coherent layout volume)
    {cluster : UInt32} (hcluster : layout.Cluster cluster) :
    Ends (do
        let next ← fatGet io layout cluster
        fatPut io layout cluster 0
        return next) volume
      (fun next after => next = volume.fat layout cluster ∧
        FatOnly layout volume after ∧
        after.fat layout = Function.update (volume.fat layout) cluster 0)
      (fun after => Kept layout volume after ∧ Broken io) := by
  apply (ends_fatGet hsound hcoherent hcluster.2).bind
  · rintro next got ⟨hnext, hgot⟩
    apply (ends_fatPut hsound hgot.coherent hcluster 0).bind
    · rintro - after ⟨honly, hfat⟩
      rw [hgot.same.fat hsound, Layout.kept_zero] at hfat
      exact ⟨hnext, hgot.fatOnly.trans honly, hfat⟩
    · rintro after ⟨hafter, hbroken⟩
      exact ⟨hgot.trans hafter, hbroken⟩
  · exact fun _ hfailed => hfailed

theorem freeLoop_succ (rounds : Nat) (cluster : UInt32) :
    freeLoop io layout (rounds + 1) cluster = (do
      let next ← (do
        let next ← fatGet io layout cluster
        fatPut io layout cluster 0
        return next)
      if layout.isEOC next then return some ()
      else freeLoop io layout rounds next) := by
  rw [freeLoop]
  simp only [bind_assoc, pure_bind]

theorem ends_freeLoop (hsound : layout.Sound) {cluster : UInt32} {chain : List UInt32}
    (hcoherent : Coherent layout volume)
    (hlinked : Linked (layout.links (volume.fat layout)) (cluster :: chain))
    (hclusters : ∀ other ∈ cluster :: chain, layout.Cluster other) {rounds : Nat}
    (hrounds : chain.length < rounds) :
    Ends (freeLoop io layout rounds cluster) volume
      (fun done after => done = some () ∧ FatOnly layout volume after ∧
        ∀ other, after.fat layout other =
          if other ∈ cluster :: chain then 0 else volume.fat layout other)
      (fun after => FatOnly layout volume after ∧ Broken io ∧
        ∀ other, other ∉ cluster :: chain →
          after.fat layout other = volume.fat layout other) := by
  induction chain generalizing volume cluster rounds with
  | nil =>
      obtain ⟨rounds, rfl⟩ := Nat.exists_eq_succ_of_ne_zero (Nat.ne_zero_of_lt hrounds)
      have hlast : layout.isEOC (volume.fat layout cluster) = true := by
        by_contra hnot
        have hlink := hlinked.1
        rw [Layout.links, if_neg hnot] at hlink
        cases hlink
      rw [freeLoop_succ]
      apply (ends_freeRound hsound hcoherent (hclusters cluster (.head _))).bind
      · rintro next after ⟨rfl, honly, hfat⟩
        rw [if_pos hlast, ends_pure]
        refine ⟨rfl, honly, fun other => ?_⟩
        rw [hfat, Function.update_apply]
        exact if_congr List.mem_singleton.symm rfl rfl
      · rintro after ⟨hkept, hbroken⟩
        exact ⟨hkept.fatOnly, hbroken, fun other _ =>
          congrFun (hkept.same.fat hsound) other⟩
  | cons head rest ih =>
      obtain ⟨rounds, rfl⟩ := Nat.exists_eq_succ_of_ne_zero (Nat.ne_zero_of_lt hrounds)
      have hnodup := List.nodup_cons.mp hlinked.nodup
      have hnext : ¬ layout.isEOC (volume.fat layout cluster) = true ∧
          volume.fat layout cluster = head := by
        have hlink := hlinked.1
        rw [Layout.links] at hlink
        split at hlink
        · cases hlink
        · next hnot => exact ⟨hnot, Option.some.inj hlink⟩
      rw [freeLoop_succ]
      apply (ends_freeRound hsound hcoherent (hclusters cluster (.head _))).bind
      · rintro next freed ⟨rfl, honly, hfat⟩
        rw [if_neg hnext.1, hnext.2]
        have hrest : Linked (layout.links (freed.fat layout)) (head :: rest) := by
          apply Leads.congr hlinked.2
          intro other hother
          have hapart : other ≠ cluster := by
            rintro rfl
            exact hnodup.1 hother
          rw [Layout.links, Layout.links, hfat, Function.update_of_ne hapart]
        apply (ih honly.coherent hrest (fun other hother =>
          hclusters other (.tail cluster hother)) (Nat.lt_of_succ_lt_succ hrounds)).imp
        · rintro done after ⟨hdone, hafter, hothers⟩
          refine ⟨hdone, honly.trans hafter, fun other => ?_⟩
          rw [hothers other, hfat, Function.update_apply]
          by_cases hself : other = cluster
          · rw [if_pos hself, ite_self, if_pos (List.mem_cons.mpr (.inl hself))]
          · rw [if_neg hself]
            exact if_congr ⟨.tail cluster, fun hin =>
              (List.mem_cons.mp hin).resolve_left hself⟩ rfl rfl
        · rintro after ⟨hafter, hbroken, hothers⟩
          refine ⟨honly.trans hafter, hbroken, fun other hother => ?_⟩
          have hapart : other ≠ cluster := fun hsame => hother (hsame ▸ .head _)
          rw [hothers other fun hin => hother (.tail cluster hin), hfat,
            Function.update_of_ne hapart]
      · rintro after ⟨hkept, hbroken⟩
        exact ⟨hkept.fatOnly, hbroken, fun other _ =>
          congrFun (hkept.same.fat hsound) other⟩

/-- The clusters whose entries are not zero. -/
def entered (layout : Layout) (volume : SdVolume) : Finset Nat :=
  (Finset.Icc 2 (layout.clusterCount.toNat + 1)).filter fun cluster =>
    volume.fat layout (UInt32.ofNat cluster) ≠ 0

theorem mem_entered {cluster : UInt32} :
    cluster.toNat ∈ entered layout volume ↔
      layout.Cluster cluster ∧ volume.fat layout cluster ≠ 0 := by
  rw [entered, Finset.mem_filter, Finset.mem_Icc, UInt32.ofNat_toNat]
  rfl

theorem card_entered_lt {after : SdVolume} {cluster : UInt32}
    (hcluster : layout.Cluster cluster) (hused : volume.fat layout cluster ≠ 0)
    (hfat : after.fat layout = Function.update (volume.fat layout) cluster 0) :
    (entered layout after).card < (entered layout volume).card := by
  apply Finset.card_lt_card
  refine Finset.ssubset_iff_subset_ne.mpr ⟨?_, ?_⟩
  · intro place hplace
    rw [entered, Finset.mem_filter, hfat, Function.update_apply] at hplace
    rw [entered, Finset.mem_filter]
    refine ⟨hplace.1, fun hzero => hplace.2 ?_⟩
    rw [hzero, ite_self]
  · intro hsame
    have hin := mem_entered.mpr ⟨hcluster, hused⟩
    rw [← hsame, mem_entered, hfat, Function.update_self] at hin
    exact hin.2 rfl

/-- A cluster that is none of the data ends the loop. -/
theorem ends_freeLoop_reserved (hsound : layout.Sound)
    (hcoherent : Coherent layout volume) {cluster : UInt32}
    (hcluster : ¬ layout.Cluster cluster) (rounds : Nat) :
    Ends (freeLoop io layout (rounds + 1) cluster) volume (fun _ _ => False)
      (fun after => FatOnly layout volume after) := by
  rw [freeLoop]
  by_cases hlast : cluster.toNat ≤ layout.clusterCount.toNat + 1
  · apply (ends_fatGet hsound hcoherent hlast).bind
    · intro next got ⟨_, hkept⟩
      have hreserved : cluster < 2 := by
        rw [UInt32.lt_iff_toNat_lt]
        exact Nat.lt_of_not_le fun hlow => hcluster ⟨hlow, hlast⟩
      rw [fatPut, if_pos hreserved, ends_bind, ends_failure]
      exact hkept.fatOnly
    · exact fun _ hfailed => hfailed.1.fatOnly
  · have hpast : cluster > layout.clusterCount + 1 := by
      rw [gt_iff_lt, UInt32.lt_iff_toNat_lt, hsound.toNat_last]
      omega
    rw [fatGet, if_pos hpast, ends_bind, ends_failure]
    exact ⟨hcoherent, fun _ _ => rfl, rfl⟩

/-- Whatever the FAT holds, the loop ends after as many rounds as it has entries. -/
theorem ends_freeLoop_any (hsound : layout.Sound) (hcoherent : Coherent layout volume)
    {cluster : UInt32} {rounds : Nat}
    (hrounds : (entered layout volume).card + 2 ≤ rounds) :
    Ends (freeLoop io layout rounds cluster) volume
      (fun done after => done = some () ∧ FatOnly layout volume after)
      (fun after => FatOnly layout volume after) := by
  induction rounds generalizing volume cluster with
  | zero => omega
  | succ rounds ih =>
      by_cases hcluster : layout.Cluster cluster
      · rw [freeLoop_succ]
        apply (ends_freeRound hsound hcoherent hcluster).bind
        · rintro next freed ⟨rfl, honly, hfat⟩
          by_cases hend : layout.isEOC (volume.fat layout cluster) = true
          · rw [if_pos hend, ends_pure]
            exact ⟨rfl, honly⟩
          · rw [if_neg hend]
            by_cases hused : volume.fat layout cluster = 0
            · -- the entry was free, and cluster 0 is none of the data
              obtain ⟨more, rfl⟩ : ∃ more, rounds = more + 1 :=
                Nat.exists_eq_succ_of_ne_zero (by omega)
              rw [hused]
              apply (ends_freeLoop_reserved hsound honly.coherent
                (fun hzero => hzero.ne_zero rfl) more).imp
              · exact fun _ _ hfalse => hfalse.elim
              · exact fun _ hafter => honly.trans hafter
            · have hless := card_entered_lt hcluster hused hfat
              apply (ih honly.coherent (by omega)).imp
              · exact fun _ _ ⟨hdone, hafter⟩ => ⟨hdone, honly.trans hafter⟩
              · exact fun _ hafter => honly.trans hafter
        · exact fun _ hfailed => hfailed.1.fatOnly
      · apply (ends_freeLoop_reserved hsound hcoherent hcluster rounds).imp
        · exact fun _ _ hfalse => hfalse.elim
        · exact fun _ hafter => hafter

end SdVolume

end SenseBox.SD
