import SenseBox.SD.Session
import SenseBox.SD.SmallCard

namespace SenseBox.SD

open SenseBox.Data
open SdVolume

/-! The root directory of FAT16 on a card that has been started, with the files that are
known then. -/

def FatFile.root16 (layout : Layout) : FatFile where
  flags := oRead
  type := .root16
  curCluster := 0
  curPosition := 0
  dirBlock := 0
  dirIndex := 0
  fileSize := root16Size layout.rootDirEntryCount
  firstCluster := 0

variable {layout : Layout} {io : Accesses} {rounds : Nat} {volume : SdVolume}

theorem FatFile.ends_openRoot (htype : layout.fatType = .fat16) :
    Ends (openRoot io layout rounds) (volume, closedFile)
      (fun done after => done = some () ∧ after = (volume, root16 layout))
      (fun _ => False) := by
  rw [openRoot, ends_bind, ends_getFile, htype]
  exact ⟨rfl, rfl⟩

/-- The directory lies between the FATs and the clusters. -/
theorem bootSector_root {first : UInt32} {block : Block}
    (hboot : bootSector first block = some (some layout))
    (hformatted : Formatted first block layout) (htype : layout.fatType = .fat16)
    (hcount : 32 * layout.rootDirEntryCount.toNat + 511 < 2 ^ 16) :
    layout.fatStartBlock.toNat + layout.fatCount.toNat * layout.blocksPerFat.toNat ≤
        layout.rootDirStart.toNat ∧
      layout.rootDirStart.toNat + (layout.rootDirEntryCount.toNat + 15) / slotsPerBlock ≤
        layout.dataStartBlock.toNat := by
  obtain ⟨hcard, hroom, -⟩ := hformatted
  unfold bootSector at hboot
  split at hboot
  · cases hboot
  · obtain ⟨shift, -, hlayout⟩ := Option.map_eq_some_iff.mp hboot
    obtain ⟨hstart, hdata⟩ :=
      toNat_dataStart (by omega : first.toNat + systemBlocks block < 2 ^ 32)
    unfold bootLayout at hlayout
    dsimp only at hlayout
    split at hlayout
    · cases hlayout
    · cases hlayout
      dsimp only at htype hcount ⊢
      split at htype
      · next hless =>
        have hroot : (blocksOfRoot block).toNat =
            ((bootWord block 17).toNat + 15) / slotsPerBlock := by
          have hnumbers : (32 : UInt16).toNat = 32 ∧ (511 : UInt16).toNat = 511 ∧
            (512 : UInt16).toNat = 512 := by decide
          rw [blocksOfRoot, UInt16.toNat_div, UInt16.toNat_add, UInt16.toNat_mul, hnumbers.1,
            hnumbers.2.1, hnumbers.2.2]
          unfold slotsPerBlock
          omega
        have hfats : ((block 16).toUInt32 * blocksOfFat block).toNat =
            (block 16).toNat * (blocksOfFat block).toNat := by
          rw [UInt32.toNat_mul, UInt8.toNat_toUInt32]
          unfold systemBlocks at hroom
          exact Nat.mod_eq_of_lt (by omega)
        have hrootStart : (first + (bootWord block 14).toUInt32 +
            (block 16).toUInt32 * blocksOfFat block).toNat =
              first.toNat + (bootWord block 14).toNat +
                (block 16).toNat * (blocksOfFat block).toNat := by
          unfold systemBlocks at hroom
          rw [UInt32.toNat_add, hstart, hfats]
          exact Nat.mod_eq_of_lt (by omega)
        rw [if_pos hless, hstart, hdata, hrootStart, systemBlocks, hroot]
        omega
      · cases htype

theorem directory_root16
    (hroot : layout.fatStartBlock.toNat +
      layout.fatCount.toNat * layout.blocksPerFat.toNat ≤ layout.rootDirStart.toNat)
    (hdata : layout.rootDirStart.toNat +
      (layout.rootDirEntryCount.toNat + 15) / slotsPerBlock ≤ layout.dataStartBlock.toNat)
    (table : UInt32 → UInt32) :
    Directory layout table [] (FatFile.root16 layout) layout.rootDirEntryCount.toNat where
  isDir := rfl
  flags := rfl
  size := by
    have hlt := layout.rootDirEntryCount.toNat_lt
    change (32 * layout.rootDirEntryCount.toUInt32).toNat = _
    rw [UInt32.toNat_mul, UInt16.toNat_toUInt32]
    exact Nat.mod_eq_of_lt (by change 32 * _ < _; omega)
  apart _ := ⟨rfl, hroot, hdata⟩
  chained := .nil _ _
  first htype := absurd rfl htype
  whole htype := absurd rfl htype

/-- What is known of a directory with these names: the others are not there. -/
def Files.listing (names : List Name) : Files where
  entry name := if name ∈ names then .unknown else .absent
  slots := names.length
  spare := false
  current := .closed

/-- No file of a directory needs to be open for this to be so. -/
theorem Directory.agreed {extent : List UInt32} {dir : FatFile} {count : Nat}
    (hdirectory : Directory layout (volume.fat layout) extent dir count)
    (hcoherent : Coherent layout volume) (hstartable : Startable layout volume)
    (htidy : Tidy (namesOf layout extent dir.type volume count)) :
    Agreed layout (volume, dir, FatFile.closedFile)
      (Files.listing (namesOf layout extent dir.type volume count)) := by
  refine ⟨fun _ => 0, fun _ => [], extent, count, fun _ => FatFile.closedFile, fun _ => none,
    ⟨⟨hcoherent, hstartable, fun hview => absurd hview.symm (Option.some_ne_none _),
      fun hopen => absurd rfl hopen, fun _ hopen => absurd rfl hopen,
      fun _ hopen => absurd rfl hopen, fun hopen => absurd rfl hopen⟩, hdirectory,
      fun hopen => absurd rfl hopen, htidy, fun hopen => absurd rfl hopen⟩,
    length_namesOf.ge, fun hspare => absurd hspare Bool.false_ne_true, ?_,
    ⟨rfl, fun _ hopen => absurd rfl hopen⟩, ?_⟩
  · intro name hused
    unfold Files.listing
    dsimp only
    split
    · trivial
    · next hmissing =>
      rintro slot hslot rfl
      exact hmissing (List.mem_of_getElem? (getElem?_namesOf hslot))
  · intro name site hsite
    exact absurd hsite.symm (Option.some_ne_none site)

/-- After the card has been started and its root directory opened, each name that is not
in the directory is known to be absent. -/
theorem started_agreed {started : SdVolume} {opened : FatFile.Opened} {part : UInt8}
    {first : UInt32}
    (hinit : observe (init io part) (some (some layout)) (powerOn volume) = some started)
    (hpart : partitionOf volume.blocks part = some first)
    (hformatted : Formatted first (volume.blocks first) layout)
    (hcopied : Copied layout volume.blocks) (htype : layout.fatType = .fat16)
    (hcount : 32 * layout.rootDirEntryCount.toNat + 511 < 2 ^ 16)
    (htidy : Tidy (namesOf layout [] .root16 started layout.rootDirEntryCount.toNat))
    (hroot : observe (FatFile.openRoot io layout rounds) (some (some ()))
      (started, FatFile.closedFile) = some opened) :
    layout.Sound ∧ Agreed layout (opened.1, opened.2, FatFile.closedFile)
      (Files.listing (namesOf layout [] .root16 started layout.rootDirEntryCount.toNat)) := by
  obtain ⟨-, hformat, hprepared⟩ := init_prepares hinit
  have hready := hprepared layout rfl
  have hsound := hready.sound first hpart hformatted
  rw [formatOf, hpart, Option.bind_some] at hformat
  obtain ⟨hfats, hdata⟩ := bootSector_root hformat hformatted htype hcount
  obtain ⟨-, rfl⟩ :=
    ((FatFile.ends_openRoot htype).observed hroot).1 (some ()) rfl
  exact ⟨hsound, (directory_root16 hfats hdata _).agreed (hready.coherent hcopied)
    hready.startable htidy⟩

/-! A session on the small card. -/

def newSession : FatFile.Opening :=
  (blankVolume, FatFile.root16 smallLayout, FatFile.closedFile)

theorem nameAt_blank {slot : Nat} (hslot : slot < 16) :
    nameAt smallLayout [] .root16 blankVolume slot = Vector.replicate 11 0 := by
  have hblock : slotBlock smallLayout [] .root16 slot = 34 := by
    have hdiv : slot / slotsPerBlock = 0 := Nat.div_eq_of_lt hslot
    rw [slotBlock, if_pos rfl, hdiv]
    rfl
  have hblank : blankVolume.memory 34 = fun _ => 0 := by
    rw [blankVolume_memory (by decide), smallCard_blank (by decide) (by decide)]
  apply Vector.ext
  intro place hplace
  rw [nameAt, hblock, hblank, slotName, Vector.getElem_ofFn, Vector.getElem_replicate]

theorem namesOf_blank : namesOf smallLayout [] .root16 blankVolume 16 =
    List.replicate 16 (Vector.replicate 11 0) := by
  rw [namesOf, List.eq_replicate_iff]
  refine ⟨by rw [List.length_map, List.length_range], fun name hname => ?_⟩
  obtain ⟨slot, hslot, rfl⟩ := List.mem_map.mp hname
  exact nameAt_blank (List.mem_range.mp hslot)

def noFiles : Files := Files.listing (List.replicate 16 (Vector.replicate 11 0))

theorem newSession_agreed : Agreed smallLayout newSession noFiles := by
  have hroot : observe (FatFile.openRoot (fun _ _ => true) smallLayout 4085) (some (some ()))
      (blankVolume, FatFile.closedFile) = some (blankVolume, FatFile.root16 smallLayout) := rfl
  have htidy : Tidy (namesOf smallLayout [] .root16 blankVolume 16) := by
    rw [namesOf_blank]
    exact List.pairwise_replicate.mpr (.inr ⟨fun hfree => hfree, fun _ => .inl rfl⟩)
  have hagreed := (started_agreed (smallPower_init fun _ _ => rfl) rfl smallCard_formatted
    smallCard_copied rfl (by decide) htidy hroot).2
  have hnames : namesOf smallLayout [] .root16 blankVolume
      smallLayout.rootDirEntryCount.toNat = List.replicate 16 (Vector.replicate 11 0) :=
    namesOf_blank
  rw [hnames] at hagreed
  exact hagreed

end SenseBox.SD
