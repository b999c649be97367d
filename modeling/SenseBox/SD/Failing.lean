import SenseBox.SD.InvalidName

namespace SenseBox.SD

open SenseBox.Data
open SdFile

/-! Reading a file back when single accesses may fail. -/

theorem openIn_failed {filepath : Text} {name : Name}
    (hpath : RootPath filepath name) {io : Io} {volume : Volume}
    (hfailed : search io name volume.root 0 none = .failed) (oflag : UInt8) :
    openIn io (openRoot volume) filepath oflag volume = (none, volume) := by
  simp only [openIn, hpath.short, isDir_openRoot, listed_openRoot, Volume.dir,
    hfailed, Bool.not_true, Bool.false_eq_true, if_false]

theorem search_found_io {io : Io} {name : Name} {volume : Volume} {index : Nat}
    (hfound : search .ok name volume.root 0 none = .found index)
    (hsearch : search io name volume.root 0 none ≠ .failed) :
    search io name volume.root 0 none = .found index :=
  ((search_failed_or_ok io name volume.root 0 none).resolve_left hsearch).trans
    hfound

def succeeding (io : Nat → Io) (reads : Nat) : Nat :=
  (List.range reads).countP fun place => io place .readByte

theorem succeeding_succ (io : Nat → Io) (reads : Nat) :
    succeeding io (reads + 1) = (if io 0 .readByte then 1 else 0) +
      succeeding (fun later => io (later + 1)) reads := by
  rw [succeeding, List.range_succ_eq_map, List.countP_cons, List.countP_map,
    Nat.add_comm]
  rfl

theorem succeeding_le (io : Nat → Io) (reads : Nat) :
    succeeding io reads ≤ reads := by
  have hle := List.countP_le_length
    (p := fun place => io place .readByte) (l := List.range reads)
  rwa [List.length_range] at hle

theorem succeeding_eq_iff (io : Nat → Io) (reads : Nat) :
    succeeding io reads = reads ↔
      ∀ place, place < reads → io place .readByte = true := by
  have hall := List.countP_eq_length
    (p := fun place => io place .readByte) (l := List.range reads)
  rw [List.length_range] at hall
  simp only [List.mem_range] at hall
  exact hall

/-- As many reads succeed as there are bytes left. -/
theorem Reading.succeeding_echo {volume : Volume} {entry : DirEntry}
    {polls : Nat} {io : Nat → Io} {file : SdFile}
    (hreading : Reading volume entry file) {echoed : List UInt8} {last : File}
    (hecho : SD.echo io volume polls (some file) = some (echoed, last)) :
    file.fileSize.toNat =
        file.curPosition.toNat + succeeding io echoed.length ∧
      ∃ next, last = some next ∧ Reading volume entry next := by
  induction polls generalizing file io echoed with
  | zero => cases hecho
  | succ polls ih =>
      rcases hreading.inside_or_done with hinside | hdone
      · obtain ⟨byte, middle, hstep, hmiddle, hsize, hposition, -⟩ :=
          hreading.echo_step hinside io polls
        rw [hstep, Option.map_eq_some_iff] at hecho
        obtain ⟨⟨rest, final⟩, hrest, hechoed⟩ := hecho
        cases hechoed
        obtain ⟨hcount, hlast⟩ := ih hmiddle hrest
        have hend := congrArg UInt32.toNat hsize
        refine ⟨?_, hlast⟩
        rw [List.length_cons, succeeding_succ]
        omega
      · rw [echo_done hdone] at hecho
        cases hecho
        exact ⟨congrArg UInt32.toNat hdone, file, rfl, hreading⟩

theorem Reading.echo_isSome {volume : Volume} {entry : DirEntry} {polls : Nat}
    {io : Nat → Io} {file : SdFile} (hreading : Reading volume entry file)
    (henough : file.fileSize.toNat ≤
      file.curPosition.toNat + succeeding io polls) :
    (SD.echo io volume (polls + 1) (some file)).isSome = true := by
  induction polls generalizing file io with
  | zero =>
      have hdone : file.fileSize = file.curPosition := by
        apply UInt32.toNat_inj.mp
        have hbounded := UInt32.le_iff_toNat_le.mp hreading.bounded
        have hnone : succeeding io 0 = 0 := rfl
        omega
      rw [echo_done hdone, Option.isSome_some]
  | succ polls ih =>
      rcases hreading.inside_or_done with hinside | hdone
      · obtain ⟨byte, middle, hstep, hmiddle, hsize, hposition, -⟩ :=
          hreading.echo_step hinside io (polls + 1)
        have hend := congrArg UInt32.toNat hsize
        rw [succeeding_succ] at henough
        rw [hstep, Option.isSome_map]
        exact ih hmiddle (by omega)
      · rw [echo_done hdone, Option.isSome_some]

theorem Holds.open_read_io {filepath : Text} {name : Name}
    (hpath : RootPath filepath name) {volume : Volume} {content : List UInt8}
    (hholds : Holds volume name content) {io : Nat → Io}
    (hopened : (sdOpen io filepath fileRead volume).1.toBool = true) :
    ∃ file entry, sdOpen io filepath fileRead volume = (some file, volume) ∧
      Reading volume entry file ∧ file.curPosition = 0 ∧
      entry.content = content := by
  obtain ⟨index, entry, hfound, hentry, hregular, rfl⟩ := hholds
  by_cases hsearch : search (io 0) name volume.root 0 none = .failed
  · have hnone : sdOpen io filepath fileRead volume = (none, volume) := by
      have hopen := openIn_failed hpath hsearch fileRead
      obtain ⟨head, tail, rfl⟩ := List.exists_cons_of_ne_nil hpath.nonempty
      simp [sdOpen, getParentDir_root hpath.noSlash, hopen]
    rw [hnone] at hopened
    cases hopened
  · exact ⟨rootHandle index entry oRead 0, entry,
      sdOpen_read hpath hregular
        (openIn_found hpath (search_found_io hfound hsearch) hentry fileRead
          (by decide)),
      ⟨hentry, rfl, rfl, rfl, rfl, rfl, rfl, UInt32.zero_le⟩, rfl, rfl⟩

end SenseBox.SD
