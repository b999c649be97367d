import SenseBox.FinalDoorSD.Log
import SenseBox.SD.Failing

namespace SenseBox.FinalDoorSD

open SenseBox.Data
open SenseBox.SD

/-! What the dump of the log shows when single reads of it fail. -/

def dump (io : ReadIo) (volume : Volume) (polls : Nat) :
    Option (List UInt8 × Volume) :=
  readBack { io with polls := polls } fileName volume

/-- The dump ends, with a part of the log from its beginning on, and with all of
it unless a read fails. -/
def DumpsLog (io : ReadIo) (volume : Volume) (content : List UInt8) : Prop :=
  ∃ polls echoed after, dump io volume polls = some (echoed, after) ∧
    echoed <+: content ∧
    ((∀ place, io.reads place .readByte = true) → echoed = content)

theorem dump_eq {volume : Volume} {content : List UInt8}
    (hholds : Holds volume entryName content) {io : ReadIo}
    (hopened : (sdOpen io.opens fileName fileRead volume).1.toBool = true) :
    ∃ file entry, Reading volume entry file ∧ file.curPosition = 0 ∧
      entry.content = content ∧
      ∀ polls, dump io volume polls =
        (echo io.reads volume polls (some file)).map fun (echoed, last) =>
          (echoed, (last.close io.closes volume).2) := by
  obtain ⟨file, entry, hopen, hreading, hstart, hcontent⟩ :=
    hholds.open_read_io rootPath hopened
  refine ⟨file, entry, hreading, hstart, hcontent, fun polls => ?_⟩
  rw [hopen] at hopened
  simp only [dump, readBack, hopen, hopened, if_true]

theorem dump_ends_iff {volume : Volume} {content : List UInt8}
    (hholds : Holds volume entryName content) {io : ReadIo}
    (hopened : (sdOpen io.opens fileName fileRead volume).1.toBool = true) :
    (∃ polls, (dump io volume polls).isSome = true) ↔
      ∃ reads, content.length ≤ succeeding io.reads reads := by
  obtain ⟨file, entry, hreading, hstart, rfl, hdump⟩ := dump_eq hholds hopened
  have hlength := hreading.length_content
  have hzero : file.curPosition.toNat = 0 := congrArg UInt32.toNat hstart
  constructor
  · rintro ⟨polls, hends⟩
    rw [hdump, Option.isSome_map] at hends
    obtain ⟨⟨echoed, last⟩, hecho⟩ := Option.isSome_iff_exists.mp hends
    obtain ⟨hcount, -⟩ := hreading.succeeding_echo hecho
    exact ⟨echoed.length, by omega⟩
  · rintro ⟨reads, henough⟩
    refine ⟨reads + 1, ?_⟩
    rw [hdump, Option.isSome_map]
    exact hreading.echo_isSome (by omega)

theorem dumpsLog_iff {volume : Volume} {content : List UInt8}
    (hholds : Holds volume entryName content) {io : ReadIo}
    (hopened : (sdOpen io.opens fileName fileRead volume).1.toBool = true) :
    DumpsLog io volume content ↔
      ∀ place, place < content.length → io.reads place .readByte = true := by
  obtain ⟨file, entry, hreading, hstart, rfl, hdump⟩ := dump_eq hholds hopened
  have hlength := hreading.length_content
  have hzero : file.curPosition.toNat = 0 := congrArg UInt32.toNat hstart
  constructor
  · rintro ⟨polls, echoed, after, hends, hfront, -⟩
    rw [hdump, Option.map_eq_some_iff] at hends
    obtain ⟨⟨bytes, last⟩, hecho, hresult⟩ := hends
    cases hresult
    obtain ⟨hcount, -⟩ := hreading.succeeding_echo hecho
    -- every failed read makes the echo longer than the log
    have hshort := hfront.length_le
    have hless := succeeding_le io.reads echoed.length
    have hfull : echoed.length = entry.content.length := by omega
    rw [← hfull]
    exact (succeeding_eq_iff io.reads echoed.length).mp (by omega)
  · intro hreads
    have hpolls : file.fileSize.toNat <
        file.curPosition.toNat + (file.fileSize.toNat + 1) := by
      omega
    obtain ⟨next, hecho, -⟩ := hreading.echo
      (fun place hplace => hreads place (by omega)) hpolls
    refine ⟨file.fileSize.toNat + 1, entry.content,
      (File.close io.closes (some next) volume).2, ?_, List.prefix_refl _,
      fun _ => rfl⟩
    rw [hdump, hecho, hzero]
    rfl

/-- The dump ends when as many reads succeed as the log has bytes, and it shows
the log when these are the first reads. -/
theorem log_dumped_iff {volume : Volume} {content : List UInt8}
    (hholds : Holds volume entryName content) {io : ReadIo}
    (hopened : (sdOpen io.opens fileName fileRead volume).1.toBool = true) :
    ((∃ polls, (dump io volume polls).isSome = true) ↔
      ∃ reads, content.length ≤ succeeding io.reads reads) ∧
    (DumpsLog io volume content ↔
      ∀ place, place < content.length → io.reads place .readByte = true) :=
  ⟨dump_ends_iff hholds hopened, dumpsLog_iff hholds hopened⟩

def shortEntry : DirEntry :=
  { DirEntry.create entryName with
    chain := fun _ => 0x41
    fileSize := 1 }

def shortCard : Volume := { emptyCard with root := [shortEntry] }

theorem holds_shortCard : Holds shortCard entryName [0x41] :=
  ⟨0, shortEntry, by decide, rfl,
    ⟨(regular_create entryName).isFile, (regular_create entryName).writable⟩,
    rfl⟩

theorem opened_shortCard :
    (sdOpen (fun _ => .ok) fileName fileRead shortCard).1.toBool = true := by
  obtain ⟨file, entry, hopen, hreading, -⟩ := holds_shortCard.open_read rootPath
  rw [hopen]
  simp [File.toBool, SdFile.isOpen, hreading.type]

theorem log_dumped_short : DumpsLog quietReadBack shortCard [0x41] :=
  (log_dumped_iff holds_shortCard opened_shortCard).2.mpr fun _ _ => rfl

def unreadable : ReadIo :=
  { quietReadBack with reads := fun _ => { Io.ok with succeeds := fun _ => false } }

/-- A card that cannot be read any more keeps the dump going for ever. -/
theorem dump_endless : (∀ polls, dump unreadable shortCard polls = none) ∧
    ¬ ∀ (volume : Volume) (content : List UInt8) (io : ReadIo),
      Holds volume entryName content →
      (sdOpen io.opens fileName fileRead volume).1.toBool = true →
      DumpsLog io volume content := by
  have hendless : ∀ polls, dump unreadable shortCard polls = none := by
    intro polls
    by_contra hends
    obtain ⟨reads, henough⟩ :=
      (dump_ends_iff holds_shortCard opened_shortCard).mp
        ⟨polls, Option.isSome_iff_ne_none.mpr hends⟩
    have hnone : succeeding unreadable.reads reads = 0 := by
      simp [succeeding, unreadable]
    rw [hnone] at henough
    exact absurd henough (by decide)
  refine ⟨hendless, fun hdumps => ?_⟩
  obtain ⟨polls, echoed, after, hends, -⟩ :=
    hdumps shortCard [0x41] unreadable holds_shortCard opened_shortCard
  rw [hendless polls] at hends
  cases hends

end SenseBox.FinalDoorSD
