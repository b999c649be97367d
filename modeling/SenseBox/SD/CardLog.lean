import SenseBox.SD.CreateRead

namespace SenseBox.SD

open SenseBox.Data
open SdFile

/-! What the sketches do with a log file on the card: open it for writing,
print into it and close it; and open it again to echo it to `Serial`. -/

structure WriteIo where
  opens : Nat → Io
  prints : Nat → Io
  closes : Io

structure ReadIo where
  opens : Nat → Io
  reads : Nat → Io
  polls : Nat
  closes : Io

def WriteIo.ok : WriteIo where
  opens := fun _ => .ok
  prints := fun _ => .ok
  closes := .ok

/-- No access fails, and the loop is polled often enough for any file. -/
structure ReadIo.Ok (io : ReadIo) : Prop where
  opens : io.opens = fun _ => .ok
  reads : io.reads = fun _ => .ok
  polls : 2 ^ 32 ≤ io.polls
  closes : io.closes = .ok

/-- Opening for writing, printing and closing; a file that could not be opened
takes the prints and the close without effect. -/
def writeTo (io : WriteIo) (filepath : Text) (chunks : List Text)
    (volume : Volume) : Volume :=
  let (file, volume) := sdOpen io.opens filepath fileWrite volume
  let (file, volume) := file.printAll io.prints chunks volume
  (file.close io.closes volume).2

/-- `while (myFile.available()) Serial.write(myFile.read());`: the bytes written
to `Serial`, a failed read being the byte of `-1`; `none` if the loop goes on
after the given number of polls. -/
def echo (io : Nat → Io) (volume : Volume) :
    Nat → File → Option (List UInt8 × File)
  | 0, _ => none
  | polls + 1, file =>
      if file.available = 0 then some ([], file)
      else
        let (byte, file) := file.read (io 0) volume
        (echo (fun later => io (later + 1)) volume polls file).map
          fun (echoed, file) => (byte.getD 0xFF :: echoed, file)

def readBack (io : ReadIo) (filepath : Text) (volume : Volume) :
    Option (List UInt8 × Volume) :=
  let (file, volume) := sdOpen io.opens filepath fileRead volume
  if file.toBool then
    (echo io.reads volume io.polls file).map fun (echoed, file) =>
      (echoed, (file.close io.closes volume).2)
  else some ([], volume)

theorem Usable.writeTo {filepath : Text} {name : Name}
    (hpath : RootPath filepath name) {volume : Volume} {content : List UInt8}
    (husable : Usable volume name content) {chunks : List Text}
    (hfits : content.length + chunks.flatten.length < 2 ^ 32) :
    Holds (writeTo .ok filepath chunks volume) name
      (content ++ chunks.flatten) := by
  obtain ⟨file, opened, hopen, hattached, hend⟩ := husable.open_write hpath
  obtain ⟨next, printed, hprint, hnext, hprinted⟩ := hattached.printAll chunks
  obtain ⟨closed, hclose, -, hclosed⟩ := hnext.close
  simp only [SD.writeTo, WriteIo.ok, hopen, hprint, hclose]
  exact hclosed _ (hprinted content hend hfits)

/-- One more iteration of the loop: a read that succeeds echoes the next byte of
the file, and one that fails echoes the byte of `-1`. -/
theorem Reading.echo_step {volume : Volume} {entry : DirEntry} {file : SdFile}
    (hreading : Reading volume entry file)
    (hinside : file.curPosition < file.fileSize) (io : Nat → Io) (polls : Nat) :
    ∃ byte middle, SD.echo io volume (polls + 1) (some file) =
        (SD.echo (fun later => io (later + 1)) volume polls (some middle)).map
          (fun (echoed, last) => (byte :: echoed, last)) ∧
      Reading volume entry middle ∧ middle.fileSize = file.fileSize ∧
      middle.curPosition.toNat = file.curPosition.toNat +
        (if io 0 .readByte then 1 else 0) ∧
      (io 0 .readByte = true → byte = entry.chain file.curPosition.toNat) := by
  have hmore : ¬ File.available (some file) = 0 := by
    rw [available_eq_zero]
    rintro hdone
    rw [hdone] at hinside
    exact absurd hinside (UInt32.lt_irrefl _)
  obtain ⟨next, hread, hnext, hposition⟩ := hreading.read hinside
  cases hbyte : io 0 .readByte with
  | true =>
      refine ⟨entry.chain file.curPosition.toNat, next, ?_, hnext,
        hnext.size.trans hreading.size.symm, hposition, fun _ => rfl⟩
      rw [SD.echo, if_neg hmore, hreading.read_io hinside, hbyte, if_pos rfl,
        hread]
      rfl
  | false =>
      refine ⟨0xFF, file, ?_, hreading, rfl, rfl, ?_⟩
      · rw [SD.echo, if_neg hmore, hreading.read_io hinside, hbyte]
        rfl
      · intro hsucceeds
        cases hsucceeds

theorem echo_done {file : SdFile} (hdone : file.fileSize = file.curPosition)
    (io : Nat → Io) (volume : Volume) (polls : Nat) :
    echo io volume (polls + 1) (some file) = some ([], some file) := by
  rw [echo, if_pos ((available_eq_zero file).mpr hdone)]

theorem Reading.inside_or_done {volume : Volume} {entry : DirEntry}
    {file : SdFile} (hreading : Reading volume entry file) :
    file.curPosition < file.fileSize ∨ file.fileSize = file.curPosition := by
  by_cases hdone : file.fileSize = file.curPosition
  · exact .inr hdone
  · exact .inl (UInt32.lt_of_le_of_ne hreading.bounded (Ne.symm hdone))

/-- The rest of the file is echoed when the reads of its bytes succeed. -/
theorem Reading.echo {volume : Volume} {entry : DirEntry} {polls : Nat}
    {io : Nat → Io} {file : SdFile} (hreading : Reading volume entry file)
    (hreads : ∀ place,
      file.curPosition.toNat + place < file.fileSize.toNat →
        io place .readByte = true)
    (hpolls : file.fileSize.toNat < file.curPosition.toNat + polls) :
    ∃ next, echo io volume polls (some file) =
        some (entry.content.drop file.curPosition.toNat, some next) ∧
      Reading volume entry next := by
  induction polls generalizing file io with
  | zero =>
      have := UInt32.le_iff_toNat_le.mp hreading.bounded
      omega
  | succ polls ih =>
      rcases hreading.inside_or_done with hinside | hdone
      · have hlt := UInt32.lt_iff_toNat_lt.mp hinside
        have hfirst := hreads 0 hlt
        obtain ⟨byte, middle, hstep, hmiddle, hsize, hposition, hbyte⟩ :=
          hreading.echo_step hinside io polls
        rw [if_pos hfirst] at hposition
        have hend := congrArg UInt32.toNat hsize
        have hlater : ∀ place,
            middle.curPosition.toNat + place < middle.fileSize.toNat →
              io (place + 1) .readByte = true :=
          fun place hplace => hreads (place + 1) (by omega)
        obtain ⟨next, hrest, hnext⟩ := ih hmiddle hlater (by omega)
        refine ⟨next, ?_, hnext⟩
        have hlength : file.curPosition.toNat < entry.content.length := by
          rw [hreading.length_content]
          exact hlt
        rw [hstep, hrest, hbyte hfirst, hposition,
          List.drop_eq_getElem_cons hlength]
        simp [DirEntry.content]
      · refine ⟨file, ?_, hreading⟩
        rw [echo_done hdone, List.drop_of_length_le
          (by rw [hreading.length_content, hdone])]

/-- The read-back shows the whole file and leaves the card as it is. -/
theorem Holds.readBack {filepath : Text} {name : Name}
    (hpath : RootPath filepath name) {volume : Volume} {content : List UInt8}
    (hholds : Holds volume name content) {io : ReadIo} (hio : io.Ok) :
    readBack io filepath volume = some (content, volume) := by
  obtain ⟨file, entry, hopen, hreading, hstart, rfl⟩ := hholds.open_read hpath
  obtain ⟨next, hecho, hnext⟩ := hreading.echo (fun _ _ => Io.ok_apply _) (by
    have hbound := file.fileSize.toNat_lt
    have hpolls := hio.polls
    show file.fileSize.toNat < file.curPosition.toNat + io.polls
    omega)
  have htrue : File.toBool (some file) = true := by
    simp [File.toBool, isOpen, hreading.type]
  simp only [SD.readBack, hio.opens, hio.reads, hio.closes, hopen, htrue,
    if_true, hecho, hstart]
  simp [File.close, SdFile.close, sync, isOpen, hnext.type, hnext.clean]

end SenseBox.SD
