import SenseBox.SD.SdFile

namespace SenseBox.SD

open SenseBox.Data

/-! The `File` and `SDClass` of the SD library.  A `File` holds a pointer to a
handle, which is null when the file could not be opened. -/

abbrev File := Option SdFile

namespace File

def toBool (file : File) : Bool :=
  match file with
  | none => false
  | some handle => handle.isOpen

def write (io : Io) (buf : Text) (file : File) (volume : Volume) :
    Nat × File × Volume :=
  match file with
  | none => (0, none, volume)
  | some handle =>
      let (count, handle, volume) := handle.write io buf volume
      (count, some handle, volume)

def printAll (io : Nat → Io) : List Text → File → Volume → File × Volume
  | [], file, volume => (file, volume)
  | buf :: rest, file, volume =>
      let (_, file, volume) := file.write (io rest.length) buf volume
      printAll io rest file volume

def read (io : Io) (file : File) (volume : Volume) : Option UInt8 × File :=
  match file with
  | none => (none, none)
  | some handle =>
      let (byte, handle) := handle.read io volume
      (byte, some handle)

/-- What `available` reports: the bytes left, as far as an `int` holds them. -/
def available (file : File) : Int16 :=
  match file with
  | none => 0
  | some handle =>
      let left := handle.fileSize - handle.curPosition
      if left > 0x7FFF then 0x7FFF else left.toUInt16.toInt16

def close (io : Io) (file : File) (volume : Volume) : File × Volume :=
  match file with
  | none => (none, volume)
  | some handle => (none, (handle.close io volume).2.2)

end File

/-! Paths.  The outcomes of a call are given level by level of the path. -/

theorem ne_nil_of_rest {path : Text}
    (hrest : (getNextPathComponent path).2 ≠ []) : path ≠ [] := by
  rintro rfl
  exact hrest rfl

/-- `walkPath` with a callback that leaves the card as it is. -/
def walkPath (io : Nat → Io)
    (callback : Nat → SdFile → Text → Bool → Volume → Bool)
    (level : Nat) (parentDir : SdFile) (filepath : Text)
    (volume : Volume) : Bool :=
  let component := (getNextPathComponent filepath).1
  let rest := (getNextPathComponent filepath).2
  if !callback level parentDir component (rest == []) volume then false
  else if _hrest : rest = [] then true
  else
    match SdFile.openIn (io level) parentDir component oRdonly volume with
    | (none, _) => false
    | (some child, volume) =>
        walkPath io callback (level + 1) child rest volume
termination_by filepath.length
decreasing_by
  exact length_getNextPathComponent_lt (ne_nil_of_rest _hrest)

def callbackPathExists (io : Nat → Io) (level : Nat) (parentDir : SdFile)
    (filePathComponent : Text) (_isLastComponent : Bool)
    (volume : Volume) : Bool :=
  (SdFile.openIn (io level) parentDir filePathComponent oRdonly volume).1.isSome

/-- The directory that holds the file, and the name of the file in it; `none`
when a directory on the way cannot be opened. -/
def getParentDir (io : Nat → Io) (level : Nat) (parent : SdFile)
    (filepath : Text) (volume : Volume) : Option SdFile × Text :=
  if slash ∉ filepath then (some parent, filepath)
  else
    match filepath with
    | [] => (some parent, [])
    | c :: rest =>
        if _hslash : c = slash then getParentDir io level parent rest volume
        else
          let subdirname :=
            ((c :: rest).takeWhile (· ≠ slash)).take maxComponentLen
          match SdFile.openIn (io level) parent subdirname oRead volume with
          | (none, _) => (none, c :: rest)
          | (some subdir, _) =>
              getParentDir io (level + 1) subdir
                ((c :: rest).drop subdirname.length) volume
termination_by filepath.length
decreasing_by
  · simp
  · rw [List.takeWhile_cons_of_pos (by simpa using _hslash)]
    simp only [maxComponentLen, List.take_succ_cons, List.length_cons,
      List.length_drop]
    omega

/-! The two methods of the global object `SD` the sketches use. -/

/-- Opens a file; the handle of a file opened for writing is moved to the end,
whether or not that succeeds. -/
def sdOpen (io : Nat → Io) (filepath : Text) (mode : UInt8) (volume : Volume) :
    File × Volume :=
  match getParentDir (io ∘ (· + 1)) 0 (.openRoot volume) filepath volume with
  | (none, _) => (none, volume)
  | (some parentdir, []) => (some parentdir, volume)
  | (some parentdir, filename) =>
      match SdFile.openIn (io 0) parentdir filename mode volume with
      | (none, volume) => (none, volume)
      | (some file, volume) =>
          if mode &&& (oAppend ||| oWrite) ≠ 0 then
            (some (file.seekSet (io 0) file.fileSize).2, volume)
          else (some file, volume)

def sdExists (io : Nat → Io) (filepath : Text) (volume : Volume) : Bool :=
  walkPath io (callbackPathExists io) 0 (.openRoot volume) filepath volume

end SenseBox.SD
