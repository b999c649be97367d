import SenseBox.SD.Volume

namespace SenseBox.SD

open SenseBox.Data

/-! Open flags and the handle of an open file or directory. -/

def oRead : UInt8 := 0x01
def oRdonly : UInt8 := oRead
def oWrite : UInt8 := 0x02
def oAccmode : UInt8 := oRead ||| oWrite
def oAppend : UInt8 := 0x04
def oSync : UInt8 := 0x08
def oCreat : UInt8 := 0x10
def oExcl : UInt8 := 0x20
def oTrunc : UInt8 := 0x40

def fileRead : UInt8 := oRead
def fileWrite : UInt8 := oRead ||| oWrite ||| oCreat

inductive FileType where
  | closed
  | normal
  | root16
  | root32
  | subdir
  deriving DecidableEq

/-- `chainPos` is the place in the cluster chain at which the handle stands
(`curCluster_` and the offset in it); `curPosition` is its 32-bit count. -/
structure SdFile where
  type : FileType
  flags : UInt8
  dirty : Bool
  dir : DirRef
  dirIndex : Nat
  firstCluster : UInt32
  fileSize : UInt32
  curPosition : UInt32
  chainPos : Nat

namespace SdFile

def isOpen (file : SdFile) : Bool := file.type != .closed

def isFile (file : SdFile) : Bool := file.type == .normal

def isRoot (file : SdFile) : Bool :=
  file.type == .root16 || file.type == .root32

def isDir (file : SdFile) : Bool := file.isRoot || file.type == .subdir

def closed : SdFile where
  type := .closed
  flags := 0
  dirty := false
  dir := .root
  dirIndex := 0
  firstCluster := 0
  fileSize := 0
  curPosition := 0
  chainPos := 0

def openRoot (volume : Volume) : SdFile where
  type := match volume.fatType with
    | .fat16 => .root16
    | .fat32 => .root32
  flags := oRead
  dirty := false
  dir := .root
  dirIndex := 0
  firstCluster := 0
  fileSize := 0
  curPosition := 0
  chainPos := 0

def listed (file : SdFile) : DirRef :=
  if file.isRoot then .root else .sub file.firstCluster

def sync (io : Io) (file : SdFile) (volume : Volume) : Bool × SdFile × Volume :=
  if !file.isOpen then (false, file, volume)
  else if file.dirty then
    match volume.entry? file.dir file.dirIndex with
    | none => (false, file, volume)
    | some entry =>
        if !io .dirEntry then (false, file, volume)
        else
          -- the entry stays in the cache where it cannot be written
          let entry :=
            if file.isDir then entry
            else { entry with fileSize := file.fileSize }
          (io .flush, { file with dirty := false },
            volume.setEntry file.dir file.dirIndex entry)
  else (io .flush, file, volume)

def close (io : Io) (file : SdFile) (volume : Volume) : Bool × SdFile × Volume :=
  match file.sync io volume with
  | (true, file, volume) => (true, { file with type := .closed }, volume)
  | (false, file, volume) => (false, file, volume)

def seekSet (io : Io) (pos : UInt32) (file : SdFile) : Bool × SdFile :=
  if !file.isOpen || pos > file.fileSize then (false, file)
  else if pos = 0 then (true, { file with curPosition := 0, chainPos := 0 })
  else if !io .seek then (false, file)
  else (true, { file with curPosition := pos, chainPos := pos.toNat })

/-- Truncation to length zero, the one use the library makes of it. -/
def truncateZero (io : Io) (file : SdFile) (volume : Volume) :
    Bool × SdFile × Volume :=
  if !file.isFile || file.flags &&& oWrite = 0 then (false, file, volume)
  else if file.fileSize = 0 then (true, file, volume)
  else if !io .freeChain then (false, file, io.torn volume)
  else
    let file := { file with
      fileSize := 0, dirty := true, curPosition := 0, chainPos := 0 }
    match file.sync io volume with
    | (true, file, volume) => (true, file, volume)
    | (false, file, volume) => (false, file, io.torn volume)

def openCachedEntry (io : Io) (ref : DirRef) (index : Nat) (oflag : UInt8)
    (entry : DirEntry) (volume : Volume) : Option SdFile × Volume :=
  if entry.attributes &&& (attReadOnly ||| attDirectory) ≠ 0 &&
      oflag &&& (oWrite ||| oTrunc) ≠ 0 then (none, volume)
  else
    let file : SdFile := {
      type := .normal
      flags := oflag &&& (oAccmode ||| oSync ||| oAppend)
      dirty := false
      dir := ref
      dirIndex := index
      firstCluster := entry.firstCluster
      fileSize := entry.fileSize
      curPosition := 0
      chainPos := 0 }
    if entry.isFile then
      if oflag &&& oTrunc ≠ 0 then
        match file.truncateZero io volume with
        | (true, file, volume) => (some file, volume)
        | (false, _, volume) => (none, volume)
      else (some file, volume)
    else if entry.isSubdir then
      if io .chainSize then
        (some { file with
          type := .subdir
          fileSize :=
            UInt32.ofNat (32 * (volume.sub entry.firstCluster).length) },
          volume)
      else (none, volume)
    else (none, volume)

def createAt (io : Io) (ref : DirRef) (index : Nat) (oflag : UInt8)
    (dname : Name) (volume : Volume) : Option SdFile × Volume :=
  let entry := DirEntry.create dname
  let volume := volume.setEntry ref index entry
  -- the entry stays in the cache where it cannot be written
  if !io .flush then (none, volume)
  else openCachedEntry io ref index oflag entry volume

def openIn (io : Io) (dirFile : SdFile) (fileName : Text) (oflag : UInt8)
    (volume : Volume) : Option SdFile × Volume :=
  match make83Name fileName with
  | none => (none, volume)
  | some dname =>
      if !dirFile.isDir then (none, volume)
      else
        let ref := dirFile.listed
        let slots := volume.dir ref
        match search io dname slots 0 none with
        | .failed => (none, volume)
        | .found index =>
            if oflag &&& (oCreat ||| oExcl) = oCreat ||| oExcl then
              (none, volume)
            else
              match slots[index]? with
              | none => (none, volume)
              | some entry => openCachedEntry io ref index oflag entry volume
        | .absent empty =>
            if oflag &&& (oCreat ||| oWrite) ≠ oCreat ||| oWrite then
              (none, volume)
            else
              match empty with
              | some index =>
                  if !io .dirEntry then (none, volume)
                  else createAt io ref index oflag dname volume
              | none =>
                  -- a FAT16 root cannot grow, any other directory can
                  if dirFile.type = .root16 then (none, volume)
                  else if !io .addCluster then (none, io.torn volume)
                  else
                    createAt io ref slots.length oflag dname
                      (volume.setDir ref (slots ++
                        List.replicate volume.entriesPerCluster .zero))

/-! Bytes of an open file. -/

def overwrite (chain : Nat → UInt8) (start : Nat) (bytes : List UInt8) :
    Nat → UInt8 :=
  fun position =>
    if position < start then chain position
    else bytes.getD (position - start) (chain position)

/-- The block loop of `SdFile::write`: at most the rest of one block of 512
bytes at a time.  The position is a 32-bit count that wraps, the place in the
cluster chain goes on. -/
def writeBlocks (io : Io) (src : List UInt8) (file : SdFile)
    (chain : Nat → UInt8) : Bool × SdFile × (Nat → UInt8) :=
  if _hdone : src = [] then (true, file, chain)
  else
    let n := min (512 - file.curPosition.toNat % 512) src.length
    if !io (.block src.length) then (false, file, chain)
    else
      writeBlocks io (src.drop n)
        { file with
          curPosition := file.curPosition + UInt32.ofNat n
          chainPos := file.chainPos + n }
        (overwrite chain file.chainPos (src.take n))
termination_by src.length
decreasing_by
  have hpos : 0 < src.length := List.length_pos_iff.mpr _hdone
  have hblock : file.curPosition.toNat % 512 < 512 := Nat.mod_lt _ (by decide)
  simp only [List.length_drop]
  omega

/-- The part of `SdFile::write` before its loop: the append flag moves the
position to the end of the file. -/
def seekToAppend (io : Io) (file : SdFile) : Bool × SdFile :=
  if file.flags &&& oAppend ≠ 0 && file.curPosition != file.fileSize then
    file.seekSet io file.fileSize
  else (true, file)

def growTo (file : SdFile) : SdFile :=
  if file.curPosition > file.fileSize then
    { file with fileSize := file.curPosition, dirty := true }
  else file

def write (io : Io) (buf : List UInt8) (file : SdFile) (volume : Volume) :
    Nat × SdFile × Volume :=
  if !file.isFile || file.flags &&& oWrite = 0 then (0, file, volume)
  else
    match file.seekToAppend io, volume.entry? file.dir file.dirIndex with
    | (false, file), _ => (0, file, volume)
    | (true, file), none => (0, file, volume)
    | (true, file), some entry =>
        let (done, file, chain) := writeBlocks io buf file entry.chain
        let volume :=
          volume.setEntry file.dir file.dirIndex { entry with chain := chain }
        if !done then (0, file, volume)
        else
          let file := file.growTo
          if file.flags &&& oSync ≠ 0 then
            match file.sync io volume with
            | (true, file, volume) => (buf.length, file, volume)
            | (false, file, volume) => (0, file, volume)
          else (buf.length, file, volume)

/-- `SdFile::read` of one byte; `none` is its `-1`. -/
def read (io : Io) (file : SdFile) (volume : Volume) : Option UInt8 × SdFile :=
  if !file.isOpen || file.flags &&& oRead = 0 then (none, file)
  else if file.fileSize - file.curPosition = 0 then (none, file)
  else if !io .readByte then (none, file)
  else
    match volume.entry? file.dir file.dirIndex with
    | none => (none, file)
    | some entry =>
        (some (entry.chain file.chainPos),
          { file with
            curPosition := file.curPosition + 1
            chainPos := file.chainPos + 1 })

end SdFile

end SenseBox.SD
