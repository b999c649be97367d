import SenseBox.SD.Fat
import SenseBox.SD.SdFile

namespace SenseBox.SD

open SenseBox.Data

/-! The handle of an open file, on the clusters of the volume. -/

def fFileUnbufferedRead : UInt8 := 0x40
def fFileDirDirty : UInt8 := 0x80

structure FatFile where
  flags : UInt8
  type : FileType
  curCluster : UInt32
  curPosition : UInt32
  dirBlock : UInt32
  dirIndex : UInt8
  fileSize : UInt32
  firstCluster : UInt32

def FatFile.isDir (file : FatFile) : Bool :=
  match file.type with
  | .root16 => true
  | .root32 => true
  | .subdir => true
  | .closed => false
  | .normal => false

namespace Layout

variable (layout : Layout)

def blocksPerCluster : UInt8 := 1 <<< layout.clusterSizeShift

def blockOfCluster (position : UInt32) : UInt8 :=
  ((position >>> 9) &&& (layout.blocksPerCluster.toUInt32 - 1)).toUInt8

def clusterStartBlock (cluster : UInt32) : UInt32 :=
  layout.dataStartBlock + ((cluster - 2) <<< layout.clusterSizeShift.toUInt32)

end Layout

def bytesAt (block : Block) (offset n : Nat) : List UInt8 :=
  (List.range n).map fun place => block (offset + place)

/-! The directory entry of a file: its fields, in 32 bytes of a block. -/

def dirEntrySize : Nat := 32

/-- The fields of the entry that `sync` writes. -/
def storeDirEntry (file : FatFile) (block : Block) : Block :=
  let place := dirEntrySize * file.dirIndex.toNat
  let sized :=
    if file.isDir then block else store block (place + 28) 4 file.fileSize.toNat
  let low := store sized (place + 26) 2 (file.firstCluster &&& 0xFFFF).toNat
  store low (place + 20) 2 (file.firstCluster >>> 16).toNat

def dirFileSize (block : Block) (index : UInt8) : UInt32 :=
  UInt32.ofNat (load block (dirEntrySize * index.toNat + 28) 4)

def dirFirstCluster (block : Block) (index : UInt8) : UInt32 :=
  UInt32.ofNat (load block (dirEntrySize * index.toNat + 20) 2) <<< 16 |||
    UInt32.ofNat (load block (dirEntrySize * index.toNat + 26) 2)

def dirAttributes (block : Block) (index : UInt8) : UInt8 :=
  block (dirEntrySize * index.toNat + 11)

namespace SdVolume

variable (io : Accesses)

/-- A whole block is written past the cache, which then holds none. -/
def writeWhole (block : UInt32) (data : Block) : Failing SdVolume Unit := do
  modify fun volume =>
    if volume.cacheBlockNumber = block then { volume with cacheBlockNumber := noBlock }
    else volume
  writeBlock io block data

/-- A new block of a file is taken into the cache without reading it. -/
def cacheNewBlock (block : UInt32) : Failing SdVolume Unit := do
  cacheFlush io
  modify fun volume => { volume with cacheBlockNumber := block, cacheDirty := true }

def copyToCache (offset : Nat) (bytes : List UInt8) (volume : SdVolume) : SdVolume :=
  { volume with
    cacheBuffer := SdFile.overwrite volume.cacheBuffer offset bytes }

/-- Part of a block, from the cache or straight from the card. -/
def readPart (unbuffered : Bool) (block : UInt32) (offset n : Nat) :
    Failing SdVolume (List UInt8) := do
  let volume ← get
  if (unbuffered || n = 512) && block ≠ volume.cacheBlockNumber then
    let data ← readBlock io block
    return bytesAt data offset n
  else
    cacheRawBlock io block .forRead
    let volume ← get
    return bytesAt volume.cacheBuffer offset n

/-- Part of a block: a whole one goes to the card, less than that to the cache. -/
def writePart (fresh : Bool) (block : UInt32) (offset : Nat) (bytes : List UInt8) :
    Failing SdVolume Unit := do
  if bytes.length = 512 then
    writeWhole io block fun place => bytes.getD place 0
  else if offset = 0 && fresh then
    cacheNewBlock io block
    modify (copyToCache offset bytes)
  else
    cacheRawBlock io block .forWrite
    modify (copyToCache offset bytes)

/-- The size of a chain of clusters in bytes; `none` is that it goes on. -/
def chainSize (layout : Layout) : Nat → UInt32 → UInt32 →
    Failing SdVolume (Option UInt32)
  | 0, _, _ => return none
  | left + 1, cluster, s => do
      let cluster ← fatGet io layout cluster
      let s := s + (512 : UInt32) <<< layout.clusterSizeShift.toUInt32
      if layout.isEOC cluster then return some s
      else chainSize layout left cluster s

end SdVolume

namespace FatFile

open SdVolume

abbrev Opened := SdVolume × FatFile

def onVolume {Value : Type} (program : Failing SdVolume Value) :
    Failing Opened Value :=
  onPart Prod.fst (fun opened volume => (volume, opened.2)) program

def getFile : Failing Opened FatFile := do
  let opened ← get
  return opened.2

def modifyFile (change : FatFile → FatFile) : Failing Opened Unit :=
  modify fun opened => (opened.1, change opened.2)

def blockOffset (file : FatFile) : Nat := (file.curPosition &&& 0x1FF).toNat

def setCluster (cluster : UInt32) (file : FatFile) : FatFile :=
  { file with curCluster := cluster }

def setPosition (position : UInt32) (file : FatFile) : FatFile :=
  { file with curPosition := position }

def advance (n : Nat) (file : FatFile) : FatFile :=
  { file with curPosition := file.curPosition + UInt32.ofNat n }

variable (io : Accesses) (layout : Layout)

/-- The first cluster of a file is linked to its directory entry. -/
def linkFirst (file : FatFile) : FatFile :=
  if file.firstCluster = 0 then
    { file with
      firstCluster := file.curCluster
      flags := file.flags ||| fFileDirDirty }
  else file

def addCluster : Failing Opened Unit := do
  let file ← getFile
  let cluster ← onVolume (allocContiguous io layout 1 file.curCluster)
  modifyFile (setCluster cluster)
  modifyFile linkFirst

def followChain : Nat → Failing Opened Unit
  | 0 => return
  | left + 1 => do
      let file ← getFile
      let cluster ← onVolume (fatGet io layout file.curCluster)
      modifyFile (setCluster cluster)
      followChain left

def clusterIndex (position : UInt32) : UInt32 :=
  (position - 1) >>> (layout.clusterSizeShift.toUInt32 + 9)

def seekSet (pos : UInt32) : Failing Opened Unit := do
  let file ← getFile
  if file.type = .closed ∨ pos > file.fileSize then failure
  else if file.type = .root16 then modifyFile (setPosition pos)
  else if pos = 0 then
    modifyFile (setCluster 0)
    modifyFile (setPosition 0)
  else
    let nCur := clusterIndex layout file.curPosition
    let nNew := clusterIndex layout pos
    if nNew < nCur ∨ file.curPosition = 0 then
      modifyFile (setCluster file.firstCluster)
      followChain io layout nNew.toNat
    else followChain io layout (nNew - nCur).toNat
    modifyFile (setPosition pos)

/-- The part of `read` that finds the block of the position. -/
def readLocate : Failing Opened UInt32 := do
  let file ← getFile
  if file.type = .root16 then
    return layout.rootDirStart + (file.curPosition >>> 9)
  else
    let blockOfCluster := layout.blockOfCluster file.curPosition
    if file.blockOffset = 0 ∧ blockOfCluster = 0 then
      if file.curPosition = 0 then modifyFile (setCluster file.firstCluster)
      else
        let cluster ← onVolume (fatGet io layout file.curCluster)
        modifyFile (setCluster cluster)
    let file ← getFile
    return layout.clusterStartBlock file.curCluster + blockOfCluster.toUInt32

def readLoop (toRead : Nat) : Failing Opened (List UInt8) := do
  if toRead = 0 then return []
  else
    let file ← getFile
    let offset := file.blockOffset
    let block ← readLocate io layout
    let n := min toRead (512 - offset)
    let unbuffered := file.flags &&& fFileUnbufferedRead ≠ 0
    let bytes ← onVolume (readPart io unbuffered block offset n)
    modifyFile (advance n)
    let rest ← readLoop (toRead - n)
    return bytes ++ rest
termination_by toRead
decreasing_by
  have hoffset : file.blockOffset ≤ 0x1FF := by
    rw [blockOffset, UInt32.toNat_and]
    exact Nat.and_le_right
  omega

/-- The bytes that are read; failing is the result `-1`. -/
def read (nbyte : UInt16) : Failing Opened (List UInt8) := do
  let file ← getFile
  if file.type = .closed ∨ file.flags &&& oRead = 0 then failure
  else readLoop io layout (min nbyte.toNat (file.fileSize - file.curPosition).toNat)

/-- The part of `write` at the start of a new cluster. -/
def writeCluster : Failing Opened Unit := do
  let file ← getFile
  if file.curCluster = 0 then
    if file.firstCluster = 0 then addCluster io layout
    else modifyFile (setCluster file.firstCluster)
  else
    let next ← onVolume (fatGet io layout file.curCluster)
    if layout.isEOC next then addCluster io layout
    else modifyFile (setCluster next)

/-- The part of `write` that finds the cluster of the position. -/
def writeLocate : Failing Opened Unit := do
  let file ← getFile
  if layout.blockOfCluster file.curPosition = 0 ∧ file.blockOffset = 0 then
    writeCluster io layout
  else return

/-- One round of the loop of `write`. -/
def writeRound (bytes : List UInt8) : Failing Opened Unit := do
  writeLocate io layout
  let file ← getFile
  let block := layout.clusterStartBlock file.curCluster +
    (layout.blockOfCluster file.curPosition).toUInt32
  let fresh : Bool := file.curPosition ≥ file.fileSize
  onVolume (writePart io fresh block file.blockOffset bytes)
  modifyFile (advance bytes.length)

def writeLoop (src : List UInt8) : Failing Opened Unit := do
  if hdone : src = [] then return
  else
    let file ← getFile
    let n := min (512 - file.blockOffset) src.length
    writeRound io layout (src.take n)
    writeLoop (src.drop n)
termination_by src.length
decreasing_by
  have hoffset : file.blockOffset ≤ 0x1FF := by
    rw [blockOffset, UInt32.toNat_and]
    exact Nat.and_le_right
  have hlength := List.length_pos_iff.mpr hdone
  rw [List.length_drop]
  omega

def sync : Failing Opened Unit := do
  let file ← getFile
  if file.type = .closed then failure
  else if file.flags &&& fFileDirDirty ≠ 0 then
    onVolume (cacheRawBlock io file.dirBlock .forWrite)
    onVolume (modify fun volume =>
      { volume with cacheBuffer := storeDirEntry file volume.cacheBuffer })
    modifyFile fun file => { file with flags := file.flags &&& ~~~fFileDirDirty }
    onVolume (cacheFlush io)
  else onVolume (cacheFlush io)

def grow (file : FatFile) : FatFile :=
  if file.curPosition > file.fileSize then
    { file with
      fileSize := file.curPosition
      flags := file.flags ||| fFileDirDirty }
  else file

/-- The part of `write` before its loop: the append flag moves the position to the
end of the file. -/
def seekToAppend : Failing Opened Unit := do
  let file ← getFile
  if file.flags &&& oAppend ≠ 0 ∧ file.curPosition ≠ file.fileSize then
    seekSet io layout file.fileSize
  else return

/-- The part of `write` after its loop. -/
def writeEnd : Failing Opened Unit := do
  modifyFile grow
  let file ← getFile
  if file.flags &&& oSync ≠ 0 then sync io else return

/-- Failing is the result 0, the other result is the number of the bytes. -/
def write (buf : List UInt8) : Failing Opened Unit := do
  let file ← getFile
  if file.type ≠ .normal ∨ file.flags &&& oWrite = 0 then failure
  else
    seekToAppend io layout
    writeLoop io layout buf
    writeEnd io

/-- The part of `truncate` that frees the clusters after the current one. -/
def freeRest (rounds : Nat) : Failing Opened (Option Unit) := do
  let file ← getFile
  let toFree ← onVolume (fatGet io layout file.curCluster)
  if layout.isEOC toFree then return some ()
  else
    let freed ← onVolume (freeChain io layout rounds toFree)
    match freed with
    | none => return none
    | some _ =>
        onVolume (fatPutEOC io layout file.curCluster)
        return some ()

/-- The part of `truncate` that frees clusters, with the position at the new end. -/
def freeAfter (rounds : Nat) (length : UInt32) : Failing Opened (Option Unit) := do
  let file ← getFile
  if length = 0 then onVolume (freeChain io layout rounds file.firstCluster)
  else freeRest io layout rounds

def cutTo (length : UInt32) (file : FatFile) : FatFile :=
  { file with
    firstCluster := if length = 0 then 0 else file.firstCluster
    fileSize := length
    flags := file.flags ||| fFileDirDirty }

/-- The part of `truncate` after the clusters have been freed. -/
def truncateEnd (length newPos : UInt32) : Failing Opened Unit := do
  modifyFile (cutTo length)
  sync io
  seekSet io layout newPos

/-- `none` is that freeing the clusters goes on. -/
def truncate (rounds : Nat) (length : UInt32) : Failing Opened (Option Unit) := do
  let file ← getFile
  if file.type ≠ .normal ∨ file.flags &&& oWrite = 0 then failure
  else if length > file.fileSize then failure
  else if file.fileSize = 0 then return some ()
  else
    let newPos := if file.curPosition > length then length else file.curPosition
    seekSet io layout length
    let freed ← freeAfter io layout rounds length
    match freed with
    | none => return none
    | some _ =>
        truncateEnd io layout length newPos
        return some ()

/-- The part of `openCachedEntry` that finds the size of a file or of a directory. -/
def openKind (rounds : Nat) (block : Block) (dirIndex : UInt8) :
    Failing Opened (Option Unit) := do
  let kind := dirAttributes block dirIndex &&& attFileTypeMask
  if kind = 0 then
    modifyFile fun file =>
      { file with fileSize := dirFileSize block dirIndex, type := .normal }
    return some ()
  else if kind = attDirectory then
    let file ← getFile
    let size ← onVolume (chainSize io layout rounds file.firstCluster 0)
    match size with
    | none => return none
    | some size =>
        modifyFile fun file => { file with fileSize := size, type := .subdir }
        return some ()
  else failure

/-- `none` is that the size of a directory is counted on and on. -/
def openCachedEntry (rounds : Nat) (dirIndex oflag : UInt8) :
    Failing Opened (Option Unit) := do
  let opened ← get
  let block := opened.1.cacheBuffer
  if dirAttributes block dirIndex &&& (attReadOnly ||| attDirectory) ≠ 0 ∧
      oflag &&& (oWrite ||| oTrunc) ≠ 0 then failure
  else
    modifyFile fun file =>
      { file with
        dirIndex := dirIndex
        dirBlock := opened.1.cacheBlockNumber
        firstCluster := dirFirstCluster block dirIndex }
    let sized ← openKind io layout rounds block dirIndex
    match sized with
    | none => return none
    | some _ =>
        modifyFile fun file =>
          { file with
            flags := oflag &&& (oAccmode ||| oSync ||| oAppend)
            curCluster := 0
            curPosition := 0 }
        if oflag &&& oTrunc ≠ 0 then truncate io layout rounds 0
        else return some ()

def close : Failing Opened Unit := do
  sync io
  modifyFile fun file => { file with type := .closed }

end FatFile

end SenseBox.SD
