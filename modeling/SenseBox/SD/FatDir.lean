import SenseBox.SD.FatFile

namespace SenseBox.SD

open SenseBox.Data

/-! Directories on the clusters of the volume: opening, creating and removing the
files of a directory. -/

def fatDefaultDate : Nat := (2000 - 1980) <<< 9 ||| 1 <<< 5 ||| 1
def fatDefaultTime : Nat := 1 <<< 11

def slotName (block : Block) (index : UInt8) : Name :=
  Vector.ofFn fun place => block (dirEntrySize * index.toNat + place)

def createEntry (dname : Name) (index : UInt8) (block : Block) : Block :=
  let place := dirEntrySize * index.toNat
  let cleared : Block := fun position =>
    if place ≤ position ∧ position < place + dirEntrySize then 0 else block position
  let named := SdFile.overwrite cleared place dname.toList
  let created := store (store named (place + 14) 2 fatDefaultTime) (place + 16) 2
    fatDefaultDate
  store (store (store created (place + 18) 2 fatDefaultDate) (place + 22) 2
    fatDefaultTime) (place + 24) 2 fatDefaultDate

def deleteEntry (index : UInt8) (block : Block) : Block :=
  Function.update block (dirEntrySize * index.toNat) nameDeleted

namespace SdVolume

variable (io : Accesses)

/-- The blocks of a cluster are zeroed, the last one first. -/
def zeroBlocks (block : UInt32) : Nat → Failing SdVolume Unit
  | 0 => return
  | left + 1 => do
      cacheZeroBlock io (block + UInt32.ofNat left)
      zeroBlocks block left

end SdVolume

namespace FatFile

open SdVolume

variable (io : Accesses) (layout : Layout)

def rewind (file : FatFile) : FatFile := setCluster 0 (setPosition 0 file)

/-- `rootDirEntryCount()` returns 32 bits. -/
def root16Size (rootDirEntryCount : UInt16) : UInt32 := 32 * rootDirEntryCount.toUInt32

/-- `none` is that the size of the directory is counted on and on. -/
def openRoot (rounds : Nat) : Failing Opened (Option Unit) := do
  let file ← getFile
  if file.type ≠ .closed then failure
  else
    let root : FatFile :=
      { flags := oRead
        type := .root16
        curCluster := 0
        curPosition := 0
        dirBlock := 0
        dirIndex := 0
        fileSize := root16Size layout.rootDirEntryCount
        firstCluster := 0 }
    match layout.fatType with
    | .fat16 =>
        modifyFile fun _ => root
        return some ()
    | .fat32 =>
        let size ← onVolume (chainSize io layout rounds layout.rootDirStart 0)
        match size with
        | none => return none
        | some size =>
            modifyFile fun _ =>
              { root with
                type := .root32
                firstCluster := layout.rootDirStart
                fileSize := size }
            return some ()

/-- The index in its block of the entry that is now in the cache. -/
def readDirCache : Failing Opened UInt8 := do
  let file ← getFile
  if !file.isDir then failure
  else
    let bytes ← read io layout 1
    if bytes = [] then failure
    else
      modifyFile (advance 31)
      return ((file.curPosition >>> 5) &&& 0xF).toUInt8

def addDirCluster : Failing Opened Unit := do
  addCluster io layout
  let file ← getFile
  onVolume (zeroBlocks io (layout.clusterStartBlock file.curCluster)
    layout.blocksPerCluster.toNat)
  modifyFile fun file =>
    { file with
      fileSize := file.fileSize + (512 : UInt32) <<< layout.clusterSizeShift.toUInt32 }

abbrev Opening := SdVolume × FatFile × FatFile

def onDirFile {Value : Type} (program : Failing Opened Value) : Failing Opening Value :=
  onPart (fun opening => (opening.1, opening.2.1))
    (fun opening opened => (opened.1, opened.2, opening.2.2)) program

def onFile {Value : Type} (program : Failing Opened Value) : Failing Opening Value :=
  onPart (fun opening => (opening.1, opening.2.2))
    (fun opening opened => (opened.1, opening.2.1, opened.2)) program

/-- What the search for a name ends with: the index of its entry, or whether an empty
slot has been found. -/
inductive DirSlot where
  | found (index : UInt8)
  | absent (emptyFound : Bool)
  deriving DecidableEq

def rememberSlot (emptyFound : Bool) (block : UInt32) (index : UInt8) (file : FatFile) :
    FatFile :=
  if emptyFound then file else { file with dirIndex := index, dirBlock := block }

def searchLoop (dname : Name) : Nat → Bool → Failing Opening DirSlot
  | 0, emptyFound => return .absent emptyFound
  | left + 1, emptyFound => do
      let opening ← get
      if opening.2.1.curPosition < opening.2.1.fileSize then
        let index ← onDirFile (readDirCache io layout)
        let opening ← get
        let name := slotName opening.1.cacheBuffer index
        if firstByte name = nameFree then
          onFile (modifyFile (rememberSlot emptyFound opening.1.cacheBlockNumber index))
          return .absent true
        else if firstByte name = nameDeleted then
          onFile (modifyFile (rememberSlot emptyFound opening.1.cacheBlockNumber index))
          searchLoop dname left true
        else if dname = name then return .found index
        else searchLoop dname left emptyFound
      else return .absent emptyFound

def placeEntry (emptyFound : Bool) : Failing Opening Unit := do
  let opening ← get
  if emptyFound then onFile (onVolume (cacheRawBlock io opening.2.2.dirBlock .forWrite))
  else if opening.2.1.type = .root16 then failure
  else
    onDirFile (addDirCluster io layout)
    onFile (modifyFile fun file => { file with dirIndex := 0 })

/-- The part of `open` that makes an empty file of the entry in the cache. -/
def createCached (rounds : Nat) (dname : Name) (oflag : UInt8) :
    Failing Opened (Option Unit) := do
  let file ← getFile
  onVolume (modify fun volume =>
    { volume with cacheBuffer := createEntry dname file.dirIndex volume.cacheBuffer })
  onVolume (cacheFlush io)
  openCachedEntry io layout rounds file.dirIndex oflag

/-- The part of `open` that creates a file. -/
def create (rounds : Nat) (dname : Name) (oflag : UInt8) (emptyFound : Bool) :
    Failing Opening (Option Unit) := do
  if oflag &&& (oCreat ||| oWrite) ≠ oCreat ||| oWrite then failure
  else
    placeEntry io layout emptyFound
    onFile (createCached io layout rounds dname oflag)

/-- `none` is that a chain of the file goes on and on. -/
def openIn (rounds : Nat) (fileName : Text) (oflag : UInt8) :
    Failing Opening (Option Unit) := do
  let opening ← get
  if opening.2.2.type ≠ .closed then failure
  else
    match make83Name fileName with
    | none => failure
    | some dname =>
        onDirFile (modifyFile rewind)
        let slot ← searchLoop io layout dname
          (opening.2.1.fileSize.toNat / dirEntrySize + 1) false
        match slot with
        | .found index =>
            if oflag &&& (oCreat ||| oExcl) = oCreat ||| oExcl then failure
            else onFile (openCachedEntry io layout rounds index oflag)
        | .absent emptyFound => create io layout rounds dname oflag emptyFound

def remove (rounds : Nat) : Failing Opened (Option Unit) := do
  let done ← truncate io layout rounds 0
  match done with
  | none => return none
  | some _ =>
      let file ← getFile
      onVolume (cacheRawBlock io file.dirBlock .forWrite)
      onVolume (modify fun volume =>
        { volume with cacheBuffer := deleteEntry file.dirIndex volume.cacheBuffer })
      modifyFile fun file => { file with type := .closed }
      onVolume (cacheFlush io)
      return some ()

/-- A handle that has been made and not been opened: its other fields are set before they
are used. -/
def closedFile : FatFile where
  flags := 0
  type := .closed
  curCluster := 0
  curPosition := 0
  dirBlock := 0
  dirIndex := 0
  fileSize := 0
  firstCluster := 0

/-- `remove` of a directory and a name: a handle of its own is opened for it. -/
def removeIn (rounds : Nat) (fileName : Text) : Failing Opened (Option Unit) :=
  onPart (fun opened => (opened.1, opened.2, closedFile))
    (fun _ opening => (opening.1, opening.2.1)) do
      let opened ← openIn io layout rounds fileName oWrite
      match opened with
      | none => return none
      | some _ => onFile (remove io layout rounds)

end FatFile

end SenseBox.SD
