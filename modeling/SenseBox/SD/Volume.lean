import SenseBox.SD.Name
import Mathlib.Algebra.Group.Nat.Defs

namespace SenseBox.SD

/-! The FAT volume: directories of entries, and for each file the bytes of its
cluster chain, of which the entry's size says how many belong to the file. -/

def attReadOnly : UInt8 := 0x01
def attVolumeId : UInt8 := 0x08
def attDirectory : UInt8 := 0x10
def attFileTypeMask : UInt8 := attVolumeId ||| attDirectory

def nameFree : UInt8 := 0x00
def nameDeleted : UInt8 := 0xE5

structure DirEntry where
  name : Name
  attributes : UInt8
  firstCluster : UInt32
  fileSize : UInt32
  chain : Nat → UInt8

namespace DirEntry

def content (entry : DirEntry) : List UInt8 :=
  (List.range entry.fileSize.toNat).map entry.chain

def isFile (entry : DirEntry) : Bool :=
  entry.attributes &&& attFileTypeMask == 0

def isSubdir (entry : DirEntry) : Bool :=
  entry.attributes &&& attFileTypeMask == attDirectory

/-- A slot of zeros: no entry and none after it. -/
def zero : DirEntry where
  name := Vector.replicate 11 0
  attributes := 0
  firstCluster := 0
  fileSize := 0
  chain := fun _ => 0

def create (name : Name) : DirEntry := { zero with name := name }

@[simp] theorem length_content (entry : DirEntry) :
    entry.content.length = entry.fileSize.toNat := by
  simp [content]

theorem content_length_lt (entry : DirEntry) :
    entry.content.length < 2 ^ 32 := by
  rw [length_content]
  exact entry.fileSize.toNat_lt

@[simp] theorem name_create (name : Name) : (create name).name = name := rfl

end DirEntry

inductive FatType where
  | fat16
  | fat32
  deriving DecidableEq

inductive DirRef where
  | root
  | sub (cluster : UInt32)
  deriving DecidableEq

structure Volume where
  fatType : FatType
  root : List DirEntry
  sub : UInt32 → List DirEntry
  entriesPerCluster : Nat

def emptyCard : Volume where
  fatType := .fat32
  root := []
  sub := fun _ => []
  entriesPerCluster := 16

namespace Volume

def dir (volume : Volume) : DirRef → List DirEntry
  | .root => volume.root
  | .sub cluster => volume.sub cluster

def setDir (volume : Volume) (ref : DirRef) (entries : List DirEntry) : Volume :=
  match ref with
  | .root => { volume with root := entries }
  | .sub cluster =>
      { volume with
        sub := fun other =>
          if other = cluster then entries else volume.sub other }

def entry? (volume : Volume) (ref : DirRef) (index : Nat) : Option DirEntry :=
  (volume.dir ref)[index]?

def setEntry (volume : Volume) (ref : DirRef) (index : Nat)
    (entry : DirEntry) : Volume :=
  volume.setDir ref ((volume.dir ref).set index entry)

end Volume

/-! Accesses of the card.  Each library call is given the outcome of the
accesses it makes; a cluster that cannot be allocated is a failed access. -/

inductive Access where
  | readDir (index : Nat)
  | dirEntry
  | addCluster
  | flush
  | seek
  | block (left : Nat)
  | readByte
  | chainSize
  | freeChain
  deriving DecidableEq

/-- Which accesses succeed.  Where clusters are being chained or freed and an access fails,
what is left of the volume is not known: it may be anything. -/
structure Io where
  succeeds : Access → Bool
  torn : Volume → Volume

instance : CoeFun Io fun _ => Access → Bool := ⟨Io.succeeds⟩

def Io.ok : Io where
  succeeds := fun _ => true
  torn := id

@[simp] theorem Io.ok_apply (access : Access) : Io.ok access = true := rfl

inductive Search where
  | failed
  | found (index : Nat)
  | absent (empty : Option Nat)
  deriving DecidableEq

/-- The search loop of `SdFile::open`: it stops at the first free slot, and
remembers the first slot that is free or deleted. -/
def search (io : Io) (dname : Name) :
    List DirEntry → Nat → Option Nat → Search
  | [], _, empty => .absent empty
  | slot :: rest, index, empty =>
      if !io (.readDir index) then .failed
      else if firstByte slot.name = nameFree then .absent (empty <|> some index)
      else if firstByte slot.name = nameDeleted then
        search io dname rest (index + 1) (empty <|> some index)
      else if dname = slot.name then .found index
      else search io dname rest (index + 1) empty

end SenseBox.SD
