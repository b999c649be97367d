import SenseBox.SD.OpenIn

namespace SenseBox.SD

open SenseBox.Data

/-! The files of a directory by their names, as the user of one handle sees them. -/

/-- What is known of a name: that no file has it, or the bytes of its file and whether
they are not to be written to, or nothing. -/
inductive Entry where
  | absent
  | file (bytes : List UInt8) (locked : Bool)
  | unknown

/-- What is known of the handle; a lost one has been left by a call that has failed. -/
inductive Current where
  | closed
  | lost
  | file (name : Name) (flags : UInt8) (place : Nat)

theorem Current.closed_ne (name : Name) :
    ∀ flags place, Current.closed ≠ .file name flags place := by
  intro flags place hsame
  cases hsame

theorem Current.lost_ne (name : Name) :
    ∀ flags place, Current.lost ≠ .file name flags place := by
  intro flags place hsame
  cases hsame

theorem Current.closed_or_lost {current : Current}
    (hcurrent : ∀ name flags place, current ≠ .file name flags place) :
    current = .closed ∨ current = .lost := by
  cases current with
  | closed => exact .inl rfl
  | lost => exact .inr rfl
  | file name flags place => exact absurd rfl (hcurrent name flags place)

/-- The directory has no more entries than `slots`, and one that is unused where there is
a spare one. -/
structure Files where
  entry : Name → Entry
  slots : Nat
  spare : Bool
  current : Current

inductive Request where
  | openIn (fileName : Text) (oflag : UInt8)
  | call (command : Command)
  | close
  | removeIn (fileName : Text)

def Request.Apart (name : Name) : Request → Prop
  | .openIn fileName _ => make83Name fileName ≠ some name
  | .call _ => True
  | .close => True
  | .removeIn fileName => make83Name fileName ≠ some name

/-- The request with the bytes that it returns; `none` is that it goes on. -/
def Request.perform (io : Accesses) (layout : Layout) (rounds : Nat) :
    Request → Failing FatFile.Opening (Option (List UInt8))
  | .openIn fileName oflag => do
      let done ← FatFile.openIn io layout rounds fileName oflag
      return done.map fun _ => []
  | .call command => FatFile.onFile (FatFile.perform io layout rounds command)
  | .close => do
      FatFile.onFile (FatFile.close io)
      return some []
  | .removeIn fileName => do
      let done ← FatFile.onDirFile (FatFile.removeIn io layout rounds fileName)
      return done.map fun _ => []

/-- A request with its answer: `none` is that it has failed. -/
structure Exchange where
  request : Request
  answer : Option (Option (List UInt8))

def FatFile.exchange (io : Accesses) (layout : Layout) (rounds : Nat)
    (exchange : Exchange) : FatFile.Opening → Option FatFile.Opening :=
  observe (exchange.request.perform io layout rounds) exchange.answer

/-- What a request may end with: its bytes and the files it leaves, unless it is refused,
and the files that it leaves where it fails. -/
structure Expected where
  done : Option (List UInt8 × Files)
  failed : Files

namespace Files

variable (layout : Layout) (files : Files)

def Shut (name : Name) : Prop := ∀ flags place, files.current ≠ .file name flags place

def refused : Expected := ⟨none, files⟩

def setEntry (name : Name) (entry : Entry) (current : Current) : Files :=
  { files with
    entry := Function.update files.entry name entry
    current := current }

def lose (name : Name) (current : Current) : Files := files.setEntry name .unknown current

def openFile (name : Name) (bytes : List UInt8) (locked : Bool) (oflag : UInt8) : Expected :=
  if oflag &&& (oCreat ||| oExcl) = oCreat ||| oExcl ∨ Refuses locked oflag then
    files.refused
  else
    { done :=
        if oflag &&& oTrunc ≠ 0 ∧ oflag &&& oWrite = 0 then none
        else some ([], files.setEntry name
          (.file (FileView.opened oflag ⟨bytes, 0⟩).bytes locked)
          (.file name (openFlags oflag) 0))
      failed := if oflag &&& oTrunc ≠ 0 then files.lose name .lost else files }

/-- The entries that there may be when one has been taken. -/
def room : Nat :=
  if files.spare = true then files.slots else files.slots + layout.slotsPerCluster

theorem slots_le_room : files.slots ≤ files.room layout := by
  rw [room]
  split
  · exact le_refl files.slots
  · exact Nat.le_add_right _ _

/-- Opening a file that is not there; `none` is that nothing is said, since the directory
might grow too large. -/
def create (name : Name) (oflag : UInt8) : Option Expected :=
  if oflag &&& (oCreat ||| oWrite) ≠ oCreat ||| oWrite then some files.refused
  else if 2 ^ 32 ≤ dirEntrySize * files.room layout then none
  else
    let grown := { files with slots := files.room layout, spare := false }
    some
      { done := some ([], grown.setEntry name (.file [] false)
          (.file name (openFlags oflag) 0))
        failed := grown.lose name files.current }

/-- A call through the handle; nothing is said of a lost one, and of a write that makes a
file too large. -/
def call (command : Command) : Option Expected :=
  match files.current with
  | .closed => some files.refused
  | .lost => none
  | .file name flags place =>
      match files.entry name with
      | .file bytes locked =>
          let view : FileView := ⟨bytes, place⟩
          if view.Fits flags command then
            match view.call flags command with
            | none => some files.refused
            | some (answer, view') => some
                { done := some (answer, files.setEntry name (.file view'.bytes locked)
                    (.file name flags view'.place))
                  failed := files.lose name .lost }
          else none
      | _ => none

def close : Expected :=
  match files.current with
  | .closed => files.refused
  | .lost => ⟨some ([], { files with current := .closed }), files⟩
  | .file name _ _ =>
      ⟨some ([], { files with current := .closed }), files.lose name .lost⟩

def remove (name : Name) (locked : Bool) : Option Expected :=
  match files.current with
  | .file other _ _ => if other = name then none else some (unlink locked)
  | _ => some (unlink locked)
where
  unlink (locked : Bool) : Expected :=
    if locked = true then files.refused
    else
      { done := some ([], { files.setEntry name .absent files.current with spare := true })
        failed := files.lose name files.current }

def expect : Request → Option Expected
  | .openIn fileName oflag =>
      match files.current, make83Name fileName with
      | .file _ _ _, _ => some files.refused
      | _, none => some files.refused
      | _, some name =>
          match files.entry name with
          | .absent => files.create layout name oflag
          | .file bytes locked => some (files.openFile name bytes locked oflag)
          | .unknown => none
  | .call command => files.call command
  | .close => some files.close
  | .removeIn fileName =>
      match make83Name fileName with
      | none => some files.refused
      | some name =>
          match files.entry name with
          | .absent => some files.refused
          | .file _ locked => files.remove name locked
          | .unknown => none

def answered (answer : Option (Option (List UInt8))) (expected : Expected) : Option Files :=
  match answer, expected.done with
  | none, _ => some expected.failed
  | some _, none => none
  | some answer, some (bytes, files) => if answer = some bytes then some files else none

/-- The exchange on the files; with `none` nothing is said any more. -/
def step (exchange : Exchange) : Option Files → Option (Option Files)
  | none => some none
  | some files =>
      match files.expect layout exchange.request with
      | none => some none
      | some expected => (answered exchange.answer expected).map some

end Files

end SenseBox.SD
