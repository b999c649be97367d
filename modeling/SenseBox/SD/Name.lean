import SenseBox.Data.Run
import SenseBox.Data.Text

namespace SenseBox.SD

open SenseBox.Data

/-! Names of the SD library. -/

def blank : UInt8 := 0x20
def dot : UInt8 := 0x2E
def slash : UInt8 := 0x2F

abbrev Name := Vector UInt8 11

def firstByte (name : Name) : UInt8 := name[0]

def illegalFatCharacters : Text := text "|<>^+=?/[];,*\"\\"

/-- The locals of `make83Name`: the name filled so far, the next index `i` and
the last index `n` of the part being filled. -/
structure NameBuffer where
  name : Name
  i : Nat
  n : Nat

def make83Step (c : UInt8) (buffer : NameBuffer) : Option NameBuffer :=
  if c = dot then
    if buffer.n = 10 then none else some { buffer with n := 10, i := 8 }
  else if c ∈ illegalFatCharacters then none
  else if buffer.i > buffer.n || c < 0x21 || c > 0x7E then none
  else
    let upper := if c < 97 || c > 122 then c else c - 32
    some { buffer with
      name := buffer.name.setIfInBounds buffer.i upper
      i := buffer.i + 1 }

def make83Name (str : Text) : Option Name :=
  (run make83Step str ⟨Vector.replicate 11 blank, 0, 7⟩).bind fun buffer =>
    if firstByte buffer.name = blank then none else some buffer.name

/-! Path components.  A component holds at most twelve characters; the rest of
a longer one counts as a further component. -/

def maxComponentLen : Nat := 12

def dropSlash : Text → Text
  | [] => []
  | c :: rest => if c = slash then rest else c :: rest

/-- The next component and the rest of the path; more components remain when
the rest is not empty. -/
def getNextPathComponent (path : Text) : Text × Text :=
  let path := dropSlash path
  let component := (path.takeWhile (· ≠ slash)).take maxComponentLen
  (component, dropSlash (path.drop component.length))

theorem length_dropSlash_le (path : Text) :
    (dropSlash path).length ≤ path.length := by
  cases path with
  | nil => exact Nat.le_refl _
  | cons c rest =>
      by_cases hslash : c = slash
      · simp [dropSlash, hslash]
      · simp [dropSlash, hslash]

theorem length_getNextPathComponent_lt {path : Text} (hpath : path ≠ []) :
    (getNextPathComponent path).2.length < path.length := by
  obtain ⟨c, rest, rfl⟩ := List.exists_cons_of_ne_nil hpath
  simp only [getNextPathComponent]
  refine Nat.lt_of_le_of_lt (length_dropSlash_le _) ?_
  rw [List.length_drop]
  by_cases hslash : c = slash
  · simp only [dropSlash, hslash, if_true, List.length_cons]
    omega
  · simp only [dropSlash, hslash, if_false]
    rw [List.takeWhile_cons_of_pos (by simpa using hslash)]
    simp only [maxComponentLen, List.take_succ_cons, List.length_cons]
    omega

end SenseBox.SD
