import SenseBox.SD.CardLog

namespace SenseBox.SD

open SenseBox.Data
open SdFile

/-! Names the SD library cannot open, and the handle that stands for them. -/

theorem openIn_invalid {filepath : Text} (hname : make83Name filepath = none)
    (io : Io) (dirFile : SdFile) (oflag : UInt8) (volume : Volume) :
    openIn io dirFile filepath oflag volume = (none, volume) := by
  simp only [openIn, hname]

theorem sdOpen_invalid {filepath : Text} (hslash : slash ∉ filepath)
    (hname : make83Name filepath = none) (hne : filepath ≠ [])
    (io : Nat → Io) (mode : UInt8) (volume : Volume) :
    sdOpen io filepath mode volume = (none, volume) := by
  have hparent := getParentDir_root hslash (io ∘ (· + 1)) 0 (openRoot volume)
    volume
  have hopen := openIn_invalid hname (io 0) (openRoot volume) mode volume
  obtain ⟨head, tail, hpath⟩ := List.exists_cons_of_ne_nil hne
  rw [sdOpen, hparent]
  rw [hpath] at hopen ⊢
  simp only [hopen]

theorem printAll_none (io : Nat → Io) (chunks : List Text) (volume : Volume) :
    File.printAll io chunks none volume = (none, volume) := by
  induction chunks with
  | nil => rfl
  | cons chunk rest ih =>
      rw [File.printAll]
      exact ih

end SenseBox.SD
