import Mathlib.Data.List.Basic

namespace SenseBox.Data.Lines

/-! Texts of lines that each end in a carriage return and a line feed. -/

def cr : UInt8 := 0x0D
def lf : UInt8 := 0x0A
def crlf : List UInt8 := [cr, lf]

/-- Cuts a text after each line end; `none` if the last line has no end.  The
first argument holds the characters of the line begun. -/
def cut (line : List UInt8) : List UInt8 → Option (List (List UInt8))
  | [] => if line = [] then some [] else none
  | [char] => cut (line ++ [char]) []
  | char :: next :: rest =>
      if char = cr ∧ next = lf then (cut [] rest).map (line :: ·)
      else cut (line ++ [char]) (next :: rest)

def decode (chars : List UInt8) : Option (List (List UInt8)) := cut [] chars

def encode (lines : List (List UInt8)) : List UInt8 :=
  lines.flatMap (· ++ crlf)

theorem cut_cons {line chars : List UInt8} {char : UInt8}
    (hchar : char ≠ cr) : cut line (char :: chars) = cut (line ++ [char]) chars := by
  cases chars with
  | nil => rfl
  | cons next rest => rw [cut, if_neg (hchar ·.1)]

theorem cut_line {line : List UInt8} (hline : cr ∉ line)
    (begun rest : List UInt8) :
    cut begun (line ++ crlf ++ rest) = (cut [] rest).map ((begun ++ line) :: ·) := by
  induction line generalizing begun with
  | nil => simp [crlf, cut]
  | cons char line ih =>
      rw [List.mem_cons, not_or] at hline
      rw [List.cons_append, List.cons_append, cut_cons (Ne.symm hline.1),
        ih hline.2, List.append_assoc]
      rfl

theorem decode_encode {lines : List (List UInt8)}
    (hlines : ∀ line ∈ lines, cr ∉ line) :
    decode (encode lines) = some lines := by
  induction lines with
  | nil => rfl
  | cons line lines ih =>
      have hrest := ih fun other member => hlines other (by simp [member])
      rw [decode, encode, List.flatMap_cons, cut_line (hlines line (by simp))]
      rw [decode, encode] at hrest
      rw [hrest]
      rfl

/-! The head of a message: lines up to the first empty one.  A line feed ends a
line, and a carriage return before it belongs to the line end. -/

def chomp (line : List UInt8) : List UInt8 :=
  if line.getLast? = some cr then line.dropLast else line

/-- The lines of the head, and what follows it; the first two arguments hold the
lines read so far and the characters of the line begun. -/
def cutHead (lines : List (List UInt8)) (line : List UInt8) :
    List UInt8 → Option (List (List UInt8) × List UInt8)
  | [] => none
  | char :: rest =>
      if char = lf then
        if chomp line = [] then some (lines, rest)
        else cutHead (lines ++ [chomp line]) [] rest
      else cutHead lines (line ++ [char]) rest

def head (chars : List UInt8) : Option (List (List UInt8) × List UInt8) :=
  cutHead [] [] chars

theorem cutHead_chars {line : List UInt8} (hline : lf ∉ line)
    (lines : List (List UInt8)) (begun rest : List UInt8) :
    cutHead lines begun (line ++ rest) = cutHead lines (begun ++ line) rest := by
  induction line generalizing begun with
  | nil => simp
  | cons char line ih =>
      rw [List.mem_cons, not_or] at hline
      rw [List.cons_append, cutHead, if_neg (Ne.symm hline.1), ih hline.2,
        List.append_assoc]
      rfl

theorem cutHead_crlf {line : List UInt8} (hline : lf ∉ line) (hne : line ≠ [])
    (lines : List (List UInt8)) (rest : List UInt8) :
    cutHead lines [] (line ++ crlf ++ rest) = cutHead (lines ++ [line]) [] rest := by
  have hcr : lf ∉ line ++ [cr] := by
    rw [List.mem_append, not_or]
    exact ⟨hline, by decide⟩
  have hchomp : chomp (line ++ [cr]) = line := by simp [chomp]
  have hsplit : line ++ crlf ++ rest = (line ++ [cr]) ++ (lf :: rest) := by
    simp [crlf]
  rw [hsplit, cutHead_chars hcr, List.nil_append, cutHead, if_pos rfl, hchomp,
    if_neg hne]

theorem cutHead_lf {line : List UInt8} (hline : lf ∉ line) (hne : line ≠ [])
    (hlast : line.getLast? ≠ some cr) (lines : List (List UInt8))
    (rest : List UInt8) :
    cutHead lines [] (line ++ lf :: rest) = cutHead (lines ++ [line]) [] rest := by
  have hchomp : chomp line = line := if_neg hlast
  rw [cutHead_chars hline, List.nil_append, cutHead, if_pos rfl, hchomp,
    if_neg hne]

theorem cutHead_blank (lines : List (List UInt8)) (rest : List UInt8) :
    cutHead lines [] (crlf ++ rest) = some (lines, rest) := rfl

end SenseBox.Data.Lines
