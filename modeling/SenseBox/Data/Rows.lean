import SenseBox.Data.Decimal
import SenseBox.Data.Lines

namespace SenseBox.Data.Rows

/-! Rows of decimal integers, one row a line and a separator after each field. -/

def separator : UInt8 := 0x3B

def encodeRow (fields : List Int) : List UInt8 :=
  fields.flatMap fun field => Decimal.encode field ++ [separator]

def encode (rows : List (List Int)) : List UInt8 :=
  Lines.encode (rows.map encodeRow)

def decodeRow (line : List UInt8) : Option (List Int) :=
  let parts := line.splitOn separator
  if parts.getLast? = some [] then parts.dropLast.mapM Decimal.decode else none

def decode (chars : List UInt8) : Option (List (List Int)) :=
  (Lines.decode chars).bind fun lines => lines.mapM decodeRow

theorem separator_not_mem (field : Int) : separator ∉ Decimal.encode field := by
  intro hmember
  rcases Decimal.char_encode hmember with hminus | hdigit
  · exact absurd hminus (by decide)
  · exact absurd hdigit.2 (by decide)

theorem cr_not_mem (fields : List Int) : Lines.cr ∉ encodeRow fields := by
  intro hmember
  obtain ⟨field, -, hfield⟩ := List.mem_flatMap.mp hmember
  rcases List.mem_append.mp hfield with hchar | hchar
  · rcases Decimal.char_encode hchar with hminus | hdigit
    · exact absurd hminus (by decide)
    · exact absurd hdigit.1 (by decide)
  · exact absurd (List.mem_singleton.mp hchar) (by decide)

theorem splitOn_encodeRow (fields : List Int) :
    (encodeRow fields).splitOn separator = fields.map Decimal.encode ++ [[]] := by
  induction fields with
  | nil => rfl
  | cons field fields ih =>
      rw [encodeRow, List.flatMap_cons, List.append_assoc, List.singleton_append,
        List.splitOn_append_cons_self_of_not_mem (separator_not_mem field),
        ← encodeRow, ih]
      rfl

theorem mapM_decode_encode (fields : List Int) :
    (fields.map Decimal.encode).mapM Decimal.decode = some fields := by
  induction fields with
  | nil => rfl
  | cons field fields ih =>
      rw [List.map_cons, List.mapM_cons, Decimal.decode_encode, ih]
      rfl

theorem decodeRow_encodeRow (fields : List Int) :
    decodeRow (encodeRow fields) = some fields := by
  rw [decodeRow, splitOn_encodeRow]
  simp only [List.getLast?_concat, if_true, List.dropLast_concat,
    mapM_decode_encode]

theorem decode_encode (rows : List (List Int)) :
    decode (encode rows) = some rows := by
  have hlines : ∀ line ∈ rows.map encodeRow, Lines.cr ∉ line := by
    intro line hline
    obtain ⟨fields, -, rfl⟩ := List.mem_map.mp hline
    exact cr_not_mem fields
  rw [decode, encode, Lines.decode_encode hlines, Option.bind_some]
  clear hlines
  induction rows with
  | nil => rfl
  | cons fields rows ih =>
      rw [List.map_cons, List.mapM_cons, decodeRow_encodeRow, ih]
      rfl

theorem encode_cons (fields : List Int) (rows : List (List Int)) :
    encode (fields :: rows) = encodeRow fields ++ Lines.crlf ++ encode rows := rfl

end SenseBox.Data.Rows
