import SenseBox.SenseBoxIno.Model
import SenseBox.Data.Hex

namespace SenseBox.SenseBoxIno

open SenseBox.Data
open SenseBox.Device

/-! The CSV document: what is printed, and what it decodes to. -/

theorem hexDigit_eq {nibble : UInt8} (hnibble : nibble < 16) :
    hexDigit nibble = Hex.digit nibble := by
  obtain ⟨place, rfl⟩ := Hex.ofNat_nibble hnibble
  clear hnibble
  revert place
  decide

theorem toNat_succ {i length : UInt8} (hlt : i < length) :
    (i + 1).toNat = i.toNat + 1 := by
  have hi := UInt8.lt_iff_toNat_lt.mp hlt
  have hlength := length.toNat_lt
  have hnext : (i + 1).toNat = (i.toNat + 1) % 2 ^ 8 := UInt8.toNat_add i 1
  omega

theorem hexLoop_eq (data : Nat → UInt8) (length : UInt8) (left : Nat)
    (i : UInt8) (hleft : i.toNat + left = length.toNat) (j : Int16)
    (stream : Text) :
    hexLoop data length i j stream =
      (j + Int16.ofNat (2 * left),
        stream ++ Hex.encode
          ((List.range' i.toNat left).map data)) := by
  induction left generalizing i j stream with
  | zero =>
      have hdone : ¬ i < length := by
        rw [UInt8.lt_iff_toNat_lt]
        omega
      rw [hexLoop, if_neg hdone]
      simp [Hex.encode]
  | succ left ih =>
      have hmore : i < length := by
        rw [UInt8.lt_iff_toNat_lt]
        omega
      have hnext := toNat_succ hmore
      have hcount : j + 1 + 1 + Int16.ofNat (2 * left) =
          j + Int16.ofNat (2 * (left + 1)) := by
        rw [Nat.mul_succ, Nat.add_comm, Int16.ofNat_add, Int16.add_assoc j 1 1,
          Int16.add_assoc]
        rfl
      rw [hexLoop, if_pos hmore, ih (i + 1) (by omega), hcount,
        hexDigit_eq (Hex.high_lt _), hexDigit_eq (Hex.low_lt _), hnext,
        List.range'_succ, List.map_cons]
      simp [Hex.encode]

def arrayPointer (bytes : List UInt8) (offset : Nat) : UInt8 :=
  bytes.getD offset 0

theorem map_arrayPointer (bytes : List UInt8) :
    (List.range' 0 bytes.length).map (arrayPointer bytes) = bytes := by
  apply List.ext_getElem
  · simp
  · intro offset hleft hright
    simp [arrayPointer, hright]

theorem printHexToStream_eq {bytes : List UInt8} (hlength : bytes.length ≤ 255)
    (stream : Text) :
    printHexToStream (arrayPointer bytes) (UInt8.ofNat bytes.length) stream =
      (Int16.ofNat (2 * bytes.length), stream ++ Hex.encode bytes) := by
  have hcount : (UInt8.ofNat bytes.length).toNat = bytes.length := by
    rw [UInt8.toNat_ofNat']
    omega
  have hloop := hexLoop_eq (arrayPointer bytes) (UInt8.ofNat bytes.length)
    bytes.length 0 ((Nat.zero_add _).trans hcount.symm) 0 stream
  rw [UInt8.toNat_zero, map_arrayPointer, Int16.zero_add] at hloop
  exact hloop

theorem printHexToStream_id (id : Id) (stream : Text) :
    printHexToStream (pointer id) 12 stream =
      (24, stream ++ Hex.encode id.toList) := by
  have hlength : id.toList.length = 12 := Vector.length_toList
  have hprinted := printHexToStream_eq (show id.toList.length ≤ 255 by omega)
    stream
  rw [hlength] at hprinted
  exact hprinted

/-- Different arrays of one length are printed as different texts, and the bytes
can be read back from the text. -/
theorem printHexToStream_lossless (bytes : List UInt8)
    (hlength : bytes.length ≤ 255) (stream : Text) :
    ∃ count chars,
      printHexToStream (arrayPointer bytes) (UInt8.ofNat bytes.length) stream =
        (count, stream ++ chars) ∧
      chars.length = 2 * bytes.length ∧ count.toInt = 2 * bytes.length ∧
      (∀ char ∈ chars, Hex.IsHexDigit char) ∧
      Hex.decode chars = some bytes ∧
      ∀ others : List UInt8, others.length = bytes.length → others ≠ bytes →
        (printHexToStream (arrayPointer others) (UInt8.ofNat others.length)
          stream).2 ≠ stream ++ chars := by
  refine ⟨_, _, printHexToStream_eq hlength stream, Hex.length_encode bytes, ?_,
    fun char => Hex.isHexDigit_encode, Hex.decode_encode bytes, ?_⟩
  · rw [Int16.toInt_ofNat_of_lt (by omega), Nat.cast_mul]
    rfl
  · intro others hsame hdiffer hequal
    rw [printHexToStream_eq (hsame.trans_le hlength)] at hequal
    have htexts := List.append_cancel_left hequal
    have hbytes := congrArg Hex.decode htexts
    rw [Hex.decode_encode, Hex.decode_encode] at hbytes
    exact hdiffer (Option.some.inj hbytes)

theorem printHexToStream_lossless_pair : ∃ count chars,
    printHexToStream (arrayPointer [0x5A, 0x0F]) 2 [] = (count, [] ++ chars) ∧
      chars.length = 4 ∧ count.toInt = 4 ∧
      (∀ char ∈ chars, Hex.IsHexDigit char) ∧
      Hex.decode chars = some [0x5A, 0x0F] ∧
      ∀ others : List UInt8, others.length = 2 → others ≠ [0x5A, 0x0F] →
        (printHexToStream (arrayPointer others) (UInt8.ofNat others.length)
          []).2 ≠ [] ++ chars :=
  printHexToStream_lossless [0x5A, 0x0F] (by decide) []

/-! The rows. -/

variable (core : FloatText)

/-- The row of a sensor: its identifier and the text of its value, if that is a
number. -/
def row (s : State) (i : Nat) : Option (List UInt8 × Text) :=
  match s.values[i]?, sensors[i]? with
  | some value, some id =>
      if value.isNan then none
      else some (id.toList, core.chars value (if i < 3 then 2 else 0))
  | _, _ => none

theorem row_some {s : State} {i : Nat} {entry : List UInt8 × Text}
    (hrow : row core s i = some entry) :
    ∃ value id, s.values[i]? = some value ∧ sensors[i]? = some id ∧
      value.isNan = false ∧
      entry = (id.toList, core.chars value (if i < 3 then 2 else 0)) := by
  unfold row at hrow
  split at hrow
  · next value id hvalue hid =>
    split at hrow
    · cases hrow
    · next hnumber =>
      cases hrow
      exact ⟨value, id, hvalue, hid, by simpa using hnumber, rfl⟩
  · cases hrow

def rows (s : State) : List (List UInt8 × Text) :=
  (List.range s.sensorsIndex.toNat).filterMap (row core s)

def encodeLine (entry : List UInt8 × Text) : Text :=
  Hex.encode entry.1 ++ comma :: entry.2

def encodeCsv (entries : List (List UInt8 × Text)) : Text :=
  Lines.encode (entries.map encodeLine)

theorem encodeCsv_cons (entry : List UInt8 × Text)
    (entries : List (List UInt8 × Text)) :
    encodeCsv (entry :: entries) =
      encodeLine entry ++ Lines.crlf ++ encodeCsv entries := rfl

theorem encodeCsv_append (first second : List (List UInt8 × Text)) :
    encodeCsv (first ++ second) = encodeCsv first ++ encodeCsv second := by
  simp [encodeCsv, Lines.encode]

theorem digits_eq (i : UInt8) : digits i = if i.toNat < 3 then 2 else 0 := by
  simp only [digits, UInt8.lt_iff_toNat_lt]
  rfl

theorem length_encodeLine (id : Id) (chars : Text) :
    (encodeLine (id.toList, chars)).length = 24 + (1 + chars.length) := by
  simp only [encodeLine, List.length_append, Hex.length_encode,
    Vector.length_toList, List.length_cons]
  omega

/-- One iteration prints the row of its sensor, if it has one. -/
theorem csvLoop_step (s : State) (hindex : s.sensorsIndex.toNat ≤ 5) {i : UInt8}
    (hmore : i < s.sensorsIndex) (len : Int16) (stream : Text) :
    let csv := encodeCsv (row core s i.toNat).toList
    csvLoop core s i len stream =
      csvLoop core s (i + 1) (len + Int16.ofNat csv.length) (stream ++ csv) := by
  have hi : i.toNat < numSensors := by
    have := UInt8.lt_iff_toNat_lt.mp hmore
    show i.toNat < 5
    omega
  have hvalue : s.values[i.toNat]? = some s.values[i.toNat] :=
    Vector.getElem?_eq_getElem hi
  have hid : sensors[i.toNat]? = some sensors[i.toNat] :=
    Vector.getElem?_eq_getElem hi
  rw [csvLoop, if_pos hmore, row, hvalue, hid]
  cases hnan : s.values[i.toNat].isNan with
  | true => simp [encodeCsv, Lines.encode, hnan]
  | false =>
      simp only [hnan, Bool.not_false, Bool.false_eq_true, if_false, if_true,
        printHexToStream_id, println, print, digits_eq, Option.toList_some,
        encodeCsv, Lines.encode, List.map_cons, List.map_nil,
        List.flatMap_cons, List.flatMap_nil, List.append_nil]
      generalize core.chars _ _ = chars
      have hlength : (encodeLine (sensors[i.toNat].toList, chars) ++
          Lines.crlf).length = 24 + (1 + (chars ++ Lines.crlf).length) := by
        simp only [List.length_append, length_encodeLine]
        omega
      have hbytes : encodeLine (sensors[i.toNat].toList, chars) ++ Lines.crlf =
          Hex.encode sensors[i.toNat].toList ++ [comma] ++
            (chars ++ Lines.crlf) := by
        simp [encodeLine]
      rw [hlength, hbytes]
      simp only [Int16.ofNat_add, Int16.add_assoc, List.append_assoc]
      rfl

theorem csvLoop_eq (s : State) (hindex : s.sensorsIndex.toNat ≤ 5) (left : Nat)
    (i : UInt8) (hleft : i.toNat + left = s.sensorsIndex.toNat) (len : Int16)
    (stream : Text) :
    let csv := encodeCsv ((List.range' i.toNat left).filterMap (row core s))
    csvLoop core s i len stream =
      some (len + Int16.ofNat csv.length, stream ++ csv) := by
  induction left generalizing i len stream with
  | zero =>
      have hdone : ¬ i < s.sensorsIndex := by
        rw [UInt8.lt_iff_toNat_lt]
        omega
      rw [csvLoop, if_neg hdone]
      simp [encodeCsv, Lines.encode]
  | succ left ih =>
      have hmore : i < s.sensorsIndex := by
        rw [UInt8.lt_iff_toNat_lt]
        omega
      have hnext := toNat_succ hmore
      have hrows : (List.range' i.toNat (left + 1)).filterMap (row core s) =
          (row core s i.toNat).toList ++
            (List.range' (i.toNat + 1) left).filterMap (row core s) := by
        rw [List.range'_succ, List.filterMap_cons]
        cases row core s i.toNat <;> rfl
      rw [csvLoop_step core s hindex hmore, ih (i + 1) (by omega), hnext, hrows,
        encodeCsv_append]
      dsimp only
      rw [List.length_append, Int16.ofNat_add, Int16.add_assoc,
        List.append_assoc]

theorem printCsvToStream_eq {s : State} (hindex : s.sensorsIndex.toNat ≤ 5)
    (stream : Text) :
    printCsvToStream core s stream =
      some (Int16.ofNat (encodeCsv (rows core s)).length,
        stream ++ encodeCsv (rows core s)) := by
  have hloop := csvLoop_eq core s hindex s.sensorsIndex.toNat 0
    (Nat.zero_add _) 0 stream
  simp only [Int16.zero_add] at hloop
  rw [printCsvToStream, hloop, rows, List.range_eq_range']
  rfl

/-! Reading it back. -/

def decodeId (field : Text) : Option (List UInt8) :=
  if field.length = 24 then Hex.decode field else none

def decodeLine (line : Text) : Option (List UInt8 × Text) :=
  match line.splitOn comma with
  | [field, value] => (decodeId field).map fun id => (id, value)
  | _ => none

def decodeCsv (chars : Text) : Option (List (List UInt8 × Text)) :=
  (Lines.decode chars).bind fun lines => lines.mapM decodeLine

structure Readable (entry : List UInt8 × Text) : Prop where
  id : entry.1.length = 12
  comma : comma ∉ entry.2
  cr : Lines.cr ∉ entry.2

theorem not_mem_hex {char : UInt8} (hchar : ¬ Hex.IsHexDigit char)
    (bytes : List UInt8) : char ∉ Hex.encode bytes :=
  fun hmember => hchar (Hex.isHexDigit_encode hmember)

theorem decodeLine_encodeLine {entry : List UInt8 × Text}
    (hentry : Readable entry) : decodeLine (encodeLine entry) = some entry := by
  have hcomma : comma ∉ Hex.encode entry.1 :=
    not_mem_hex (by unfold Hex.IsHexDigit; decide) _
  have hlength : (Hex.encode entry.1).length = 24 := by
    rw [Hex.length_encode, hentry.id]
  rw [decodeLine, encodeLine, List.splitOn_append_cons_self_of_not_mem hcomma,
    List.splitOn_eq_singleton hentry.comma]
  simp only [decodeId, hlength, if_true, Hex.decode_encode, Option.map_some]

theorem decodeCsv_encodeCsv {entries : List (List UInt8 × Text)}
    (hentries : ∀ entry ∈ entries, Readable entry) :
    decodeCsv (encodeCsv entries) = some entries := by
  have hlines : ∀ line ∈ entries.map encodeLine, Lines.cr ∉ line := by
    intro line hline hmember
    obtain ⟨entry, hentry, rfl⟩ := List.mem_map.mp hline
    rcases List.mem_append.mp hmember with hhex | hrest
    · exact not_mem_hex (by unfold Hex.IsHexDigit; decide) _ hhex
    · rcases List.mem_cons.mp hrest with hcomma | hvalue
      · exact absurd hcomma (by decide)
      · exact (hentries entry hentry).cr hvalue
  rw [decodeCsv, encodeCsv, Lines.decode_encode hlines, Option.bind_some]
  clear hlines
  induction entries with
  | nil => rfl
  | cons entry entries ih =>
      rw [List.map_cons, List.mapM_cons,
        decodeLine_encodeLine (hentries entry (by simp)),
        ih fun other member => hentries other (by simp [member])]
      rfl

theorem readable_rows (s : State) : ∀ entry ∈ rows core s, Readable entry := by
  intro entry hentry
  obtain ⟨i, -, hrow⟩ := List.mem_filterMap.mp hentry
  obtain ⟨value, id, -, -, -, rfl⟩ := row_some core hrow
  exact ⟨by simp, core.no_comma _ _, core.no_cr _ _⟩

/-- The CSV document decodes to the identifiers and texts of the values that
are numbers. -/
theorem csv_decodes (core : FloatText) (s : State) (stream : Text)
    (hindex : s.sensorsIndex.toNat ≤ 5) :
    ∃ len csv, printCsvToStream core s stream = some (len, stream ++ csv) ∧
      decodeCsv csv = some (rows core s) :=
  ⟨_, _, printCsvToStream_eq core hindex stream,
    decodeCsv_encodeCsv (readable_rows core s)⟩

def sample : State :=
  { initial with
    sensorsIndex := 5
    values := #v[.fin (43 / 2), .fin 40, .nan, .fin 300, .fin 15] }

theorem rows_sample : rows arduinoText sample =
    [(sensors[0].toList, text "21.50"), (sensors[1].toList, text "40.00"),
      (sensors[3].toList, text "300"), (sensors[4].toList, text "15")] := by
  decide +kernel

theorem csv_decodes_sample :
    ∃ len csv, printCsvToStream arduinoText sample [] = some (len, csv) ∧
      decodeCsv csv = some
        [(sensors[0].toList, text "21.50"), (sensors[1].toList, text "40.00"),
          (sensors[3].toList, text "300"), (sensors[4].toList, text "15")] := by
  rw [← rows_sample]
  exact csv_decodes arduinoText sample [] (by decide)

end SenseBox.SenseBoxIno
