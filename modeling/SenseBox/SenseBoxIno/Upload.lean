import SenseBox.SenseBoxIno.Csv

namespace SenseBox.SenseBoxIno

open SenseBox.Data
open SenseBox.Device

/-! The request of an upload, as the server reads it. -/

def requestLine : Text :=
  text "POST /boxes/" ++ Hex.encode senseboxId.toList ++ text "/data HTTP/1.1"

def hostLine : Text := text "Host: 52.57.90.92"
def typeLine : Text := text "Content-Type: text/csv"
def connectionLine : Text := text "Connection: close"
def lengthField : Text := text "Content-Length: "

def headLines (contentLen : Int16) : List Text :=
  [requestLine, hostLine, typeLine, connectionLine,
    lengthField ++ Decimal.encode contentLen.toInt]

/-- The head as it is sent: two of its lines end in a line feed alone. -/
def headText (contentLen : Int16) : Text :=
  requestLine ++ Lines.crlf ++ (hostLine ++ Lines.crlf ++
    (typeLine ++ Lines.lf :: (connectionLine ++ Lines.lf ::
      (lengthField ++ Decimal.encode contentLen.toInt ++ Lines.crlf ++
        Lines.crlf))))

theorem lf_not_mem_length (contentLen : Int16) :
    Lines.lf ∉ lengthField ++ Decimal.encode contentLen.toInt := by
  intro hmember
  rcases List.mem_append.mp hmember with hfield | hvalue
  · exact absurd hfield (by decide)
  · rcases Decimal.char_encode hvalue with hminus | hdigit
    · exact absurd hminus (by decide)
    · exact absurd hdigit.1 (by decide)

theorem head_headText (contentLen : Int16) (body : Text) :
    Lines.head (headText contentLen ++ body) =
      some (headLines contentLen, body) := by
  have hlength : lengthField ++ Decimal.encode contentLen.toInt ≠ [] := by
    simp [lengthField, text]
  have hsplit : headText contentLen ++ body =
      requestLine ++ Lines.crlf ++ (hostLine ++ Lines.crlf ++
        (typeLine ++ Lines.lf :: (connectionLine ++ Lines.lf ::
          (lengthField ++ Decimal.encode contentLen.toInt ++ Lines.crlf ++
            (Lines.crlf ++ body))))) := by
    simp [headText]
  rw [hsplit, Lines.head, Lines.cutHead_crlf (by decide) (by decide),
    Lines.cutHead_crlf (by decide) (by decide),
    Lines.cutHead_lf (by decide) (by decide) (by decide),
    Lines.cutHead_lf (by decide) (by decide) (by decide),
    Lines.cutHead_crlf (lf_not_mem_length contentLen) hlength,
    Lines.cutHead_blank]
  rfl

def contentLength (lines : List Text) : Option Nat :=
  lines.findSome? fun line =>
    if lengthField <+: line then
      Decimal.decodeNat (line.drop lengthField.length)
    else none

theorem contentLength_headLines {contentLen : Int16} {count : Nat}
    (hcount : contentLen.toInt = count) :
    contentLength (headLines contentLen) = some count := by
  have hrequest : ¬ lengthField <+: requestLine := by decide
  have hhost : ¬ lengthField <+: hostLine := by decide
  have htype : ¬ lengthField <+: typeLine := by decide
  have hconnection : ¬ lengthField <+: connectionLine := by decide
  simp only [contentLength, headLines, List.findSome?_cons, hrequest, hhost,
    htype, hconnection, if_false, List.prefix_append, if_true,
    List.drop_left, hcount, Decimal.encode_natCast,
    Decimal.decodeNat_encodeNat]

/-! The CSV document is short enough for an `int`. -/

variable (core : FloatText)

theorem length_row_le {s : State} {i : Nat} {entry : List UInt8 × Text}
    (hrow : row core s i = some entry) :
    (encodeLine entry ++ Lines.crlf).length ≤ 41 := by
  obtain ⟨value, id, -, -, -, rfl⟩ := row_some core hrow
  have hshort := core.short value (if i < 3 then 2 else 0)
  have hdigits : (if i < 3 then 2 else 0) ≤ 2 := by split <;> decide
  rw [List.length_append, length_encodeLine]
  simp only [Lines.crlf, List.length_cons, List.length_nil]
  omega

theorem length_encodeCsv_le (s : State) (places : List Nat) :
    (encodeCsv (places.filterMap (row core s))).length ≤ 41 * places.length := by
  induction places with
  | nil => exact Nat.le_refl _
  | cons i places ih =>
      rw [List.filterMap_cons, List.length_cons]
      split
      · omega
      · next entry hrow =>
        have hfirst := length_row_le core hrow
        rw [encodeCsv_cons, List.length_append]
        omega

theorem contentLen_toInt {s : State} (hindex : s.sensorsIndex.toNat ≤ 5) :
    (Int16.ofNat (encodeCsv (rows core s)).length).toInt =
      ((encodeCsv (rows core s)).length : Int) := by
  have hlength := length_encodeCsv_le core s
    (List.range s.sensorsIndex.toNat)
  rw [List.length_range] at hlength
  exact Int16.toInt_ofNat_of_lt (by rw [rows]; omega)

theorem submitValues_eq {s : State} (hindex : s.sensorsIndex.toNat ≤ 5) :
    submitValues core true s =
      some (.sent
        (headText (Int16.ofNat (encodeCsv (rows core s)).length) ++
          (encodeCsv (rows core s) ++ Lines.crlf))
        { s with sensorsIndex := 0 }) := by
  have hfields : text
      "Content-Type: text/csv\nConnection: close\nContent-Length: " =
      typeLine ++ Lines.lf :: (connectionLine ++ Lines.lf :: lengthField) := by
    decide
  have hhost : hostLine = text "Host: " ++ text "52.57.90.92" := by decide
  simp only [submitValues, if_true, print, println, printHexToStream_id,
    printCsvToStream_eq core hindex, flatten_printInt, hfields, headText,
    requestLine, hhost]
  simp

/-- The number sent as the content length is the length of the document that is
sent after the head, and only a line end follows the document. -/
theorem content_length_agrees (core : FloatText) (s : State)
    (hindex : s.sensorsIndex.toNat ≤ 5) :
    ∃ len csv client lines body,
      (∀ stream, printCsvToStream core s stream = some (len, stream ++ csv)) ∧
      submitValues core true s =
        some (.sent client { s with sensorsIndex := 0 }) ∧
      Lines.head client = some (lines, body) ∧
      len.toInt = csv.length ∧
      contentLength lines = some csv.length ∧
      body.take csv.length = csv ∧
      body.drop csv.length = Lines.crlf := by
  have hcount := contentLen_toInt core hindex
  exact ⟨_, _, _, _, _, printCsvToStream_eq core hindex,
    submitValues_eq core hindex, head_headText _ _, hcount,
    contentLength_headLines hcount, List.take_left, List.drop_left⟩

theorem content_length_sample :
    ∃ client lines body,
      submitValues arduinoText true sample =
        some (.sent client { sample with sensorsIndex := 0 }) ∧
      Lines.head client = some (lines, body) ∧
      contentLength lines = some 123 ∧
      body.drop 123 = Lines.crlf := by
  obtain ⟨len, csv, client, lines, body, hprint, hsent, hhead, -, hcount, -,
    hafter⟩ := content_length_agrees arduinoText sample (by decide)
  have hcsv : csv = encodeCsv (rows arduinoText sample) := by
    have hsame := (hprint []).symm.trans
      (printCsvToStream_eq arduinoText (by decide) [])
    simpa using (Prod.mk.inj (Option.some.inj hsame)).2
  have hlength : csv.length = 123 := by
    rw [hcsv, rows_sample]
    decide +kernel
  rw [hlength] at hcount hafter
  exact ⟨client, lines, body, hsent, hhead, hcount, hafter⟩

end SenseBox.SenseBoxIno
