import SenseBox.Data.Text
import SenseBox.Data.Lines
import Mathlib.Data.List.Infix
import Mathlib.Data.List.TakeWhile
import Mathlib.Tactic.Common

namespace SenseBox

open SenseBox.Data

/-! The response of the server as the sketches show it on the serial port. -/

def httpPrefix : Text := text "HTTP/1.1 "
def responseLabel : Text := text "Server Response: "

/-- The bytes that have arrived and the locals of `waitForResponse`; `again` is
its `repeat`. -/
structure Reception where
  available : List UInt8
  c : UInt8
  response : Text
  again : Bool

namespace Reception

def read (s : Reception) : Reception :=
  match s.available with
  | [] => { s with again := false }
  | byte :: rest => { s with available := rest, c := byte }

/-- `response += c`, with the prefix taken off. -/
def append (response : Text) (c : UInt8) : Text :=
  if response ++ [c] = httpPrefix then [] else response ++ [c]

/-- One iteration; `c` is appended even when there was nothing to read. -/
def body (s : Reception) : Reception :=
  let s := s.read
  { s with
    response := append s.response s.c
    again := if s.c = Lines.lf then false else s.again }

theorem body_shrinks {s : Reception} (hagain : s.body.again = true) :
    s.body.available.length < s.available.length := by
  cases havailable : s.available with
  | nil => simp [body, read, havailable] at hagain
  | cons byte rest => simp [body, read, havailable]

/-- The `do` loop. -/
def await (s : Reception) : Reception :=
  if s.body.again then await s.body else s.body
termination_by s.available.length
decreasing_by exact body_shrinks ‹_›

end Reception

def SenseBoxIno.waitForResponse (received : List UInt8) (c : UInt8) : List Text :=
  [responseLabel, (Reception.await ⟨received, c, [], true⟩).response]

def SenseboxCodeDoor.waitForServerResponse (received : List UInt8) (c : UInt8) :
    List Text :=
  [responseLabel, (Reception.await ⟨received, c, [], true⟩).response]

/-! What is meant to be shown. -/

def firstLine (received : List UInt8) : List UInt8 :=
  received.takeWhile (· != Lines.lf) ++
    if Lines.lf ∈ received then [Lines.lf] else []

def withoutPrefix (line : Text) : Text :=
  if httpPrefix.isPrefixOf line then line.drop httpPrefix.length else line

/-! What is shown: the bytes the loop appends, without any of the prefixes they
begin with. -/

namespace Reception

def appended : List UInt8 → UInt8 → List UInt8
  | [], c => [c]
  | byte :: rest, _ =>
      if byte = Lines.lf then [byte] else byte :: appended rest byte

theorem length_appended (received : List UInt8) (c : UInt8)
    (hnone : Lines.lf ∉ received) :
    (appended received c).length = received.length + 1 := by
  induction received generalizing c with
  | nil => rfl
  | cons byte rest ih =>
      rw [List.mem_cons, not_or] at hnone
      obtain ⟨hbyte, hrest⟩ := hnone
      rw [appended, if_neg (Ne.symm hbyte), List.length_cons, ih byte hrest,
        List.length_cons]

theorem appended_eq_firstLine (received : List UInt8) (c : UInt8)
    (hline : Lines.lf ∈ received) : appended received c = firstLine received := by
  induction received generalizing c with
  | nil => cases hline
  | cons byte rest ih =>
      by_cases hbyte : byte = Lines.lf
      · simp [appended, firstLine, hbyte]
      · have hrest : Lines.lf ∈ rest := by
          simpa [Ne.symm hbyte] using hline
        rw [appended, if_neg hbyte, ih byte hrest]
        simp [firstLine, hbyte, hrest]

theorem await_response (available : List UInt8) (c : UInt8) (response : Text) :
    (await ⟨available, c, response, true⟩).response =
      (appended available c).foldl append response := by
  induction available generalizing c response with
  | nil =>
      have hbody : body ⟨[], c, response, true⟩ =
          ⟨[], c, append response c, false⟩ := by
        by_cases hnewline : c = Lines.lf <;> simp [body, read, hnewline]
      rw [await, hbody]
      rfl
  | cons byte rest ih =>
      rw [await]
      by_cases hbyte : byte = Lines.lf
      · simp [body, read, appended, hbyte]
      · have hbody : body ⟨byte :: rest, c, response, true⟩ =
            ⟨rest, byte, append response byte, true⟩ := by
          simp [body, read, hbyte]
        rw [hbody, if_pos rfl, ih, appended, if_neg hbyte, List.foldl_cons]

/-- The line is the response after some number of prefixes, and the response
does not begin with another. -/
def Stripped (line : List UInt8) (response : Text) : Prop :=
  (∃ copies, line = (List.replicate copies httpPrefix).flatten ++ response) ∧
    ¬ httpPrefix <+: response

theorem Stripped.append {line : List UInt8} {response : Text}
    (hstripped : Stripped line response) (c : UInt8) :
    Stripped (line ++ [c]) (append response c) := by
  obtain ⟨⟨copies, rfl⟩, hproper⟩ := hstripped
  rw [Reception.append, List.append_assoc]
  by_cases hprefix : response ++ [c] = httpPrefix
  · rw [if_pos hprefix, hprefix]
    refine ⟨⟨copies + 1, ?_⟩, by decide⟩
    rw [List.replicate_succ', List.flatten_append]
    simp
  · rw [if_neg hprefix]
    refine ⟨⟨copies, rfl⟩, ?_⟩
    rw [List.prefix_concat_iff]
    rintro (heq | hearlier)
    · exact hprefix heq.symm
    · exact hproper hearlier

theorem stripped_foldl {line : List UInt8} {response : Text}
    (hstripped : Stripped line response) (bytes : List UInt8) :
    Stripped (line ++ bytes) (bytes.foldl Reception.append response) := by
  induction bytes generalizing line response with
  | nil => simpa using hstripped
  | cons byte rest ih =>
      have hrest := ih (hstripped.append byte)
      rwa [List.append_assoc] at hrest

theorem Stripped.length {line : List UInt8} {response : Text}
    (hstripped : Stripped line response) :
    ∃ copies, line.length = httpPrefix.length * copies + response.length := by
  obtain ⟨⟨copies, rfl⟩, -⟩ := hstripped
  refine ⟨copies, ?_⟩
  rw [List.length_append, List.length_flatten, List.map_replicate,
    List.sum_replicate_nat, Nat.mul_comm]

theorem Stripped.eq_withoutPrefix_iff {line : List UInt8} {response : Text}
    (hstripped : Stripped line response) :
    response = withoutPrefix line ↔ ¬ httpPrefix ++ httpPrefix <+: line := by
  obtain ⟨⟨copies, rfl⟩, hproper⟩ := hstripped
  match copies with
  | 0 =>
      have hnone : ¬ httpPrefix ++ httpPrefix <+: response :=
        fun htwice => hproper ((List.prefix_append _ _).trans htwice)
      simp [withoutPrefix, hproper, hnone]
  | 1 =>
      simp [withoutPrefix, hproper, List.prefix_append_right_inj]
  | copies + 2 =>
      have htwice : (List.replicate (copies + 2) httpPrefix).flatten ++ response =
          httpPrefix ++ (httpPrefix ++
            ((List.replicate copies httpPrefix).flatten ++ response)) := by
        simp [List.replicate_succ]
      have hprefix : withoutPrefix (httpPrefix ++ (httpPrefix ++
          ((List.replicate copies httpPrefix).flatten ++ response))) =
          httpPrefix ++
            ((List.replicate copies httpPrefix).flatten ++ response) := by
        simp [withoutPrefix]
      rw [htwice, hprefix, ← List.append_assoc httpPrefix httpPrefix]
      constructor
      · intro hresponse
        have hlength := congrArg List.length hresponse
        have hpositive : 0 < httpPrefix.length := by decide
        simp only [List.length_append] at hlength
        omega
      · intro hnot
        exact absurd (List.prefix_append _ _) hnot

/-- Without a newline the last byte is appended twice, or `c` once, and taking
off prefixes cannot make up for it. -/
theorem Stripped.ne_withoutPrefix {received line : List UInt8} {response : Text}
    (hstripped : Stripped line response)
    (hlength : line.length = received.length + 1) :
    response ≠ withoutPrefix received := by
  intro hresponse
  obtain ⟨copies, hcopies⟩ := hstripped.length
  have hnine : httpPrefix.length = 9 := by decide
  rw [hlength, hnine, hresponse, withoutPrefix] at hcopies
  split at hcopies
  · next hprefix =>
    have hle := (List.isPrefixOf_iff_prefix.mp hprefix).length_le
    rw [List.length_drop, hnine] at hcopies
    omega
  · omega

end Reception

theorem firstLine_eq_self {received : List UInt8} (hnone : Lines.lf ∉ received) :
    firstLine received = received := by
  rw [firstLine, if_neg hnone, List.append_nil, List.takeWhile_eq_self_iff]
  intro byte hbyte
  rw [bne_iff_ne]
  rintro rfl
  exact hnone hbyte

theorem isPrefix_firstLine (received : List UInt8) : firstLine received <+: received := by
  induction received with
  | nil => exact List.prefix_refl _
  | cons byte rest ih =>
      by_cases hbyte : byte = Lines.lf
      · simp [firstLine, hbyte]
      · simpa [firstLine, hbyte, Ne.symm hbyte] using ih

theorem prefix_firstLine_iff {start received : List UInt8}
    (hline : Lines.lf ∈ received) (hstart : Lines.lf ∉ start) :
    start <+: firstLine received ↔ start <+: received := by
  constructor
  · exact fun hprefix => hprefix.trans (isPrefix_firstLine received)
  · intro hprefix
    rcases List.prefix_or_prefix_of_prefix hprefix (isPrefix_firstLine received)
      with hwithin | hcovers
    · exact hwithin
    · refine absurd (hcovers.subset ?_) hstart
      simp [firstLine, hline]

theorem response_eq_iff (received : List UInt8) (c : UInt8) :
    (Reception.await ⟨received, c, [], true⟩).response =
        withoutPrefix (firstLine received) ↔
      Lines.lf ∈ received ∧ ¬ httpPrefix ++ httpPrefix <+: received := by
  have hstart : Reception.Stripped [] [] := ⟨⟨0, rfl⟩, by decide⟩
  have hstripped := Reception.stripped_foldl hstart (Reception.appended received c)
  rw [Reception.await_response]
  by_cases hline : Lines.lf ∈ received
  · rw [List.nil_append, Reception.appended_eq_firstLine received c hline]
      at hstripped
    rw [Reception.appended_eq_firstLine received c hline,
      hstripped.eq_withoutPrefix_iff, prefix_firstLine_iff hline (by decide)]
    simp [hline]
  · have hne := hstripped.ne_withoutPrefix
      (Reception.length_appended received c hline)
    rw [firstLine_eq_self hline]
    simp [hline, hne]

/-- The response is shown as it was sent exactly when it has a newline and does
not begin with the prefix twice. -/
theorem response_shown_iff (received : List UInt8) (c : UInt8) :
    (SenseBoxIno.waitForResponse received c =
        [responseLabel, withoutPrefix (firstLine received)] ↔
      Lines.lf ∈ received ∧ ¬ httpPrefix ++ httpPrefix <+: received) ∧
    (SenseboxCodeDoor.waitForServerResponse received c =
        [responseLabel, withoutPrefix (firstLine received)] ↔
      Lines.lf ∈ received ∧ ¬ httpPrefix ++ httpPrefix <+: received) := by
  rw [SenseBoxIno.waitForResponse, SenseboxCodeDoor.waitForServerResponse]
  simp only [List.cons.injEq, true_and, and_true]
  exact ⟨response_eq_iff received c, response_eq_iff received c⟩

/-- With nothing received, what happened to be in `c` is shown. -/
theorem silence_shown :
    ¬ ∀ (received : List UInt8) (c : UInt8),
      SenseBoxIno.waitForResponse received c =
        [responseLabel, withoutPrefix (firstLine received)] := by
  intro hall
  have hresponse := List.head_eq_of_cons_eq (List.tail_eq_of_cons_eq (hall [] 0))
  exact absurd ((response_eq_iff [] 0).mp hresponse).1 (by decide)

end SenseBox
