import SenseBox.Data.Decimal
import SenseBox.Data.Text
import Mathlib.Data.Nat.Digits.Lemmas

namespace SenseBox.Data.Json

/-! The part of JSON for an object whose only member is a number. -/

def IsSpace (char : UInt8) : Prop :=
  char = 0x20 ∨ char = 0x09 ∨ char = 0x0A ∨ char = 0x0D

inductive IsSpaces : Text → Prop where
  | nil : IsSpaces []
  | cons {char : UInt8} {rest : Text} (hchar : IsSpace char)
      (hrest : IsSpaces rest) : IsSpaces (char :: rest)

inductive IsDigits : Text → Prop where
  | one {char : UInt8} (hchar : Decimal.IsDigit char) : IsDigits [char]
  | cons {char : UInt8} {rest : Text} (hchar : Decimal.IsDigit char)
      (hrest : IsDigits rest) : IsDigits (char :: rest)

/-- There are no leading zeros. -/
inductive IsInt : Text → Prop where
  | digit {char : UInt8} (hchar : Decimal.IsDigit char) : IsInt [char]
  | digits {char : UInt8} {rest : Text} (hchar : Decimal.IsDigit char)
      (hleading : char ≠ 0x30) (hrest : IsDigits rest) : IsInt (char :: rest)

inductive IsFrac : Text → Prop where
  | none : IsFrac []
  | some {digits : Text} (hdigits : IsDigits digits) : IsFrac (0x2E :: digits)

inductive IsSign : Text → Prop where
  | none : IsSign []
  | plus : IsSign [0x2B]
  | minus : IsSign [Decimal.minus]

inductive IsExp : Text → Prop where
  | none : IsExp []
  | some {mark : UInt8} {sign digits : Text} (hmark : mark = 0x65 ∨ mark = 0x45)
      (hsign : IsSign sign) (hdigits : IsDigits digits) :
      IsExp (mark :: (sign ++ digits))

inductive IsNumber : Text → Prop where
  | mk {minus whole frac exp : Text} (hminus : minus = [] ∨ minus = [Decimal.minus])
      (hwhole : IsInt whole) (hfrac : IsFrac frac) (hexp : IsExp exp) :
      IsNumber (minus ++ (whole ++ (frac ++ exp)))

/-- `{"name": number}`, with spaces wherever they may stand. -/
inductive IsNumberObject (name : Text) : Text → Prop where
  | mk {first second third fourth number : Text} (hfirst : IsSpaces first)
      (hsecond : IsSpaces second) (hthird : IsSpaces third)
      (hfourth : IsSpaces fourth) (hnumber : IsNumber number) :
      IsNumberObject name
        (0x7B :: (first ++ 0x22 :: (name ++ 0x22 :: (second ++
          0x3A :: (third ++ (number ++ (fourth ++ [0x7D])))))))

/-! The characters of a number. -/

def IsNumberChar (char : UInt8) : Prop :=
  Decimal.IsDigit char ∨ char ∈ ([0x2B, 0x2D, 0x2E, 0x45, 0x65] : Text)

theorem IsSpaces.mem {chars : Text} (hchars : IsSpaces chars) {char : UInt8}
    (hchar : char ∈ chars) : IsSpace char := by
  induction hchars with
  | nil => cases hchar
  | cons hhead hrest ih =>
      rcases List.mem_cons.mp hchar with rfl | htail
      · exact hhead
      · exact ih htail

theorem IsDigits.mem {chars : Text} (hchars : IsDigits chars) {char : UInt8}
    (hchar : char ∈ chars) : Decimal.IsDigit char := by
  induction hchars with
  | one hdigit => exact List.mem_singleton.mp hchar ▸ hdigit
  | cons hdigit hrest ih =>
      rcases List.mem_cons.mp hchar with rfl | htail
      · exact hdigit
      · exact ih htail

theorem IsNumber.mem {chars : Text} (hchars : IsNumber chars) {char : UInt8}
    (hchar : char ∈ chars) : IsNumberChar char := by
  obtain ⟨hminus, hwhole, hfrac, hexp⟩ := hchars
  simp only [List.mem_append] at hchar
  rcases hchar with hchar | hchar | hchar | hchar
  · rcases hminus with rfl | rfl
    · cases hchar
    · exact .inr (by simp [List.mem_singleton.mp hchar, Decimal.minus])
  · cases hwhole with
    | digit hdigit => exact .inl (List.mem_singleton.mp hchar ▸ hdigit)
    | digits hdigit hleading hrest =>
        rcases List.mem_cons.mp hchar with rfl | htail
        · exact .inl hdigit
        · exact .inl (hrest.mem htail)
  · cases hfrac with
    | none => cases hchar
    | some hdigits =>
        rcases List.mem_cons.mp hchar with rfl | htail
        · exact .inr (by simp)
        · exact .inl (hdigits.mem htail)
  · cases hexp with
    | none => cases hchar
    | some hmark hsign hdigits =>
        rcases List.mem_cons.mp hchar with rfl | htail
        · rcases hmark with rfl | rfl <;> exact .inr (by simp)
        · rcases List.mem_append.mp htail with hchar | hchar
          · cases hsign with
            | none => cases hchar
            | plus => exact .inr (by simp [List.mem_singleton.mp hchar])
            | minus =>
                exact .inr (by simp [List.mem_singleton.mp hchar, Decimal.minus])
          · exact .inl (hdigits.mem hchar)

theorem IsNumberObject.mem {name chars : Text}
    (hchars : IsNumberObject name chars) {char : UInt8} (hchar : char ∈ chars) :
    char ∈ name ∨ IsSpace char ∨ IsNumberChar char ∨
      char ∈ ([0x7B, 0x22, 0x3A, 0x7D] : Text) := by
  obtain ⟨hfirst, hsecond, hthird, hfourth, hnumber⟩ := hchars
  simp only [List.mem_append, List.mem_cons, List.not_mem_nil, or_false] at hchar
  rcases hchar with hchar | hchar | hchar | hchar | hchar | hchar | hchar |
    hchar | hchar | hchar | hchar
  · simp [hchar]
  · exact .inr (.inl (hfirst.mem hchar))
  · simp [hchar]
  · exact .inl hchar
  · simp [hchar]
  · exact .inr (.inl (hsecond.mem hchar))
  · simp [hchar]
  · exact .inr (.inl (hthird.mem hchar))
  · exact .inr (.inr (.inl (hnumber.mem hchar)))
  · exact .inr (.inl (hfourth.mem hchar))
  · simp [hchar]

/-! Decimal texts are numbers. -/

theorem isSpaces_replicate (count : Nat) :
    IsSpaces (List.replicate count 0x20) := by
  induction count with
  | zero => exact .nil
  | succ count ih => exact .cons (.inl rfl) ih

theorem isDigits_of_mem {chars : Text} (hnonempty : chars ≠ [])
    (hchars : ∀ char ∈ chars, Decimal.IsDigit char) : IsDigits chars := by
  induction chars with
  | nil => exact absurd rfl hnonempty
  | cons char rest ih =>
      have hchar := hchars char (by simp)
      by_cases hrest : rest = []
      · rw [hrest]
        exact .one hchar
      · exact .cons hchar
          (ih hrest fun other hother => hchars other (by simp [hother]))

theorem isInt_reverse {places : List Nat} (hnonempty : places ≠ [])
    (hlast : places.getLast hnonempty ≠ 0) (hplaces : ∀ place ∈ places, place < 10) :
    IsInt (places.reverse.map Decimal.digit) := by
  have htop := hplaces _ (List.getLast_mem hnonempty)
  have hleading : Decimal.digit (places.getLast hnonempty) ≠ 0x30 := by
    intro hzero
    have hnat := congrArg UInt8.toNat hzero
    rw [Decimal.toNat_digit htop] at hnat
    simp only [UInt8.reduceToNat] at hnat
    omega
  have hrest : ∀ char ∈ places.dropLast.reverse.map Decimal.digit,
      Decimal.IsDigit char := by
    intro char hchar
    obtain ⟨place, hplace, rfl⟩ := List.mem_map.mp hchar
    exact Decimal.isDigit_digit
      (hplaces place (List.mem_of_mem_dropLast (List.mem_reverse.mp hplace)))
  have hchars : places.reverse.map Decimal.digit =
      Decimal.digit (places.getLast hnonempty) ::
        places.dropLast.reverse.map Decimal.digit := by
    conv_lhs => rw [← List.dropLast_concat_getLast hnonempty]
    rw [List.reverse_append, List.map_append]
    rfl
  rw [hchars]
  by_cases hshort : places.dropLast.reverse.map Decimal.digit = []
  · rw [hshort]
    exact .digit (Decimal.isDigit_digit htop)
  · exact .digits (Decimal.isDigit_digit htop) hleading
      (isDigits_of_mem hshort hrest)

theorem isInt_encodeNat (value : Nat) : IsInt (Decimal.encodeNat value) := by
  unfold Decimal.encodeNat
  split
  · exact .digit (Decimal.isDigit_digit (by decide))
  · next hvalue =>
    exact isInt_reverse (Nat.digits_ne_nil_iff_ne_zero.mpr hvalue)
      (Nat.getLast_digit_ne_zero 10 hvalue)
      fun place hplace => Nat.digits_lt_base (by decide) hplace

end SenseBox.Data.Json
