import SenseBox.Data.Decimal
import SenseBox.Data.Flt
import SenseBox.Data.Text
import Mathlib.Data.Nat.Digits.Lemmas

namespace SenseBox.Device

open SenseBox.Data

/-! The text of a floating-point number.  `Print` is not part of the repository;
what is used of it is that a text depends on the number and the digits after
the point only, has neither a comma nor the characters of a line end, and is at
most a sign, ten digits, a point and those digits long. -/

def comma : UInt8 := 0x2C

structure FloatText where
  chars : Flt → Nat → Text
  no_comma : ∀ value digits, comma ∉ chars value digits
  no_cr : ∀ value digits, (0x0D : UInt8) ∉ chars value digits
  no_lf : ∀ value digits, (0x0A : UInt8) ∉ chars value digits
  short : ∀ value digits, (chars value digits).length ≤ 12 + digits

def fraction (value : ℚ) (digits : Nat) : Text :=
  (List.range digits).map fun place =>
    Decimal.digit (⌊value * 10 ^ (place + 1)⌋₊ % 10)

/-- The text of a number that is small enough to be printed: it is rounded at
its last digit, and then its digits are cut off one by one. -/
def printFinite (value : ℚ) (digits : Nat) : Text :=
  let rounded := |value| + 1 / 2 / 10 ^ digits
  (if value < 0 then [Decimal.minus] else []) ++
    Decimal.encodeNat ⌊rounded⌋₊ ++
    if digits = 0 then [] else 0x2E :: fraction rounded digits

/-- `printFloat` of the Arduino core, without the rounding of its operations. -/
def printFloat (number : Flt) (digits : Nat) : Text :=
  match number with
  | .nan => text "nan"
  | .inf _ => text "inf"
  | .fin value =>
      if 4294967040 < |value| then text "ovf" else printFinite value digits

def IsNumeral (char : UInt8) : Prop :=
  char = Decimal.minus ∨ char = 0x2E ∨ Decimal.IsDigit char

theorem isNumeral_printFinite {value : ℚ} {digits : Nat} {char : UInt8}
    (hchar : char ∈ printFinite value digits) : IsNumeral char := by
  unfold printFinite at hchar
  rcases List.mem_append.mp hchar with hhead | hfraction
  · rcases List.mem_append.mp hhead with hsign | hwhole
    · split at hsign
      · exact .inl (List.mem_singleton.mp hsign)
      · cases hsign
    · exact .inr (.inr (Decimal.isDigit_encodeNat hwhole))
  · split at hfraction
    · cases hfraction
    · rcases List.mem_cons.mp hfraction with hpoint | hdigit
      · exact .inr (.inl hpoint)
      · obtain ⟨place, -, rfl⟩ := List.mem_map.mp hdigit
        exact .inr (.inr (Decimal.isDigit_digit (Nat.mod_lt _ (by decide))))

theorem not_mem_printFloat {char : UInt8} (hnumeral : ¬ IsNumeral char)
    (hletters : char ∉ text "nan" ++ text "inf" ++ text "ovf") (number : Flt)
    (digits : Nat) : char ∉ printFloat number digits := by
  simp only [List.mem_append, not_or] at hletters
  unfold printFloat
  split
  · exact hletters.1.1
  · exact hletters.1.2
  · split
    · exact hletters.2
    · exact mt isNumeral_printFinite hnumeral

theorem length_encodeNat_le_iff {value places : Nat} (hplaces : 0 < places) :
    (Decimal.encodeNat value).length ≤ places ↔ value < 10 ^ places := by
  unfold Decimal.encodeNat
  split
  · next hvalue =>
    rw [hvalue]
    exact iff_of_true hplaces (by positivity)
  · rw [List.length_map, List.length_reverse]
    exact Nat.digits_length_le_iff (by decide) value

theorem length_printFinite_le {value : ℚ} (hvalue : |value| ≤ 4294967040)
    (digits : Nat) : (printFinite value digits).length ≤ 12 + digits := by
  have hhalf : (1 : ℚ) / 2 / 10 ^ digits ≤ 1 / 2 :=
    div_le_self (by norm_num) (one_le_pow₀ (by norm_num))
  have hwhole : ⌊|value| + 1 / 2 / 10 ^ digits⌋₊ < 10 ^ 10 := by
    rw [Nat.floor_lt (by positivity)]
    push_cast
    linarith
  have hlength := (length_encodeNat_le_iff (by decide)).mpr hwhole
  have hsign : (if value < 0 then [Decimal.minus] else []).length ≤ 1 := by
    split <;> simp
  have hfraction : (if digits = 0 then [] else 0x2E ::
      fraction (|value| + 1 / 2 / 10 ^ digits) digits).length ≤ 1 + digits := by
    split
    · exact Nat.zero_le _
    · simp [fraction, Nat.add_comm]
  simp only [printFinite, List.length_append]
  omega

def arduinoText : FloatText where
  chars := printFloat
  no_comma := not_mem_printFloat (by unfold IsNumeral Decimal.IsDigit; decide) (by decide)
  no_cr := not_mem_printFloat (by unfold IsNumeral Decimal.IsDigit; decide) (by decide)
  no_lf := not_mem_printFloat (by unfold IsNumeral Decimal.IsDigit; decide) (by decide)
  short := by
    intro number digits
    unfold printFloat
    split
    · exact Nat.le_add_right_of_le (by decide)
    · exact Nat.le_add_right_of_le (by decide)
    · split
      · exact Nat.le_add_right_of_le (by decide)
      · next hsmall => exact length_printFinite_le (not_lt.mp hsmall) digits

end SenseBox.Device
