import SenseBox.Device.PrintFloat
import SenseBox.Data.Json

namespace SenseBox.Device

open SenseBox.Data

/-! `dtostrf`, which is not part of the repository either: the value with some
digits after the point, padded on the left, and letters for what is not finite. -/

def padLeft (width : Nat) (chars : Text) : Text :=
  List.replicate (width - chars.length) 0x20 ++ chars

def fixed (negative : Bool) (scaled prec : Nat) : Text :=
  (if negative then [Decimal.minus] else []) ++
    (Decimal.encodeNat (scaled / 10 ^ prec) ++
      if prec = 0 then []
      else 0x2E :: (List.range prec).map fun place =>
        Decimal.digit (scaled / 10 ^ (prec - 1 - place) % 10))

/-- The rounding of `dtostrf`: to the nearest multiple of the last digit, either
way in the middle, with either sign for zero. -/
structure Dtostrf where
  scaled : ℚ → Nat → Int
  negative : ℚ → Nat → Bool
  nearest : ∀ value prec, |value * 10 ^ prec - scaled value prec| ≤ 1 / 2
  sign : ∀ value prec, scaled value prec ≠ 0 →
    negative value prec = decide (scaled value prec < 0)

namespace Dtostrf

variable (core : Dtostrf)

def chars (value : Flt) (width prec : Nat) : Text :=
  padLeft width
    (match value with
    | .nan => text "NAN"
    | .inf negative => if negative then text "-INF" else text "INF"
    | .fin value =>
        fixed (core.negative value prec) (core.scaled value prec).natAbs prec)

/-- The value is finite, and with one digit after the point there are at most
nine characters. -/
def Fits : Flt → Prop
  | .fin value => -9999999 ≤ core.scaled value 1 ∧ core.scaled value 1 ≤ 99999999
  | _ => False

theorem fixed_one (negative : Bool) (scaled : Nat) :
    fixed negative scaled 1 =
      (if negative then [Decimal.minus] else []) ++
        (Decimal.encodeNat (scaled / 10) ++ [0x2E, Decimal.digit (scaled % 10)]) := by
  simp [fixed, List.range_succ]

theorem isNumber_fixed_one (negative : Bool) (scaled : Nat) :
    Json.IsNumber (fixed negative scaled 1) := by
  have hdigit : Decimal.IsDigit (Decimal.digit (scaled % 10)) :=
    Decimal.isDigit_digit (Nat.mod_lt _ (by decide))
  have hsign : (if negative then [Decimal.minus] else []) = [] ∨
      (if negative then [Decimal.minus] else []) = [Decimal.minus] := by
    cases negative with
    | false => exact .inl rfl
    | true => exact .inr rfl
  rw [fixed_one, ← List.append_nil [0x2E, Decimal.digit (scaled % 10)]]
  exact .mk hsign (Json.isInt_encodeNat _) (.some (.one hdigit)) .none

theorem length_padLeft_le {width limit : Nat} (hwidth : width ≤ limit)
    (chars : Text) : (padLeft width chars).length ≤ limit ↔
      chars.length ≤ limit := by
  rw [padLeft, List.length_append, List.length_replicate]
  omega

theorem length_fixed_one_le {negative : Bool} {scaled : Int}
    (hsign : scaled ≠ 0 → negative = decide (scaled < 0)) :
    (fixed negative scaled.natAbs 1).length ≤ 9 ↔
      -9999999 ≤ scaled ∧ scaled ≤ 99999999 := by
  have hsix := @length_encodeNat_le_iff (scaled.natAbs / 10) _
    (show 0 < 6 by decide)
  have hseven := @length_encodeNat_le_iff (scaled.natAbs / 10) _
    (show 0 < 7 by decide)
  rw [fixed_one]
  simp only [List.length_append, List.length_cons, List.length_nil]
  by_cases hzero : scaled = 0
  · subst hzero
    cases negative <;> decide
  · rw [hsign hzero]
    by_cases hnegative : scaled < 0
    · simp only [hnegative, decide_true, if_true, List.length_singleton]
      omega
    · simp only [hnegative, decide_false, Bool.false_eq_true, if_false,
        List.length_nil]
      omega

theorem length_chars_le (value : ℚ) :
    (core.chars (.fin value) 5 1).length ≤ 9 ↔ core.Fits (.fin value) := by
  rw [chars, length_padLeft_le (by decide)]
  exact length_fixed_one_le (core.sign value 1)

theorem fits_of_abs_le {value : ℚ} (hvalue : |value| ≤ 999999) :
    core.Fits (.fin value) := by
  have hnearest := abs_le.mp (core.nearest value 1)
  obtain ⟨hlow, hhigh⟩ := abs_le.mp hvalue
  rw [pow_one] at hnearest
  have hbelow : ((-9999999 : Int) : ℚ) ≤ core.scaled value 1 := by
    push_cast
    linarith
  have habove : (core.scaled value 1 : ℚ) ≤ (99999999 : Int) := by
    push_cast
    linarith
  exact ⟨Int.cast_le.mp hbelow, Int.cast_le.mp habove⟩

/-- The middle is rounded up. -/
def halfUp : Dtostrf where
  scaled value prec := ⌊value * 10 ^ prec + 1 / 2⌋
  negative value prec := ⌊value * 10 ^ prec + 1 / 2⌋ < 0
  nearest value prec := by
    have hlow := Int.floor_le (value * 10 ^ prec + 1 / 2)
    have hhigh := Int.lt_floor_add_one (value * 10 ^ prec + 1 / 2)
    rw [abs_le]
    constructor <;> linarith
  sign _ _ _ := rfl

end Dtostrf

end SenseBox.Device
