import SenseBox.Data.Run
import Mathlib.Data.Nat.Digits.Defs
import Mathlib.Tactic.Common

namespace SenseBox.Data.Decimal

open SenseBox.Data

/-! Integers as ASCII decimal text. -/

def minus : UInt8 := 0x2D

def digit (value : Nat) : UInt8 := UInt8.ofNat (48 + value)

def encodeNat (value : Nat) : List UInt8 :=
  if value = 0 then [digit 0] else (Nat.digits 10 value).reverse.map digit

def encode (value : Int) : List UInt8 :=
  if value < 0 then minus :: encodeNat value.natAbs else encodeNat value.natAbs

def digitStep (char : UInt8) (value : Nat) : Option Nat :=
  if 48 ≤ char.toNat ∧ char.toNat ≤ 57 then
    some (10 * value + (char.toNat - 48))
  else none

def decodeNat (chars : List UInt8) : Option Nat :=
  if chars = [] then none else run digitStep chars 0

def decode : List UInt8 → Option Int
  | [] => none
  | char :: rest =>
      if char = minus then (decodeNat rest).map fun value : Nat => -(value : Int)
      else (decodeNat (char :: rest)).map fun value : Nat => (value : Int)

def IsDigit (char : UInt8) : Prop := 48 ≤ char.toNat ∧ char.toNat ≤ 57

theorem toNat_digit {value : Nat} (hvalue : value < 10) :
    (digit value).toNat = 48 + value := by
  rw [digit, UInt8.toNat_ofNat']
  omega

theorem isDigit_digit {value : Nat} (hvalue : value < 10) :
    IsDigit (digit value) := by
  rw [IsDigit, toNat_digit hvalue]
  omega

theorem isDigit_encodeNat {value : Nat} {char : UInt8}
    (hchar : char ∈ encodeNat value) : IsDigit char := by
  unfold encodeNat at hchar
  split at hchar
  · rw [List.mem_singleton.mp hchar]
    exact isDigit_digit (by decide)
  · obtain ⟨place, hplace, rfl⟩ := List.mem_map.mp hchar
    exact isDigit_digit (Nat.digits_lt_base (by decide) (List.mem_reverse.mp hplace))

theorem encodeNat_ne_nil (value : Nat) : encodeNat value ≠ [] := by
  unfold encodeNat
  split
  · simp
  · next hvalue =>
    simpa using Nat.digits_ne_nil_iff_ne_zero.mpr hvalue

/-- The most significant digit comes first, so reading from the left computes
the value of the digits. -/
theorem run_digitStep {places : List Nat} (hplaces : ∀ place ∈ places, place < 10) :
    run digitStep (places.reverse.map digit) 0 =
      some (Nat.ofDigits 10 places) := by
  induction places with
  | nil => rfl
  | cons place places ih =>
      have hrest := ih fun other member => hplaces other (by simp [member])
      have hlow := toNat_digit (hplaces place (by simp))
      have hplace := hplaces place (by simp)
      rw [List.reverse_cons, List.map_append, List.map_singleton, run_append,
        hrest, Option.bind_some, run_singleton, digitStep, hlow, if_pos (by omega),
        Nat.ofDigits_cons]
      simp only [Option.some.injEq]
      omega

theorem decodeNat_encodeNat (value : Nat) :
    decodeNat (encodeNat value) = some value := by
  rw [decodeNat, if_neg (encodeNat_ne_nil value)]
  unfold encodeNat
  split
  · next hzero =>
    subst hzero
    rfl
  · rw [run_digitStep fun place hplace => Nat.digits_lt_base (by decide) hplace,
      Nat.ofDigits_digits]

theorem decode_encodeNat (value : Nat) :
    decode (encodeNat value) = some (value : Int) := by
  obtain ⟨char, rest, hchars⟩ := List.exists_cons_of_ne_nil (encodeNat_ne_nil value)
  have hdigit : IsDigit char := isDigit_encodeNat (hchars ▸ List.mem_cons_self)
  have hminus : char ≠ minus := by
    rintro rfl
    exact absurd hdigit.1 (by decide)
  rw [hchars, decode, if_neg hminus, ← hchars, decodeNat_encodeNat]
  rfl

theorem decode_encode (value : Int) : decode (encode value) = some value := by
  unfold encode
  split
  · next hnegative =>
    rw [decode, if_pos rfl, decodeNat_encodeNat, Option.map_some,
      Int.ofNat_natAbs_of_nonpos (Int.le_of_lt hnegative), Int.neg_neg]
  · next hnonneg =>
    rw [decode_encodeNat, Int.natAbs_of_nonneg (Int.not_lt.mp hnonneg)]

theorem char_encode {value : Int} {char : UInt8} (hchar : char ∈ encode value) :
    char = minus ∨ IsDigit char := by
  unfold encode at hchar
  split at hchar
  · rcases List.mem_cons.mp hchar with hsign | hrest
    · exact .inl hsign
    · exact .inr (isDigit_encodeNat hrest)
  · exact .inr (isDigit_encodeNat hchar)

theorem encode_natCast (value : Nat) : encode value = encodeNat value := by
  simp [encode]

end SenseBox.Data.Decimal
