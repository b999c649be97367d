import SenseBox.Data.Run

namespace SenseBox.Data.Hex

/-! Bytes as pairs of lowercase hexadecimal digits, high digit first. -/

def nibble (char : UInt8) : Option UInt8 :=
  if 48 ≤ char ∧ char ≤ 57 then some (char - 48)
  else if 97 ≤ char ∧ char ≤ 102 then some (char - 87)
  else none

def decode : List UInt8 → Option (List UInt8)
  | [] => some []
  | [_] => none
  | high :: low :: rest =>
      match nibble high, nibble low, decode rest with
      | some high, some low, some bytes => some ((high <<< 4 ||| low) :: bytes)
      | _, _, _ => none

def digit (value : UInt8) : UInt8 :=
  if value < 10 then 48 + value else 87 + value

def encode (bytes : List UInt8) : List UInt8 :=
  bytes.flatMap fun byte : UInt8 => [digit (byte >>> 4), digit (byte &&& 15)]

def IsHexDigit (char : UInt8) : Prop :=
  48 ≤ char ∧ char ≤ 57 ∨ 97 ≤ char ∧ char ≤ 102

theorem ofNat_nibble {value : UInt8} (hvalue : value < 16) :
    ∃ place : Fin 16, value = UInt8.ofNat place :=
  ⟨⟨value.toNat, UInt8.lt_iff_toNat_lt.mp hvalue⟩, (UInt8.ofNat_toNat).symm⟩

theorem nibble_digit {value : UInt8} (hvalue : value < 16) :
    nibble (digit value) = some value := by
  obtain ⟨place, rfl⟩ := ofNat_nibble hvalue
  clear hvalue
  revert place
  decide

theorem isHexDigit_digit {value : UInt8} (hvalue : value < 16) :
    IsHexDigit (digit value) := by
  obtain ⟨place, rfl⟩ := ofNat_nibble hvalue
  clear hvalue
  unfold IsHexDigit
  revert place
  decide

theorem high_lt (byte : UInt8) : byte >>> 4 < 16 := by
  rw [UInt8.lt_iff_toNat_lt, UInt8.toNat_shiftRight]
  have := byte.toNat_lt
  simp
  omega

theorem low_lt (byte : UInt8) : byte &&& 15 < 16 := by
  rw [UInt8.lt_iff_toNat_lt, UInt8.toNat_and]
  exact Nat.lt_succ_of_le Nat.and_le_right

theorem join_nibbles (byte : UInt8) :
    (byte >>> 4) <<< 4 ||| (byte &&& 15) = byte := by
  apply UInt8.eq_of_toBitVec_eq
  ext place hplace
  rcases place with _ | _ | _ | _ | _ | _ | _ | _ | place
  case succ.succ.succ.succ.succ.succ.succ.succ => omega
  all_goals simp [BitVec.getLsbD_eq_getElem]

theorem decode_encode (bytes : List UInt8) :
    decode (encode bytes) = some bytes := by
  induction bytes with
  | nil => rfl
  | cons byte bytes ih =>
      rw [encode, List.flatMap_cons, List.cons_append, List.cons_append,
        List.nil_append, decode, nibble_digit (high_lt byte),
        nibble_digit (low_lt byte)]
      rw [encode] at ih
      simp only [ih, join_nibbles]

theorem length_encode (bytes : List UInt8) :
    (encode bytes).length = 2 * bytes.length := by
  induction bytes with
  | nil => rfl
  | cons byte bytes ih =>
      rw [encode, List.flatMap_cons, List.length_append, ← encode, ih]
      simp only [List.length_cons, List.length_nil]
      omega

theorem isHexDigit_encode {bytes : List UInt8} {char : UInt8}
    (hchar : char ∈ encode bytes) : IsHexDigit char := by
  obtain ⟨byte, -, hdigit⟩ := List.mem_flatMap.mp hchar
  rcases List.mem_pair.mp hdigit with rfl | rfl
  · exact isHexDigit_digit (high_lt byte)
  · exact isHexDigit_digit (low_lt byte)

end SenseBox.Data.Hex
