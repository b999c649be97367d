import Mathlib.Algebra.Order.Ring.Nat
import Mathlib.Data.Nat.ModEq
import Mathlib.Tactic.Ring

namespace SenseBox.Data

/-! Numbers in bytes, the lowest byte first. -/

def load (bytes : Nat → UInt8) (place : Nat) : Nat → Nat
  | 0 => 0
  | size + 1 => (bytes place).toNat + 256 * load bytes (place + 1) size

def store (bytes : Nat → UInt8) (place size value : Nat) : Nat → UInt8 :=
  fun position =>
    if place ≤ position ∧ position < place + size then
      UInt8.ofNat (value / 256 ^ (position - place))
    else bytes position

theorem load_congr {left right : Nat → UInt8} {place size : Nat}
    (hsame : ∀ position, place ≤ position → position < place + size →
      left position = right position) :
    load left place size = load right place size := by
  induction size generalizing place with
  | zero => rfl
  | succ size ih =>
      have hrest : load left (place + 1) size = load right (place + 1) size :=
        ih fun position hfrom hto => hsame position (by omega) (by omega)
      rw [load, load, hsame place (le_refl _) (by omega), hrest]

theorem load_zero (place size : Nat) : load (fun _ => 0) place size = 0 := by
  induction size generalizing place with
  | zero => rfl
  | succ size ih =>
      rw [load, ih]
      rfl

theorem store_apart {bytes : Nat → UInt8} {place size value position : Nat}
    (hapart : position < place ∨ place + size ≤ position) :
    store bytes place size value position = bytes position := by
  rw [store, if_neg]
  omega

theorem load_store_apart {bytes : Nat → UInt8} {place size value other count : Nat}
    (hapart : other + count ≤ place ∨ place + size ≤ other) :
    load (store bytes place size value) other count = load bytes other count :=
  load_congr fun _ hfrom hto => store_apart (by omega)

/-- What is loaded of the upper bytes of a stored value. -/
theorem load_store_upper (bytes : Nat → UInt8) (place value : Nat) {size : Nat}
    (skip left : Nat) (hsize : skip + left = size) :
    load (store bytes place size value) (place + skip) left =
      value / 256 ^ skip % 256 ^ left := by
  induction left generalizing skip with
  | zero => rw [load, pow_zero, Nat.mod_one]
  | succ left ih =>
      have hbyte : store bytes place size value (place + skip) =
          UInt8.ofNat (value / 256 ^ skip) := by
        rw [store, if_pos (by omega), Nat.add_sub_cancel_left]
      have hrest := ih (skip + 1) (by omega)
      rw [← Nat.add_assoc] at hrest
      rw [load, hbyte, hrest, UInt8.toNat_ofNat', pow_succ' 256 left, Nat.mod_mul,
        pow_succ 256 skip, Nat.div_div_eq_div_mul]

theorem load_store (bytes : Nat → UInt8) (place size value : Nat) :
    load (store bytes place size value) place size = value % 256 ^ size := by
  have hload := load_store_upper bytes place value 0 size (Nat.zero_add size)
  rwa [Nat.add_zero, pow_zero, Nat.div_one] at hload

end SenseBox.Data
