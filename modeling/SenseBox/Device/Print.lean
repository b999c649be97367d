import SenseBox.Data.Decimal
import SenseBox.Data.Lines

namespace SenseBox.Device

open SenseBox.Data

/-! The texts that `Print` hands to `write`, one list for each call. -/

def printUnsignedLong (value : UInt32) : List (List UInt8) :=
  [Decimal.encodeNat value.toNat]

def printLong (value : Int) : List (List UInt8) :=
  if value < 0 then [[Decimal.minus], Decimal.encodeNat value.natAbs]
  else [Decimal.encodeNat value.natAbs]

def printInt (value : Int16) : List (List UInt8) := printLong value.toInt

def printText (chars : List UInt8) : List (List UInt8) := [chars]

def printlnText (chars : List UInt8) : List (List UInt8) := [chars, Lines.crlf]

def printlnInt (value : Int16) : List (List UInt8) :=
  printInt value ++ [Lines.crlf]

theorem flatten_printLong (value : Int) :
    (printLong value).flatten = Decimal.encode value := by
  unfold printLong Decimal.encode
  split <;> simp

@[simp] theorem flatten_printInt (value : Int16) :
    (printInt value).flatten = Decimal.encode value.toInt :=
  flatten_printLong value.toInt

@[simp] theorem flatten_printUnsignedLong (value : UInt32) :
    (printUnsignedLong value).flatten = Decimal.encode (value.toNat : Int) := by
  rw [Decimal.encode_natCast]
  simp [printUnsignedLong]

end SenseBox.Device
