import SenseBox.Data.Flt

namespace SenseBox.Device

open SenseBox.Data

/-! The humidity and temperature sensor.  The raw words are what `read2Byte`
returns, which after a failed transfer is whatever its local variable holds. -/

def hdc100xTempHumi : UInt8 := 0x16
def hdc100xHumi : UInt8 := 1
def hdc100xTemp : UInt8 := 0

structure HDC100X where
  mode : UInt8

namespace HDC100X

/-- `begin` keeps the mode, whatever the transfer of the configuration gives. -/
def start (mode : UInt8) : HDC100X := ⟨mode⟩

/-- `none` in a mode in which the body ends without a `return`. -/
def getTemp (fmt : Rounding) (hdc : HDC100X) (rawTemp : UInt16) : Option Flt :=
  if hdc.mode = hdc100xTemp ∨ hdc.mode = hdc100xTempHumi then
    some (fmt.sub (fmt.mul (fmt.div (fmt.ofInt rawTemp.toNat) (.fin 65536))
      (.fin 165)) (.fin 40))
  else none

def getHumi (fmt : Rounding) (hdc : HDC100X) (rawHumi : UInt16) : Option Flt :=
  if hdc.mode = hdc100xHumi ∨ hdc.mode = hdc100xTempHumi then
    some (fmt.mul (fmt.div (fmt.ofInt rawHumi.toNat) (.fin 65536)) (.fin 100))
  else none

theorem measures (fmt : Rounding) (raw : UInt16) :
    ∃ humidity temperature,
      (start hdc100xTempHumi).getHumi fmt raw = some humidity ∧
      (start hdc100xTempHumi).getTemp fmt raw = some temperature :=
  ⟨_, _, rfl, rfl⟩

end HDC100X

end SenseBox.Device
