namespace SenseBox.Data

/-! A text is the list of its bytes, without the terminating zero of C. -/

abbrev Text := List UInt8

def text (literal : String) : Text :=
  literal.toList.map fun character => UInt8.ofNat character.toNat

end SenseBox.Data
