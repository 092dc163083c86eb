/-!
Byte strings, as they travel to a printer.
-/

namespace ThermalPrint

/-- What a device is given to write. -/
abbrev Bytes := List UInt8

namespace Bytes

def ofText (text : String) : Bytes :=
  text.toUTF8.data.toList

/-- The length of the UTF-8 form of a text that is held as a list of characters. -/
def lengthOfText : List Char → Nat
  | [] => 0
  | character :: rest => character.utf8Size + lengthOfText rest

/-- The two bytes of a length, the low one first. A length of 65536 or more loses its high bits. -/
def ofLength (length : Nat) : Bytes :=
  [UInt8.ofNat length, UInt8.ofNat (length / 256)]

end Bytes

end ThermalPrint
