import ThermalPrint.Bytes

/-!
Code page 437 with the ASCII characters, controls included, as its lower half. Some characters that
look like one of the page share its byte.
-/

namespace ThermalPrint.CodePage

/-- The characters of the bytes from 0x80 to 0xFF. -/
def upperHalf : List Char := [
  'Ç', 'ü', 'é', 'â', 'ä', 'à', 'å', 'ç', 'ê', 'ë', 'è', 'ï', 'î', 'ì', 'Ä', 'Å',
  'É', 'æ', 'Æ', 'ô', 'ö', 'ò', 'û', 'ù', 'ÿ', 'Ö', 'Ü', '¢', '£', '¥', '₧', 'ƒ',
  'á', 'í', 'ó', 'ú', 'ñ', 'Ñ', 'ª', 'º', '¿', '⌐', '¬', '½', '¼', '¡', '«', '»',
  '░', '▒', '▓', '│', '┤', '╡', '╢', '╖', '╕', '╣', '║', '╗', '╝', '╜', '╛', '┐',
  '└', '┴', '┬', '├', '─', '┼', '╞', '╟', '╚', '╔', '╩', '╦', '╠', '═', '╬', '╧',
  '╨', '╤', '╥', '╙', '╘', '╒', '╓', '╫', '╪', '┘', '┌', '█', '▄', '▌', '▐', '▀',
  'α', 'ß', 'Γ', 'π', 'Σ', 'σ', 'µ', 'τ', 'Φ', 'Θ', 'Ω', 'δ', '∞', 'φ', 'ε', '∩',
  '≡', '±', '≥', '≤', '⌠', '⌡', '÷', '≈', '°', '∙', '·', '√', 'ⁿ', '²', '■', '\u00a0']

/-- Characters that share a byte with one of the page. The delta shares that of the control
0x7F, for which printers draw a triangle or a house. -/
def lookalikes : List (Char × UInt8) := [
  ('Δ', 0x7F), ('β', 0xE1), ('Π', 0xE3), ('∏', 0xE3), ('∑', 0xE4), ('μ', 0xE6), ('ð', 0xEB),
  ('∂', 0xEB), ('ϕ', 0xED), ('𝜙', 0xED), ('∅', 0xED), ('⌀', 0xED), ('Ø', 0xED), ('ø', 0xED),
  ('∈', 0xEE), ('€', 0xEE), ('✓', 0xFB)]

def isAscii (character : Char) : Bool :=
  character.toNat < 0x80

def character (byte : UInt8) : Char :=
  if byte.toNat < 0x80 then Char.ofNat byte.toNat
  else upperHalf.getD (byte.toNat - 0x80) ' '

def byte? (character : Char) : Option UInt8 :=
  if isAscii character then some (.ofNat character.toNat)
  else
    match upperHalf.idxOf? character with
    | some place => some (.ofNat (0x80 + place))
    | none => lookalikes.lookup character

def bytesOf? : List Char → Option Bytes
  | [] => some []
  | character :: rest =>
    match byte? character, bytesOf? rest with
    | some byte, some bytes => some (byte :: bytes)
    | _, _ => none

def encode? (text : String) : Option Bytes :=
  bytesOf? text.toList

end ThermalPrint.CodePage
