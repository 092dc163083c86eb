import ThermalPrint.Bytes

/-!
Base64 with padding. A text is accepted if it is the only way to write its bytes: its length is a
multiple of four, padding stands only where it has to, and unused bits are zero.
-/

namespace ThermalPrint.Base64

inductive Fault where
  | invalidByte (byte : UInt8) (offset : Nat)
  | sixBitRemainder
  | invalidPadding
  | invalidLastSymbol (byte : UInt8) (offset : Nat)
  deriving DecidableEq, Repr

def Fault.message : Fault → String
  | .invalidByte byte offset => s!"Invalid byte {byte.toNat}, offset {offset}."
  | .sixBitRemainder => "Encoded text cannot have a 6-bit remainder."
  | .invalidPadding => "Invalid padding"
  | .invalidLastSymbol byte offset => s!"Invalid last symbol {byte.toNat}, offset {offset}."

def padding : UInt8 := 0x3D

def sextet? (symbol : UInt8) : Option Nat :=
  let code := symbol.toNat
  if 0x41 ≤ code ∧ code ≤ 0x5A then some (code - 0x41)
  else if 0x61 ≤ code ∧ code ≤ 0x7A then some (code - 0x61 + 26)
  else if 0x30 ≤ code ∧ code ≤ 0x39 then some (code - 0x30 + 52)
  else if code = 0x2B then some 62
  else if code = 0x2F then some 63
  else none

/-- Reads the symbols before the padding. Padding may start only in the second half of a group of
four, and has to end the text. -/
def readSextets (offset : Nat) : Bytes → Except Fault (List Nat)
  | [] => .ok []
  | symbol :: rest =>
    match sextet? symbol with
    | some sextet => (readSextets (offset + 1) rest).map (sextet :: ·)
    | none =>
      if symbol = padding ∧
          (offset % 4 = 2 ∧ (rest = [] ∨ rest = [padding]) ∨ offset % 4 = 3 ∧ rest = []) then
        .ok []
      else .error (.invalidByte symbol offset)

/-- The bytes of groups of four sextets, of which the last may be incomplete. -/
def bytesOfSextets : List Nat → Bytes
  | a :: b :: c :: d :: rest =>
    .ofNat (a * 4 + b / 16) :: .ofNat (b % 16 * 16 + c / 4) :: .ofNat (c % 4 * 64 + d) ::
      bytesOfSextets rest
  | [a, b, c] => [.ofNat (a * 4 + b / 16), .ofNat (b % 16 * 16 + c / 4)]
  | [a, b] => [.ofNat (a * 4 + b / 16)]
  | _ => []

/-- The last sextet of an incomplete group has bits that belong to no byte. -/
def unusedBits (sextets : List Nat) : Nat :=
  match sextets.length % 4 with
  | 2 => sextets.getLastD 0 % 16
  | 3 => sextets.getLastD 0 % 4
  | _ => 0

def isSymbol (byte : UInt8) : Bool :=
  byte == padding || (sextet? byte).isSome

def decode (text : Bytes) : Except Fault Bytes :=
  if text.length % 4 = 1 then
    let last := text.getLastD padding
    if isSymbol last then .error .sixBitRemainder
    else .error (.invalidByte last (text.length - 1))
  else
    match readSextets 0 text with
    | .error fault => .error fault
    | .ok sextets =>
      if text.length % 4 ≠ 0 then .error .invalidPadding
      else if unusedBits sextets ≠ 0 then
        let place := sextets.length - 1
        .error (.invalidLastSymbol (text.getD place padding) place)
      else .ok (bytesOfSextets sextets)

end ThermalPrint.Base64
