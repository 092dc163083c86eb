import ThermalPrint.Png.Chunk

/-!
The header of a PNG file: the size of the picture and the form of its samples.
-/

namespace ThermalPrint.Png

inductive ColorType where
  | gray
  | rgb
  | indexed
  | grayAlpha
  | rgba
  deriving DecidableEq, Repr

namespace ColorType

def ofCode? : UInt8 → Option ColorType
  | 0 => some gray
  | 2 => some rgb
  | 3 => some indexed
  | 4 => some grayAlpha
  | 6 => some rgba
  | _ => none

def channels : ColorType → Nat
  | gray | indexed => 1
  | grayAlpha => 2
  | rgb => 3
  | rgba => 4

def depths : ColorType → List Nat
  | gray => [1, 2, 4, 8, 16]
  | indexed => [1, 2, 4, 8]
  | rgb | grayAlpha | rgba => [8, 16]

end ColorType

structure Header where
  width : Nat
  height : Nat
  /-- The bits of a sample. -/
  depth : Nat
  color : ColorType
  interlaced : Bool
  deriving DecidableEq, Repr

namespace Header

def ofData? (data : Bytes) : Option Header :=
  match data.drop 8 with
  | depth :: color :: compression :: filter :: interlace :: _ => do
    let color ← ColorType.ofCode? color
    let header : Header :=
      ⟨bigEndian (data.take 4), bigEndian ((data.drop 4).take 4), depth.toNat, color,
        interlace = 1⟩
    if header.width ≠ 0 ∧ header.height ≠ 0 ∧ color.depths.contains header.depth ∧
        compression = 0 ∧ filter = 0 ∧ (interlace = 0 ∨ interlace = 1) then
      some header
    else none
  | _ => none

def bitsPerPixel (header : Header) : Nat :=
  header.color.channels * header.depth

def rowBytes (header : Header) (pixels : Nat) : Nat :=
  (pixels * header.bitsPerPixel + 7) / 8

/-- How far back filters look for the same byte of the pixel before. -/
def filterDistance (header : Header) : Nat :=
  max 1 (header.bitsPerPixel / 8)

end Header

end ThermalPrint.Png
