import ThermalPrint.Picture.Basic
import ThermalPrint.Png.Preamble

/-!
From the samples of a PNG file to those of a picture. Samples of less than eight bits are spread
over the whole range, palettes are looked up, and colors that are declared transparent get an
opacity.
-/

namespace ThermalPrint.Png

def paletteColors : Bytes → List (Nat × Nat × Nat)
  | red :: green :: blue :: rest => (red.toNat, green.toNat, blue.toNat) :: paletteColors rest
  | _ => []

/-- The colors of a palette with their opacities. Opacities are ignored if there are more of them
than colors, and a color without one is opaque. -/
def paletteEntries (palette transparency : Bytes) : Array (List Nat) :=
  let colors := paletteColors palette
  let opacities := if transparency.length ≤ colors.length then transparency else []
  (colors.zipIdx.map fun ((red, green, blue), index) =>
    [red, green, blue, (opacities.getD index 255).toNat]).toArray

inductive Expansion where
  /-- Samples as they are, up to a factor. -/
  | plain (factor : Nat)
  /-- One more sample: zero for one combination of samples, and opaque for all others. -/
  | keyed (factor opacity : Nat) (key : List Nat)
  /-- Entries of a palette, of which so many samples count. -/
  | indexed (entries : Array (List Nat)) (channels : Nat)

/-- The samples of the picture for those of a pixel. An index outside the palette is black. -/
def Expansion.apply : Expansion → List Nat → List Nat
  | .plain factor, samples => samples.map (· * factor)
  | .keyed factor opacity key, samples =>
    samples.map (· * factor) ++ [if samples = key then 0 else opacity]
  | .indexed entries channels, samples =>
    (entries[samples.headD 0]?.getD [0, 0, 0, 255]).take channels

/-- The samples of a pixel that is declared transparent. Of 16 bits only the lower eight count if
samples are not wider; a declaration that is too long never matches wide samples. -/
def transparencyKey (header : Header) (data : Bytes) : List Nat :=
  let channels := header.color.channels
  let sample (channel : Nat) : Nat :=
    if header.depth = 16 then bigEndian ((data.drop (2 * channel)).take 2)
    else (data.getD (2 * channel + 1) 0).toNat
  if header.depth = 16 ∧ data.length ≠ 2 * channels then []
  else (List.range channels).map sample

/-- Whether a palette consists of whole colors, and of no more than can be told apart. -/
def isWholePalette (palette : Bytes) : Bool :=
  palette.length % 3 == 0 && palette.length ≤ 3 * 256

def Preamble.expansion? (preamble : Preamble) : Option (Expansion × PixelFormat) :=
  let header := preamble.header
  let isWide := decide (header.depth = 16)
  let greatest := 1 <<< header.depth - 1
  let factor (color : ColorType) : Nat :=
    if color = .gray ∧ header.depth < 8 then 255 / greatest else 1
  match header.color with
  | .indexed =>
    preamble.palette.map fun palette =>
      let entries := paletteEntries palette (preamble.transparency.getD [])
      let format : PixelFormat := ⟨true, preamble.transparency.isSome, false⟩
      (.indexed entries format.channels, format)
  | .grayAlpha => some (.plain 1, ⟨false, true, isWide⟩)
  | .rgba => some (.plain 1, ⟨true, true, isWide⟩)
  | color =>
    let hasColor := decide (color = .rgb)
    match preamble.transparency with
    | some data =>
      some (.keyed (factor color) (if isWide then 65535 else 255) (transparencyKey header data),
        ⟨hasColor, true, isWide⟩)
    | none => some (.plain (factor color), ⟨hasColor, false, isWide⟩)

end ThermalPrint.Png
