import ThermalPrint.Png.Expansion
import ThermalPrint.Png.ImageData

/-!
PNG files as pictures. Of an animation only the first frame is shown, and what it leaves over of the
picture is black, or transparent if the picture has an opacity.
-/

namespace ThermalPrint.Png

inductive Fault where
  | malformed
  /-- Its palette has a color in part or too many colors. This comes up when the first row is to be
  colored, and not before. -/
  | badPalette
  deriving DecidableEq, Repr

/-- Where in an image a pixel of the picture is found. Rows follow each other without a gap, so an
image that is not as wide as the picture fills rows of the picture from their start to their end;
only the passes of an interlaced image know where the rows of the picture start. -/
def placeIn (image picture : Header) (index : Nat) : Option (Nat × Nat) :=
  let width := if image.interlaced then picture.width else image.width
  let x := index % width
  let y := index / width
  if x < image.width ∧ y < image.height then some (x, y) else none

def assemble (image picture : Header) (passes : List Pass) (expansion : Expansion)
    (format : PixelFormat) : Picture where
  width := picture.width
  height := picture.height
  format := format
  samples :=
    (picture.width * picture.height).fold (fun index _ samples =>
      let pixel :=
        match placeIn image picture index with
        | some (x, y) =>
          expansion.apply ((List.range image.color.channels).map (sampleAt image passes x y))
        | none => List.replicate format.channels 0
      pixel.foldl Array.push samples) #[]

/-- The greatest number of bytes that a picture may take. -/
def greatestSize : Nat := 536870912

def isBearable (header : Header) (format : PixelFormat) : Bool :=
  header.width * header.height * format.channels * (if format.isWide then 2 else 1) ≤ greatestSize

/-- The chunks of a file up to its image data, and the file from there on. -/
def opening? (file : Bytes) : Option (Preamble × Bytes) := do
  if file.take 8 ≠ signature then none
  let (header, rest) ← readHeader file.length (file.drop 8)
  let (preamble, rest) ← readPreamble (.ofHeader header) file.length rest
  if preamble.hasPicture then some (preamble, rest) else none

def Preamble.picture? (preamble : Preamble) (expansion : Expansion) (format : PixelFormat)
    (imageData : ImageData) : Option Picture := do
  let image := preamble.imageHeader
  let data ← imageData.unpack?
  let passes ← readPasses image data (grids image) 0
  return assemble image preamble.header passes expansion format

def Preamble.hasBadPalette (preamble : Preamble) : Bool :=
  preamble.header.color = .indexed && preamble.palette.any fun palette => !isWholePalette palette

/-- The most room for the unpacked rows, unless frames have been announced: then it is not known. -/
def Preamble.greatestRoom? (preamble : Preamble) : Option Nat :=
  if preamble.frame.isSome then none else some (ImageData.greatestRoom preamble.header)

def decode (file : Bytes) : Except Fault Picture :=
  match opening? file with
  | none => .error .malformed
  | some (preamble, rest) =>
    match preamble.expansion? with
    | none => .error .malformed
    | some (expansion, format) =>
      let place := file.length - rest.length
      let imageData := ImageData.read (firstType rest) file.length preamble.nextNumber place rest
      if !isBearable preamble.header format then .error .malformed
      else if preamble.hasBadPalette then
        if imageData.firstRowArrives preamble.imageHeader preamble.greatestRoom? then
          .error .badPalette
        else .error .malformed
      else
        match preamble.picture? expansion format imageData with
        | some picture => .ok picture
        | none => .error .malformed

end ThermalPrint.Png
