import ThermalPrint.Picture.Gray

/-!
Pictures with or without color and transparency. A printer has only white paper, so a picture is
laid over white, and its colors count by their brightness.
-/

namespace ThermalPrint

structure PixelFormat where
  /-- Red, green and blue instead of one gray sample. -/
  hasColor : Bool
  /-- One more sample for the opacity. -/
  hasAlpha : Bool
  /-- Samples of 16 bits instead of 8. -/
  isWide : Bool
  deriving DecidableEq, Repr

namespace PixelFormat

def colors (format : PixelFormat) : Nat :=
  if format.hasColor then 3 else 1

def channels (format : PixelFormat) : Nat :=
  format.colors + if format.hasAlpha then 1 else 0

def narrow (format : PixelFormat) (sample : Nat) : Nat :=
  if format.isWide then (sample + 128) / 257 else sample

end PixelFormat

/-- A picture. The samples of a pixel lie together, and pixels in row order. -/
structure Picture where
  width : Nat
  height : Nat
  format : PixelFormat
  samples : Array Nat

/-- The brightness of a color, cut to a whole number. -/
def brightness (red green blue : Nat) : Nat :=
  (2126 * red + 7152 * green + 722 * blue) / 10000

/-- A brightness seen over white, through an opacity from 0 to 255. -/
def overWhite (luma alpha : Nat) : Nat :=
  (luma * alpha + 255 * (255 - alpha)) / 255

namespace Picture

def sample (picture : Picture) (x y channel : Nat) : Nat :=
  picture.samples[(y * picture.width + x) * picture.format.channels + channel]?.getD 0

def luma (picture : Picture) (x y : Nat) : Nat :=
  if picture.format.hasColor then
    brightness (picture.sample x y 0) (picture.sample x y 1) (picture.sample x y 2)
  else picture.sample x y 0

def alpha (picture : Picture) (x y : Nat) : Nat :=
  if picture.format.hasAlpha then
    picture.format.narrow (picture.sample x y picture.format.colors)
  else 255

/-- The shades of a picture over white. -/
def flatten (picture : Picture) : GrayPicture :=
  .ofFn picture.width picture.height fun x y =>
    .ofNat (overWhite (picture.format.narrow (picture.luma x y)) (picture.alpha x y))

end Picture

end ThermalPrint
