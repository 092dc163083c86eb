/-!
Pictures in shades of gray, from 0 for black to 255 for white.
-/

namespace ThermalPrint

/-- A picture in shades of gray, row by row. -/
structure GrayPicture where
  width : Nat
  height : Nat
  samples : Array UInt8
  size_samples : samples.size = width * height

namespace GrayPicture

def ofFn (width height : Nat) (shade : Nat → Nat → UInt8) : GrayPicture where
  width := width
  height := height
  samples := .ofFn fun index : Fin (width * height) =>
    shade (index.val % width) (index.val / width)
  size_samples := by simp

/-- The shade of a dot. Outside the picture all is white. -/
def shade (picture : GrayPicture) (x y : Nat) : UInt8 :=
  picture.samples[y * picture.width + x]?.getD 255

end GrayPicture

end ThermalPrint
