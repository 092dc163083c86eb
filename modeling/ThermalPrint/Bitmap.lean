import ThermalPrint.Bytes

/-!
Pictures of black and white dots. The rows of a bitmap lie one after the other, each in whole
bytes; the leftmost dot of a byte is its most significant bit, and a set bit is black. The dots
after the end of a row are white.
-/

namespace ThermalPrint

def bytesPerRow (width : Nat) : Nat :=
  (width + 7) / 8

/-- Eight dots in a byte, the first one most significant. -/
def packByte (dot : Nat → Bool) : UInt8 :=
  (List.range 8).foldl (fun byte index => byte <<< 1 ||| (if dot index then 1 else 0)) 0

/-- The bit of a dot in the byte that holds it. -/
def dotMask (x : Nat) : UInt8 :=
  0x80 >>> UInt8.ofNat (x % 8)

/-- A dot and the color that it gets. -/
structure ColoredDot where
  x : Nat
  y : Nat
  isBlack : Bool
  deriving DecidableEq, Repr

structure Bitmap where
  width : Nat
  height : Nat
  data : Array UInt8
  size_data : data.size = bytesPerRow width * height

namespace Bitmap

def widthBytes (bitmap : Bitmap) : Nat :=
  bytesPerRow bitmap.width

def white (width height : Nat) : Bitmap where
  width := width
  height := height
  data := .replicate (bytesPerRow width * height) 0
  size_data := by simp

def ofFn (width height : Nat) (isBlack : Nat → Nat → Bool) : Bitmap where
  width := width
  height := height
  data := .ofFn fun index : Fin (bytesPerRow width * height) =>
    let left := index.val % bytesPerRow width * 8
    let row := index.val / bytesPerRow width
    packByte fun offset => left + offset < width && isBlack (left + offset) row
  size_data := by simp

def byteIndex (bitmap : Bitmap) (x y : Nat) : Nat :=
  y * bitmap.widthBytes + x / 8

/-- Whether a dot is black, if the data reaches as far as the dot. -/
def get? (bitmap : Bitmap) (x y : Nat) : Option Bool :=
  bitmap.data[bitmap.byteIndex x y]?.map fun byte => byte &&& dotMask x != 0

/-- Whether a dot is black. Outside the data all is white. -/
def get (bitmap : Bitmap) (x y : Nat) : Bool :=
  (bitmap.get? x y).getD false

/-- The bitmap with one dot changed, if the data reaches as far as the dot. -/
def set? (bitmap : Bitmap) (x y : Nat) (black : Bool) : Option Bitmap :=
  if inside : bitmap.byteIndex x y < bitmap.data.size then
    let byte := bitmap.data[bitmap.byteIndex x y]
    let changed := if black then byte ||| dotMask x else byte &&& ~~~dotMask x
    some
      { bitmap with
        data := bitmap.data.set (bitmap.byteIndex x y) changed
        size_data := by simpa using bitmap.size_data }
  else none

/-- The bitmap with dots changed one after the other, if the data reaches as far as all of them. -/
def setAll? (bitmap : Bitmap) (dots : List ColoredDot) : Option Bitmap :=
  dots.foldlM (fun bitmap dot => bitmap.set? dot.x dot.y dot.isBlack) bitmap

def row (bitmap : Bitmap) (y : Nat) : Bytes :=
  (bitmap.data.extract (y * bitmap.widthBytes) ((y + 1) * bitmap.widthBytes)).toList

/-- The bytes of a row, if the data reaches to its end. -/
def row? (bitmap : Bitmap) (y : Nat) : Option Bytes :=
  if (y + 1) * bitmap.widthBytes ≤ bitmap.data.size then some (bitmap.row y) else none

/-- Eight dots of a column in a byte, the top one most significant. Dots below the last row are
white. -/
def columnByte (bitmap : Bitmap) (x top : Nat) : UInt8 :=
  packByte fun offset => top + offset < bitmap.height && bitmap.get x (top + offset)

end Bitmap

end ThermalPrint
