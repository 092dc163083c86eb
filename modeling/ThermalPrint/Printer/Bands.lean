import ThermalPrint.Bitmap
import ThermalPrint.Printer.Command

/-!
Bitmaps as printers take them: cut into bands, either of packed rows or of columns.
-/

namespace ThermalPrint

/-- The rows of a band of packed rows, few enough for the buffer of a small printer. -/
def rasterBandHeight : Nat := 256

def columnBandHeight : Nat := 24

def bandCount (height bandHeight : Nat) : Nat :=
  (height + bandHeight - 1) / bandHeight

def lineFeed : UInt8 := 0x0A

namespace Bitmap

def rasterBand (bitmap : Bitmap) (top : Nat) : Bytes :=
  let rows := min rasterBandHeight (bitmap.height - top)
  (Command.rasterHeader (.ofNat bitmap.widthBytes) (.ofNat rows)).bytes ++
    (List.range rows).flatMap fun row => bitmap.row (top + row)

def raster (bitmap : Bitmap) : Bytes :=
  (List.range (bandCount bitmap.height rasterBandHeight)).flatMap fun band =>
    bitmap.rasterBand (band * rasterBandHeight)

/-- A column of a band, three bytes from top to bottom. -/
def column (bitmap : Bitmap) (x top : Nat) : Bytes :=
  [bitmap.columnByte x top, bitmap.columnByte x (top + 8), bitmap.columnByte x (top + 16)]

def columnBand (bitmap : Bitmap) (top : Nat) : Bytes :=
  (Command.columnsHeader .columns).bytes ++ Bytes.ofLength bitmap.width ++
    (List.range bitmap.width).flatMap (fun x => bitmap.column x top) ++ [lineFeed]

/-- A bitmap in bands of columns, without space between the bands. -/
def columns (bitmap : Bitmap) : Bytes :=
  Command.noLineSpacing.bytes ++
    (List.range (bandCount bitmap.height columnBandHeight)).flatMap
      (fun band => bitmap.columnBand (band * columnBandHeight)) ++
    Command.usualLineSpacing.bytes

def send (bitmap : Bitmap) : ImageMode → Bytes
  | .raster => bitmap.raster
  | .columns => bitmap.columns

end Bitmap

end ThermalPrint
