import ThermalPrint.Barcode
import ThermalPrint.Printer.Setting

/-!
Printer commands and their bytes.
-/

namespace ThermalPrint

inductive Command where
  | cut
  | reset
  | selectCodeTable (table : CodeTable)
  /-- Smooths the edges of enlarged characters. -/
  | smoothing (enabled : Bool)
  | selectFont (font : Font)
  | selectAlignment (alignment : Alignment)
  /-- Magnifies characters 1 to 8 times in each direction. -/
  | characterSize (width height : UInt8)
  | underlineOff
  | underlineOn
  | feed (lines : UInt8)
  | barcodeTextBelow
  | barcode (symbology : Symbology) (payload : Bytes)
  | qrModel
  /-- The size of QR modules, 1 to 16 dots. -/
  | qrModuleSize (size : UInt8)
  /-- Error correction at level M. -/
  | qrErrorCorrection
  | qrStore (data : Bytes)
  | qrPrint
  /-- Announces rows of packed dots. -/
  | rasterHeader (widthBytes height : UInt16)
  /-- Announces columns of dots; their number follows. -/
  | columnsHeader (mode : ImageMode)
  | noLineSpacing
  | usualLineSpacing
  deriving DecidableEq, Repr

namespace Command

/-- The escape byte that starts many commands. -/
def escape : UInt8 := 0x1B

/-- The group separator byte that starts the other commands. -/
def group : UInt8 := 0x1D

/-- A number moved into a range. -/
def clampByte (least greatest value : UInt8) : UInt8 :=
  min (max value least) greatest

/-- The commands on QR codes, which announce the length of what follows. -/
def qrCommand (function : UInt8) (parameters : Bytes) : Bytes :=
  [group, 0x28, 0x6B] ++ Bytes.ofLength (parameters.length + 2) ++ [0x31, function] ++ parameters

def bytes : Command → Bytes
  | cut => [group, 0x56, 0x41, 0x96]
  | reset => [escape, 0x40]
  | selectCodeTable table => [escape, 0x74, table.code]
  | smoothing enabled => [group, 0x62, if enabled then 1 else 0]
  | selectFont font => [escape, 0x4D, font.code]
  | selectAlignment alignment => [escape, 0x61, alignment.code]
  | characterSize width height =>
    [group, 0x21, (clampByte 1 8 width - 1) <<< 4 ||| (clampByte 1 8 height - 1)]
  | underlineOff => [escape, 0x2D, 0]
  | underlineOn => [escape, 0x2D, 1]
  | feed lines => [escape, 0x64, lines]
  | barcodeTextBelow => [group, 0x48, 0x02]
  | barcode symbology payload =>
    [group, 0x6B, symbology.code, UInt8.ofNat payload.length] ++ payload
  | qrModel => qrCommand 0x41 [0x32, 0x00]
  | qrModuleSize size => qrCommand 0x43 [clampByte 1 16 size]
  | qrErrorCorrection => qrCommand 0x45 [0x31]
  | qrStore data => qrCommand 0x50 (0x30 :: data)
  | qrPrint => qrCommand 0x51 [0x30]
  | rasterHeader widthBytes height =>
    [group, 0x76, 0x30, ImageMode.raster.code] ++ Bytes.ofLength widthBytes.toNat ++
      Bytes.ofLength height.toNat
  | columnsHeader mode => [escape, 0x2A, mode.code]
  | noLineSpacing => [escape, 0x33, 0]
  | usualLineSpacing => [escape, 0x32]

end Command

end ThermalPrint
