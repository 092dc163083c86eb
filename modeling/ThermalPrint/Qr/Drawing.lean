import ThermalPrint.Bitmap
import ThermalPrint.Qr.Symbol

/-!
QR codes as bitmaps, for printers that do not draw them.
-/

namespace ThermalPrint.Qr

def quietZone : Nat := 4

/-- The dots along a side of a module: as many as asked for, up to 16 and as far as the paper is
wide enough. -/
def moduleSize (symbolSide wanted paperWidth : Nat) : Nat :=
  min (min (max wanted 1) 16) (paperWidth / (symbolSide + 2 * quietZone))

/-- A symbol with its quiet zone, each module magnified to a square of dots. -/
def Symbol.magnify (symbol : Symbol) (size : Nat) : Bitmap :=
  let side := (symbol.side + 2 * quietZone) * size
  .ofFn side side fun x y =>
    quietZone ≤ x / size && x / size < symbol.side + quietZone &&
      quietZone ≤ y / size && y / size < symbol.side + quietZone &&
      symbol.isDark (x / size - quietZone) (y / size - quietZone)

/-- The dots of a module, row by row. -/
def moduleDots (column row size : Nat) : List ColoredDot :=
  (List.range size).flatMap fun y => (List.range size).map fun x =>
    ⟨(column + quietZone) * size + x, (row + quietZone) * size + y, true⟩

/-- The dots of the dark modules, one module after the other. -/
def Symbol.darkDots (symbol : Symbol) (size : Nat) : List ColoredDot :=
  symbol.modules.toList.zipIdx.flatMap fun (isDark, index) =>
    if isDark then moduleDots (index % symbol.side) (index / symbol.side) size else []

/-- A magnified symbol, drawn dot by dot on a white square, if the square has a place for each of
the dots. -/
def Symbol.paint? (symbol : Symbol) (size : Nat) : Option Bitmap :=
  let side := (symbol.side + 2 * quietZone) * size
  (Bitmap.white side side).setAll? (symbol.darkDots size)

/-- The bitmap of some content, if the content fits a symbol and the symbol fits the paper. -/
def bitmap? (content : String) (wantedSize paperWidth : Nat) : Option Bitmap := do
  let symbol ← Symbol.encode? (Bytes.ofText content)
  let size := moduleSize symbol.side wantedSize paperWidth
  if size = 0 then none else some (symbol.magnify size)

end ThermalPrint.Qr
