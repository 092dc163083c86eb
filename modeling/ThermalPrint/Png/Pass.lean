import ThermalPrint.Png.Filter

/-!
Passes over a PNG picture. A picture that is not interlaced has one pass over all of its pixels; an
interlaced one has seven, each over the pixels of a grid.
-/

namespace ThermalPrint.Png

/-- The grid of a pass: its first pixel, and the steps between its pixels. -/
structure Grid where
  left : Nat
  top : Nat
  stepX : Nat
  stepY : Nat
  deriving DecidableEq, Repr

def interlacedGrids : List Grid :=
  [⟨0, 0, 8, 8⟩, ⟨4, 0, 8, 8⟩, ⟨0, 4, 4, 8⟩, ⟨2, 0, 4, 4⟩, ⟨0, 2, 2, 4⟩, ⟨1, 0, 2, 2⟩,
    ⟨0, 1, 1, 2⟩]

def grids (header : Header) : List Grid :=
  if header.interlaced then interlacedGrids else [⟨0, 0, 1, 1⟩]

namespace Grid

/-- How many places of a line are on a grid. -/
def count (size start step : Nat) : Nat :=
  (size - start + step - 1) / step

def width (grid : Grid) (header : Header) : Nat :=
  count header.width grid.left grid.stepX

/-- The rows of a pass. A pass without pixels has none. -/
def height (grid : Grid) (header : Header) : Nat :=
  if grid.width header = 0 then 0 else count header.height grid.top grid.stepY

def contains (grid : Grid) (x y : Nat) : Bool :=
  grid.left ≤ x && (x - grid.left) % grid.stepX == 0 &&
    grid.top ≤ y && (y - grid.top) % grid.stepY == 0

end Grid

/-- The bytes of the first row of the first pass, with the number of its filter. -/
def firstRowLength (header : Header) : Nat :=
  match grids header with
  | grid :: _ => header.rowBytes (grid.width header) + 1
  | [] => 0

structure Pass where
  grid : Grid
  rows : Array (Array UInt8)

def readPasses (header : Header) (data : Array UInt8) :
    (grids : List Grid) → (place : Nat) → Option (List Pass)
  | [], _ => some []
  | grid :: grids, place => do
    let length := header.rowBytes (grid.width header)
    let count := grid.height header
    let rows ← readRows data header.filterDistance length count place #[]
    let passes ← readPasses header data grids (place + count * (length + 1))
    return ⟨grid, rows.toArray⟩ :: passes

def sampleOf (header : Header) (row : Array UInt8) (pixel channel : Nat) : Nat :=
  let place := pixel * header.color.channels + channel
  let byte (index : Nat) : Nat := (row[index]?.getD 0).toNat
  if header.depth = 16 then byte (2 * place) * 256 + byte (2 * place + 1)
  else if header.depth = 8 then byte place
  else
    let bit := place * header.depth
    byte (bit / 8) >>> (8 - header.depth - bit % 8) % (1 <<< header.depth)

def sampleAt (header : Header) (passes : List Pass) (x y channel : Nat) : Nat :=
  match passes.find? fun pass => pass.grid.contains x y with
  | some pass =>
    let row := pass.rows[(y - pass.grid.top) / pass.grid.stepY]?.getD #[]
    sampleOf header row ((x - pass.grid.left) / pass.grid.stepX) channel
  | none => 0

end ThermalPrint.Png
