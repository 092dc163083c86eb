import ThermalPrint.Qr.Pattern

/-!
QR symbols. Of the eight masks the one with the lowest penalty is drawn, and the first of equals.
-/

namespace ThermalPrint.Qr

/-- A square of modules, row by row, true for dark. -/
structure Symbol where
  side : Nat
  modules : Array Bool
  size_modules : modules.size = side * side

namespace Symbol

/-- Whether a module is dark. Outside the symbol all is light. -/
def isDark (symbol : Symbol) (x y : Nat) : Bool :=
  symbol.modules[y * symbol.side + x]?.getD false

/-! ### Penalties -/

/-- The penalties of runs of at least five equal modules in a line, after the start of a run. -/
def runPenalty : (color : Bool) → (length : Nat) → List Bool → Nat
  | _, length, [] => if 5 ≤ length then length - 2 else 0
  | color, length, next :: rest =>
    if next = color then runPenalty color (length + 1) rest
    else (if 5 ≤ length then length - 2 else 0) + runPenalty next 1 rest

def linePenalty : List Bool → Nat
  | [] => 0
  | first :: rest => runPenalty first 1 rest

/-- The penalties of places in a line that look like a finder pattern: dark and light in the ratio
of one such pattern, with four light modules before or after. The line comes with four light
modules at either end. -/
def finderPenalty : List Bool → Nat
  | [] => 0
  | before :: rest =>
    (match before, rest with
    | a, b :: c :: d :: true :: false :: true :: true :: true :: false :: true ::
        e :: f :: g :: h :: _ =>
      if !(a || b || c || d) || !(e || f || g || h) then 40 else 0
    | _, _ => 0) + finderPenalty rest

/-- A line of light modules of the width of the border that finder patterns need. -/
def lightBorder : List Bool :=
  List.replicate 4 false

def linesPenalty (lines : List (List Bool)) : Nat :=
  lines.foldl (fun sum line =>
    sum + linePenalty line + finderPenalty (lightBorder ++ line ++ lightBorder)) 0

def squarePenalty (symbol : Symbol) (x y : Nat) : Nat :=
  let color := symbol.isDark x y
  if symbol.isDark (x + 1) y = color ∧ symbol.isDark x (y + 1) = color ∧
      symbol.isDark (x + 1) (y + 1) = color then 3
  else 0

/-- The penalty of an uneven share of dark modules. -/
def balancePenalty (symbol : Symbol) : Nat :=
  let dark := symbol.modules.foldl (fun count isDark => if isDark then count + 1 else count) 0
  distance (dark * 200 / (symbol.side * symbol.side)) 100

def penalty (symbol : Symbol) : Nat :=
  let line := List.range symbol.side
  let rows := line.map fun y => line.map fun x => symbol.isDark x y
  let columns := line.map fun x => line.map fun y => symbol.isDark x y
  let inner := List.range (symbol.side - 1)
  let squares := inner.foldl
    (fun sum y => inner.foldl (fun sum x => sum + symbol.squarePenalty x y) sum) 0
  linesPenalty rows + linesPenalty columns + squares + symbol.balancePenalty

/-! ### Drawing -/

def dataModules (layout : Layout) : Array Bool :=
  let side := Qr.side layout.version
  let bits := layout.codewords.flatMap fun codeword => bitsOf 8 codeword.toNat
  ((dataPlaces layout.version).zip bits).foldl
    (fun modules ((x, y), bit) => modules.setIfInBounds (y * side + x) bit)
    (.replicate (side * side) false)

def draw (version : Nat) (data : Array Bool) (mask : Nat) : Symbol where
  side := Qr.side version
  modules := .ofFn fun index : Fin (Qr.side version * Qr.side version) =>
    let x := index.val % Qr.side version
    let y := index.val / Qr.side version
    match fixedColor? version mask x y with
    | some color => color
    | none => data[index.val]?.getD false != isMasked mask x y
  size_modules := by simp

/-- The better of two symbols with their penalties, the first if they are equally good. -/
def better (left right : Symbol × Nat) : Symbol × Nat :=
  if right.2 < left.2 then right else left

def ofLayout (layout : Layout) : Symbol :=
  let data := dataModules layout
  let drawn (mask : Nat) : Symbol × Nat :=
    let symbol := draw layout.version data mask
    (symbol, symbol.penalty)
  ([1, 2, 3, 4, 5, 6, 7].foldl (fun best mask => better best (drawn mask)) (drawn 0)).1

def encode? (content : Bytes) : Option Symbol :=
  (Layout.of? content).map ofLayout

end Symbol

end ThermalPrint.Qr
