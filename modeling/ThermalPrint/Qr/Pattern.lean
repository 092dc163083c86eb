import ThermalPrint.Qr.Codewords

/-!
The fixed patterns of a QR code, and the masks. Modules are addressed by column and row.
-/

namespace ThermalPrint.Qr

def distance (left right : Nat) : Nat :=
  max left right - min left right

/-- The distance from a center, along the axis in which it is greater. -/
def ringAround (centerX centerY x y : Nat) : Nat :=
  max (distance centerX x) (distance centerY y)

def alignmentCenter? (version x y : Nat) : Option (Nat × Nat) :=
  let last := side version - 7
  match (alignmentCenters version).find? fun center => distance center x ≤ 2,
      (alignmentCenters version).find? fun center => distance center y ≤ 2 with
  | some centerX, some centerY =>
    if (centerX, centerY) = (6, 6) ∨ (centerX, centerY) = (6, last) ∨
        (centerX, centerY) = (last, 6) then none
    else some (centerX, centerY)
  | _, _ => none

/-- The remainder of a number with zeros appended, by a polynomial over bits. -/
def bitRemainder (polynomial degree value : Nat) : Nat :=
  degree.fold (fun _ _ remainder =>
    let shifted := remainder * 2
    if shifted.testBit degree then shifted ^^^ polynomial else shifted) value

/-- The bits of a mask number at level M, with their error correction. -/
def formatBits (mask : Nat) : Nat :=
  (mask * 1024 + bitRemainder 0x537 10 mask) ^^^ 0x5412

def versionBits (version : Nat) : Nat :=
  version * 4096 + bitRemainder 0x1F25 12 version

/-- The number of the format bit that a module shows. -/
def formatIndex? (side x y : Nat) : Option Nat :=
  if x = 8 then
    if y ≤ 5 then some y
    else if y = 7 then some 6
    else if y = 8 then some 7
    else if side - 7 ≤ y then some (y + 15 - side)
    else none
  else if y = 8 then
    if x = 7 then some 8
    else if x ≤ 5 then some (14 - x)
    else if side - 8 ≤ x then some (side - 1 - x)
    else none
  else none

def versionIndex? (version x y : Nat) : Option Nat :=
  let edge := side version - 11
  if version < 7 then none
  else if y < 6 ∧ edge ≤ x ∧ x < edge + 3 then some (y * 3 + (x - edge))
  else if x < 6 ∧ edge ≤ y ∧ y < edge + 3 then some (x * 3 + (y - edge))
  else none

/-- The color of a module of a finder pattern or its border, at a distance from the center. -/
def finderColor (ring : Nat) : Bool :=
  ring ≠ 2 && ring ≠ 4

/-- The color of a module that holds no data, true for dark. -/
def fixedColor? (version mask x y : Nat) : Option Bool :=
  let side := side version
  if x < 8 ∧ y < 8 then some (finderColor (ringAround 3 3 x y))
  else if side - 8 ≤ x ∧ y < 8 then some (finderColor (ringAround (side - 4) 3 x y))
  else if x < 8 ∧ side - 8 ≤ y then some (finderColor (ringAround 3 (side - 4) x y))
  else if x = 6 ∨ y = 6 then
    match alignmentCenter? version x y with
    | some (centerX, centerY) => some (ringAround centerX centerY x y != 1)
    | none => some ((x + y) % 2 == 0)
  else if x = 8 ∧ y = side - 8 then some true
  else
    match formatIndex? side x y with
    | some index => some ((formatBits mask).testBit index)
    | none =>
      match versionIndex? version x y with
      | some index => some ((versionBits version).testBit index)
      | none =>
        (alignmentCenter? version x y).map fun (centerX, centerY) =>
          ringAround centerX centerY x y != 1

def isMasked (mask x y : Nat) : Bool :=
  match mask with
  | 0 => (x + y) % 2 == 0
  | 1 => y % 2 == 0
  | 2 => x % 3 == 0
  | 3 => (x + y) % 3 == 0
  | 4 => (y / 2 + x / 3) % 2 == 0
  | 5 => x * y % 2 + x * y % 3 == 0
  | 6 => (x * y % 2 + x * y % 3) % 2 == 0
  | _ => ((x + y) % 2 + x * y % 3) % 2 == 0

/-- The modules that hold data, in the order in which the bits are drawn: in pairs of columns from
right to left, alternately upward and downward, around the vertical timing pattern. -/
def dataPlaces (version : Nat) : List (Nat × Nat) :=
  let side := side version
  (List.range ((side - 1) / 2)).flatMap fun pair =>
    let right := side - 1 - 2 * pair
    let right := if right ≤ 6 then right - 1 else right
    (List.range side).flatMap fun step =>
      let y := if pair % 2 = 0 then side - 1 - step else step
      [(right, y), (right - 1, y)].filter fun (x, y) => (fixedColor? version 0 x y).isNone

end ThermalPrint.Qr
