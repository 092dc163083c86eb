import ThermalPrint.Picture.Reduction

/-!
Error diffusion on a machine with registers of 32 bits. The machine finds a cell by its place in a
row of cells. It stops if there is no cell at a place, or if a register cannot hold what an
operation gives.
-/

namespace ThermalPrint

structure DiffusionMachine where
  current : Array Int
  below : Array Int
  dots : Array Bool
  deriving DecidableEq, Repr

namespace DiffusionMachine

/-- Puts a number into a register, if it has at most 32 bits. -/
def hold? (number : Int) : Option Int :=
  if -0x80000000 ≤ number ∧ number < 0x80000000 then some number else none

/-- Adds a number of sixteenths of an error to a cell. The product, the share and the sum each pass
through a register. -/
def addShare? (cells : Array Int) (place : Nat) (error sixteenths : Int) : Option (Array Int) := do
  let product ← hold? (error * sixteenths)
  let share ← hold? (product.tdiv 16)
  if inside : place < cells.size then
    let sum ← hold? (cells[place] + share)
    return cells.set place sum
  else none

/-- Shares an error among the neighbors of a dot. -/
def addShares? (machine : DiffusionMachine) (x : Nat) (error : Int) :
    Option DiffusionMachine := do
  let current ← addShare? machine.current (x + 2) error 7
  let below ← addShare? machine.below x error 3
  let below ← addShare? below (x + 1) error 5
  let below ← addShare? below (x + 2) error 1
  return { machine with current := current, below := below }

def visit? (machine : DiffusionMachine) (x : Nat) (shade : UInt8) : Option DiffusionMachine := do
  let received ← machine.current[x + 1]?
  let level ← hold? (shade.toNat + received)
  let black : Bool := level < (blackBelow : Int)
  let error ← hold? (level - if black then 0 else whiteLevel)
  { machine with dots := machine.dots.push black }.addShares? x error

/-- The rows of cells change places, and the lower one is emptied. -/
def nextRow (machine : DiffusionMachine) : DiffusionMachine :=
  { machine with current := machine.below, below := .replicate machine.current.size 0 }

def visitRow? (machine : DiffusionMachine) (width : Nat) (shade : Nat → UInt8) :
    Option DiffusionMachine := do
  let visited ← (List.range width).foldlM (fun machine x => machine.visit? x (shade x)) machine
  return visited.nextRow

/-- The machine after the leading rows of a picture, if it has not stopped. -/
def run? (picture : GrayPicture) (rows : Nat) : Option DiffusionMachine :=
  (List.range rows).foldlM
    (fun machine y => machine.visitRow? picture.width fun x => picture.shade x y)
    ⟨.replicate (picture.width + 2) 0, .replicate (picture.width + 2) 0, #[]⟩

end DiffusionMachine

end ThermalPrint
