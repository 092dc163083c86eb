import ThermalPrint.Bitmap
import ThermalPrint.Picture.Gray
import ThermalPrint.Receipt.Item

/-!
Reducing gray to black and white, by a threshold or by error diffusion.

Error diffusion visits the dots row by row, from left to right. Each dot is made black or white,
and what it thereby loses or gains in brightness is shared among neighbours that are still to be
visited: seven sixteenths go to the right, three to the left below, five straight below, and one to
the right below. A share is cut toward zero. Only the row being visited and the row below it can
have shares, so two rows of cells are enough; both have a spare cell at either end, which takes the
shares that fall off the picture.
-/

namespace ThermalPrint

/-- Shades below this one are black. -/
def blackBelow : Nat := 128

def whiteLevel : Int := 255

def threshold (picture : GrayPicture) : Bitmap :=
  .ofFn picture.width picture.height fun x y => (picture.shade x y).toNat < blackBelow

structure Diffusion (width : Nat) where
  /-- Shares for the row being visited, the cell of a dot being one to the right of it. -/
  current : Vector Int (width + 2)
  below : Vector Int (width + 2)
  /-- The dots visited so far, true for black. -/
  dots : Array Bool

namespace Diffusion

variable {width : Nat}

def start (width : Nat) : Diffusion width :=
  ⟨.replicate (width + 2) 0, .replicate (width + 2) 0, #[]⟩

def addTo (cells : Vector Int (width + 2)) (index : Fin (width + 2)) (share : Int) :
    Vector Int (width + 2) :=
  cells.set index (cells[index] + share)

/-- A number of sixteenths of an error, cut toward zero. -/
def share (error : Int) (sixteenths : Int) : Int :=
  (error * sixteenths).tdiv 16

def visit (state : Diffusion width) (x : Fin width) (shade : UInt8) : Diffusion width :=
  match state with
  | ⟨current, below, dots⟩ =>
    let left : Fin (width + 2) := ⟨x, by omega⟩
    let middle : Fin (width + 2) := ⟨x + 1, by omega⟩
    let right : Fin (width + 2) := ⟨x + 2, by omega⟩
    let level : Int := shade.toNat + current[middle]
    let black : Bool := level < (blackBelow : Int)
    let error := if black then level else level - whiteLevel
    { current := addTo current right (share error 7)
      below :=
        addTo (addTo (addTo below left (share error 3)) middle (share error 5))
          right (share error 1)
      dots := dots.push black }

def nextRow (state : Diffusion width) : Diffusion width :=
  { state with current := state.below, below := .replicate (width + 2) 0 }

def visitRow (state : Diffusion width) (shade : Fin width → UInt8) : Diffusion width :=
  (Fin.foldl width (fun state x => state.visit x (shade x)) state).nextRow

end Diffusion

/-- The state of error diffusion after the leading rows of a picture. -/
def GrayPicture.diffuse (picture : GrayPicture) (rows : Nat) : Diffusion picture.width :=
  rows.fold (fun y _ state => state.visitRow fun x => picture.shade x y)
    (.start picture.width)

def errorDiffusion (picture : GrayPicture) : Bitmap :=
  let dots := (picture.diffuse picture.height).dots
  .ofFn picture.width picture.height fun x y => dots[y * picture.width + x]?.getD false

def Dithering.reduce : Dithering → GrayPicture → Bitmap
  | .none => threshold
  | .floydSteinberg => errorDiffusion

end ThermalPrint
