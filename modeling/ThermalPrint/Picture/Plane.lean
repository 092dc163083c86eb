import ThermalPrint.Picture.Gray

/-!
Error diffusion as it is defined: every dot of the picture has a cell of its own for the shares
that it gets. The shares are seven, three, five and one sixteenths of an error, cut toward zero, and
those for places outside the picture are lost.
-/

namespace ThermalPrint

/-- The cells of a picture, and which of its dots are black, by column and row. -/
structure ErrorPlane where
  cells : Nat → Nat → Int
  isBlack : Nat → Nat → Bool

namespace ErrorPlane

def start : ErrorPlane :=
  ⟨fun _ _ => 0, fun _ _ => false⟩

def give (plane : ErrorPlane) (x y : Nat) (share : Int) : ErrorPlane :=
  { plane with
    cells := fun column row =>
      plane.cells column row + if column = x ∧ row = y then share else 0 }

def giveIf (inside : Prop) [Decidable inside] (x y : Nat) (share : Int) (plane : ErrorPlane) :
    ErrorPlane :=
  if inside then plane.give x y share else plane

def visit (picture : GrayPicture) (plane : ErrorPlane) (x y : Nat) : ErrorPlane :=
  let level : Int := (picture.shade x y).toNat + plane.cells x y
  let black : Bool := level < 128
  let error := if black then level else level - 255
  let colored : ErrorPlane :=
    { plane with
      isBlack := fun column row =>
        if column = x ∧ row = y then black else plane.isBlack column row }
  colored
    |> giveIf (x + 1 < picture.width) (x + 1) y ((error * 7).tdiv 16)
    |> giveIf (0 < x ∧ y + 1 < picture.height) (x - 1) (y + 1) ((error * 3).tdiv 16)
    |> giveIf (y + 1 < picture.height) x (y + 1) ((error * 5).tdiv 16)
    |> giveIf (x + 1 < picture.width ∧ y + 1 < picture.height) (x + 1) (y + 1) (error.tdiv 16)

/-- The plane after all dots of a picture have been visited, row by row and from left to right. -/
def ofPicture (picture : GrayPicture) : ErrorPlane :=
  (List.range picture.height).foldl (fun plane y =>
    (List.range picture.width).foldl (fun plane x => plane.visit picture x y) plane) start

end ErrorPlane

end ThermalPrint
