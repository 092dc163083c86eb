import ThermalPrint.Picture.Plane
import ThermalPrint.Proofs.Picture.Diffusion
import ThermalPrint.Proofs.Picture.Dots

/-!
# Two rows of cells are enough

Error diffusion keeps the cells of two rows only. It still gives every dot the color that it has in
the plane where each dot of the picture has a cell of its own: while a row is visited, the two rows
of cells agree with the two rows of the plane that can still change a dot, and all cells of the
plane below them are empty. The plane has its own numbers for the limit of black, for white and for
the shares, and these are the numbers that the visits of error diffusion use.
-/

namespace ThermalPrint

namespace ErrorPlane

def level (picture : GrayPicture) (plane : ErrorPlane) (x y : Nat) : Int :=
  (picture.shade x y).toNat + plane.cells x y

def visitDots (picture : GrayPicture) (y : Nat) (plane : ErrorPlane) (dots : Nat) : ErrorPlane :=
  (List.range dots).foldl (fun plane x => plane.visit picture x y) plane

def visitRows (picture : GrayPicture) (rows : Nat) : ErrorPlane :=
  (List.range rows).foldl (fun plane y => plane.visitDots picture y picture.width) start

theorem visitDots_succ (picture : GrayPicture) (y : Nat) (plane : ErrorPlane) (dots : Nat) :
    plane.visitDots picture y (dots + 1) =
      (plane.visitDots picture y dots).visit picture dots y := by
  simp [visitDots, List.range_succ]

theorem visitRows_succ (picture : GrayPicture) (rows : Nat) :
    visitRows picture (rows + 1) =
      (visitRows picture rows).visitDots picture rows picture.width := by
  simp [visitRows, List.range_succ]

@[simp]
theorem cells_giveIf (inside : Prop) [Decidable inside] (x y : Nat) (amount : Int)
    (plane : ErrorPlane) (column row : Nat) :
    (giveIf inside x y amount plane).cells column row =
      plane.cells column row + if inside ∧ column = x ∧ row = y then amount else 0 := by
  by_cases given : inside <;> simp [giveIf, give, given]

@[simp]
theorem isBlack_giveIf (inside : Prop) [Decidable inside] (x y : Nat) (amount : Int)
    (plane : ErrorPlane) : (giveIf inside x y amount plane).isBlack = plane.isBlack := by
  by_cases given : inside <;> simp [giveIf, give, given]

theorem isBlackLevel_eq (level : Int) : isBlackLevel level = decide (level < 128) :=
  rfl

theorem levelError_eq (level : Int) :
    levelError level = if decide (level < 128) then level else level - 255 :=
  rfl

theorem share_eq (error sixteenths : Int) :
    Diffusion.share error sixteenths = (error * sixteenths).tdiv 16 :=
  rfl

theorem share_one (error : Int) : Diffusion.share error 1 = error.tdiv 16 := by
  rw [share_eq, Int.mul_one]

theorem isBlack_visit (picture : GrayPicture) (plane : ErrorPlane) (x y column row : Nat) :
    (plane.visit picture x y).isBlack column row =
      if column = x ∧ row = y then isBlackLevel (plane.level picture x y)
      else plane.isBlack column row := by
  simp only [visit, isBlack_giveIf, isBlackLevel_eq, level]

theorem cells_visit (picture : GrayPicture) (plane : ErrorPlane) (x y column row : Nat) :
    (plane.visit picture x y).cells column row =
      plane.cells column row +
        (if x + 1 < picture.width ∧ column = x + 1 ∧ row = y then
          Diffusion.share (levelError (plane.level picture x y)) 7 else 0) +
        (if (0 < x ∧ y + 1 < picture.height) ∧ column = x - 1 ∧ row = y + 1 then
          Diffusion.share (levelError (plane.level picture x y)) 3 else 0) +
        (if y + 1 < picture.height ∧ column = x ∧ row = y + 1 then
          Diffusion.share (levelError (plane.level picture x y)) 5 else 0) +
        (if (x + 1 < picture.width ∧ y + 1 < picture.height) ∧ column = x + 1 ∧ row = y + 1 then
          Diffusion.share (levelError (plane.level picture x y)) 1 else 0) := by
  rw [share_one, share_eq, share_eq, share_eq]
  simp only [visit, cells_giveIf, levelError_eq, level]

end ErrorPlane

/-- The state of error diffusion agrees with the plane, before a dot of a row is visited. The cells
of a row that is not in the picture are of no account, and of the dots only those visited are. -/
structure Simulates (picture : GrayPicture) (x y : Nat) (state : Diffusion picture.width)
    (plane : ErrorPlane) : Prop where
  current : y < picture.height → ∀ column (_ : column < picture.width),
    state.current[column + 1] = plane.cells column y
  below : y + 1 < picture.height → ∀ column (_ : column < picture.width),
    state.below[column + 1] = plane.cells column (y + 1)
  untouched : ∀ column row, y + 1 < row → plane.cells column row = 0
  size_dots : state.dots.size = y * picture.width + x
  dots : ∀ column row, column < picture.width →
    row * picture.width + column < y * picture.width + x →
      state.dots[row * picture.width + column]? = some (plane.isBlack column row)

namespace Simulates

variable {picture : GrayPicture}

theorem start : Simulates picture 0 0 (.start picture.width) .start where
  current := by simp [Diffusion.start, ErrorPlane.start]
  below := by simp [Diffusion.start, ErrorPlane.start]
  untouched := by simp [ErrorPlane.start]
  size_dots := by simp [Diffusion.start]
  dots := by simp

variable {x y : Nat} {state : Diffusion picture.width} {plane : ErrorPlane}

theorem level_eq {x : Fin picture.width} (simulates : Simulates picture x y state plane)
    (above : y < picture.height) :
    state.level x (picture.shade x y) = plane.level picture x y := by
  simp [Diffusion.level, ErrorPlane.level, simulates.current above x.val x.isLt]

/-- A visit keeps the agreement. Shares that leave the picture go into the spare cells, which the
agreement does not mention. -/
theorem visit {x : Fin picture.width} (simulates : Simulates picture x y state plane)
    (above : y < picture.height) :
    Simulates picture (x + 1) y (state.visit x (picture.shade x y))
      (plane.visit picture x y) where
  current := by
    intro _ column inside
    rw [Diffusion.getElem_current_visit, simulates.current above column inside,
      simulates.level_eq above, ErrorPlane.cells_visit]
    have right : x.val + 1 < picture.width ∧ column = x.val + 1 ↔ column = x.val + 1 := by omega
    simp [right]
  below := by
    intro deeper column inside
    rw [Diffusion.getElem_below_visit, simulates.below deeper column inside,
      simulates.level_eq above, ErrorPlane.cells_visit]
    have left : 0 < x.val ∧ column = x.val - 1 ↔ column + 1 = x.val := by omega
    have right : x.val + 1 < picture.width ∧ column = x.val + 1 ↔ column = x.val + 1 := by omega
    simp [deeper, left, right]
  untouched := by
    intro column row deeper
    have notThis : ¬row = y := by omega
    have notNext : ¬row = y + 1 := by omega
    simp [ErrorPlane.cells_visit, simulates.untouched column row deeper, notThis, notNext]
  size_dots := by
    rw [Diffusion.dots_visit, Array.size_push, simulates.size_dots, Nat.add_assoc]
  dots := by
    intro column row inside visited
    rw [Diffusion.dots_visit, ErrorPlane.isBlack_visit, simulates.level_eq above,
      Array.getElem?_push, simulates.size_dots]
    by_cases latest : row * picture.width + column = y * picture.width + x.val
    · obtain ⟨sameColumn, sameRow⟩ := eq_of_place_eq inside x.isLt latest
      simp [sameColumn, sameRow]
    · have before : row * picture.width + column < y * picture.width + x.val := by omega
      have another : ¬(column = x.val ∧ row = y) := by
        rintro ⟨rfl, rfl⟩
        exact latest rfl
      rw [if_neg latest, if_neg another]
      exact simulates.dots column row inside before

/-- Going on to the next row keeps the agreement: the row below becomes the row to visit, and the
cells of the one after it are empty on both sides. -/
theorem nextRow (simulates : Simulates picture picture.width y state plane) :
    Simulates picture 0 (y + 1) state.nextRow plane where
  current := simulates.below
  below := by
    intro _ column _
    have empty := simulates.untouched column (y + 1 + 1) (by omega)
    simp [Diffusion.nextRow, empty]
  untouched := fun column row deeper => simulates.untouched column row (by omega)
  size_dots := by
    rw [Nat.add_one_mul, Nat.add_zero]
    exact simulates.size_dots
  dots := by
    intro column row inside visited
    rw [Nat.add_one_mul, Nat.add_zero] at visited
    exact simulates.dots column row inside visited

theorem visitRow (simulates : Simulates picture 0 y state plane) (above : y < picture.height) :
    Simulates picture 0 (y + 1) (state.visitRow fun x => picture.shade x.val y)
      (plane.visitDots picture y picture.width) := by
  apply nextRow
  apply Diffusion.row_invariant
    (motive := fun x state => Simulates picture x y state (plane.visitDots picture y x))
  · simpa [ErrorPlane.visitDots] using simulates
  · intro x state agrees
    rw [ErrorPlane.visitDots_succ]
    exact agrees.visit above

theorem diffuse (picture : GrayPicture) (rows : Nat) (above : rows ≤ picture.height) :
    Simulates picture 0 rows (picture.diffuse rows) (ErrorPlane.visitRows picture rows) := by
  induction rows with
  | zero => exact start
  | succ rows inductionHypothesis =>
    rw [GrayPicture.diffuse_succ, ErrorPlane.visitRows_succ]
    exact (inductionHypothesis (by omega)).visitRow above

end Simulates

/-- Error diffusion with two rows of cells gives each dot the color that it has in the plane with a
cell for every dot, and leaves the dots after the end of a row white. -/
theorem errorDiffusion_eq_plane (picture : GrayPicture) :
    (errorDiffusion picture).width = picture.width ∧
    (errorDiffusion picture).height = picture.height ∧
    (∀ x y, x < picture.width → y < picture.height →
      (errorDiffusion picture).get? x y = some ((ErrorPlane.ofPicture picture).isBlack x y)) ∧
    (∀ x y, picture.width ≤ x → x < 8 * bytesPerRow picture.width → y < picture.height →
      (errorDiffusion picture).get? x y = some false) := by
  refine ⟨rfl, rfl, ?_, ?_⟩
  · intro x y inside above
    have simulates := Simulates.diffuse picture picture.height (Nat.le_refl _)
    have visited : y * picture.width + x < picture.height * picture.width + 0 :=
      place_lt inside above
    have dot := simulates.dots x y inside visited
    have inRow : x < 8 * bytesPerRow picture.width := by
      unfold bytesPerRow
      omega
    simp only [errorDiffusion]
    rw [Bitmap.get?_ofFn _ _ _ inRow above, dot]
    simp [inside, ErrorPlane.ofPicture, ErrorPlane.visitRows, ErrorPlane.visitDots]
  · intro x y outside inRow above
    simp only [errorDiffusion]
    have notInside : ¬x < picture.width := by omega
    rw [Bitmap.get?_ofFn _ _ _ inRow above]
    simp [notInside]

/-- Four dots of one shade: the error of the first makes the second one white. -/
example :
    (errorDiffusion (.ofFn 4 1 fun _ _ => 96)).row 0 = [0b10110000] := by
  decide +kernel

end ThermalPrint
