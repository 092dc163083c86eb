import ThermalPrint.Proofs.Picture.Diffusion

/-!
# Error diffusion is causal

The color of a dot depends only on dots that are visited before it, and of these only on the ones in
a cone above it, which reaches one column further to the right with each row. Two runs are compared
cell by cell: while their pictures agree in the cone, their cells agree within a reach that gets
shorter by one with each row. What happens beyond the reach does not catch up with it, because a
share goes at most one column to the left, and only when it goes down.
-/

namespace ThermalPrint

namespace Diffusion

/-- Two states hold the same in the cells of the leading dots, up to a reach in the row being
visited and short of it by one dot in the row below. -/
structure AgreesWithin {width otherWidth : Nat} (reach : Nat) (state : Diffusion width)
    (other : Diffusion otherWidth) : Prop where
  current : ∀ place (_ : place < width + 2) (_ : place < otherWidth + 2), place ≤ reach + 1 →
    other.current[place] = state.current[place]
  below : ∀ place (_ : place < width + 2) (_ : place < otherWidth + 2), place ≤ reach →
    other.below[place] = state.below[place]

namespace AgreesWithin

variable {width otherWidth reach : Nat}

theorem start : AgreesWithin reach (.start width) (.start otherWidth) where
  current := by simp [Diffusion.start]
  below := by simp [Diffusion.start]

variable {state : Diffusion width} {other : Diffusion otherWidth} {x : Nat}

theorem level_eq (agrees : AgreesWithin reach state other) (inside : x < width)
    (otherInside : x < otherWidth) (within : x ≤ reach) (shade : UInt8) :
    other.level ⟨x, otherInside⟩ shade = state.level ⟨x, inside⟩ shade := by
  have place : x + 1 ≤ reach + 1 := Nat.succ_le_succ within
  simp only [level,
    agrees.current (x + 1) (middle_lt ⟨x, inside⟩) (middle_lt ⟨x, otherInside⟩) place]

/-- The shades may differ at a dot beyond the reach: its shares go to cells beyond the reach. -/
theorem visit (agrees : AgreesWithin reach state other) (inside : x < width)
    (otherInside : x < otherWidth) {shade otherShade : UInt8}
    (sameShade : x ≤ reach → otherShade = shade) :
    AgreesWithin reach (state.visit ⟨x, inside⟩ shade)
      (other.visit ⟨x, otherInside⟩ otherShade) := by
  by_cases within : x ≤ reach
  · rw [sameShade within]
    have sameLevel := agrees.level_eq inside otherInside within shade
    constructor
    · intro place inCells inOtherCells near
      rw [getElem_current_visit, getElem_current_visit, sameLevel,
        agrees.current place inCells inOtherCells near]
    · intro place inCells inOtherCells near
      rw [getElem_below_visit, getElem_below_visit, sameLevel,
        agrees.below place inCells inOtherCells near]
  · constructor
    · intro place inCells inOtherCells near
      have notRight : place ≠ x + 2 := by omega
      rw [getElem_current_visit, getElem_current_visit, if_neg notRight, if_neg notRight,
        agrees.current place inCells inOtherCells near]
    · intro place inCells inOtherCells near
      have notLeft : place ≠ x := by omega
      have notMiddle : place ≠ x + 1 := by omega
      have notRight : place ≠ x + 2 := by omega
      simp only [getElem_below_visit, notLeft, notMiddle, notRight, if_false,
        agrees.below place inCells inOtherCells near]

theorem nextRow (agrees : AgreesWithin (reach + 1) state other) :
    AgreesWithin reach state.nextRow other.nextRow where
  current := agrees.below
  below := by simp [Diffusion.nextRow]

end AgreesWithin

end Diffusion

namespace GrayPicture

/-- The leading rows of a picture. -/
def crop (picture : GrayPicture) (rows : Nat) : GrayPicture where
  width := picture.width
  height := min rows picture.height
  samples := picture.samples.extract 0 (picture.width * min rows picture.height)
  size_samples := by
    rw [Array.size_extract, picture.size_samples, Nat.sub_zero]
    exact Nat.min_eq_left (Nat.mul_le_mul_left _ (Nat.min_le_right _ _))

/-- The picture with another shade at one dot. -/
def recolor (picture : GrayPicture) (x y : Nat) (shade : UInt8) : GrayPicture where
  width := picture.width
  height := picture.height
  samples := picture.samples.setIfInBounds (y * picture.width + x) shade
  size_samples := by
    rw [Array.size_setIfInBounds]
    exact picture.size_samples

variable {picture : GrayPicture} {x y : Nat}

theorem shade_crop {rows : Nat} (inside : x < picture.width) (above : y < min rows picture.height) :
    (picture.crop rows).shade x y = picture.shade x y := by
  have kept : y * picture.width + x < picture.width * min rows picture.height := by
    rw [Nat.mul_comm picture.width]
    exact place_lt inside above
  have inSamples : y * picture.width + x < picture.samples.size := by
    rw [picture.size_samples]
    exact Nat.lt_of_lt_of_le kept (Nat.mul_le_mul_left _ (Nat.min_le_right _ _))
  have inBoth := Nat.lt_min.mpr ⟨kept, inSamples⟩
  simp only [shade, crop, Array.getElem?_extract, Nat.sub_zero, inBoth, if_true, Nat.zero_add]

theorem shade_recolor {column row : Nat} {shade : UInt8} (inside : x < picture.width)
    (columnInside : column < picture.width) (another : ¬(x = column ∧ y = row)) :
    (picture.recolor column row shade).shade x y = picture.shade x y := by
  have elsewhere : row * picture.width + column ≠ y * picture.width + x := by
    intro same
    apply another
    exact eq_of_place_eq inside columnInside same.symm
  simp only [GrayPicture.shade, recolor, Array.getElem?_setIfInBounds_ne elsewhere]

/-- Pictures that agree in the cone above a dot make the states agree within the reach of the
cone. -/
theorem agreesWithin_diffuseTo {other : GrayPicture} (sameWidth : other.width = picture.width)
    (sameShades : ∀ column row, column < picture.width → row ≤ y → column ≤ x + (y - row) →
      other.shade column row = picture.shade column row)
    {column row : Nat} (inside : column ≤ picture.width) (above : row ≤ y) :
    (picture.diffuseTo column row).AgreesWithin (x + (y - row)) (other.diffuseTo column row) := by
  refine picture.diffuseTo_induction (motive := fun column row state =>
    row ≤ y → state.AgreesWithin (x + (y - row)) (other.diffuseTo column row))
    ?_ ?_ ?_ inside row above
  · intro _
    exact Diffusion.AgreesWithin.start
  · intro column row agrees above
    have otherInside : column.val < other.width := Nat.lt_of_lt_of_eq column.isLt sameWidth.symm
    rw [other.diffuseTo_succ ⟨column, otherInside⟩ row]
    apply (agrees above).visit column.isLt otherInside
    intro within
    exact sameShades column row column.isLt above within
  · intro row agrees above
    have shorter : x + (y - row) = x + (y - (row + 1)) + 1 := by omega
    have finished : other.diffuseTo other.width row = other.diffuseTo picture.width row :=
      congrArg (other.diffuseTo · row) sameWidth
    rw [other.diffuseTo_nextRow, finished]
    apply Diffusion.AgreesWithin.nextRow
    rw [← shorter]
    exact agrees (Nat.le_of_succ_le above)

theorem get?_errorDiffusion_of_agree (other : GrayPicture) (inside : x < picture.width)
    (above : y < picture.height) (sameWidth : other.width = picture.width)
    (otherAbove : y < other.height)
    (sameShades : ∀ column row, column < picture.width → row ≤ y → column ≤ x + (y - row) →
      other.shade column row = picture.shade column row) :
    (errorDiffusion other).get? x y = (errorDiffusion picture).get? x y := by
  have otherInside : x < other.width := sameWidth ▸ inside
  have agrees := agreesWithin_diffuseTo sameWidth sameShades (Nat.le_of_lt inside) (Nat.le_refl y)
  have sameShade := sameShades x y inside (Nat.le_refl y) (Nat.le_add_right _ _)
  have sameLevel : other.levelAt ⟨x, otherInside⟩ y = picture.levelAt ⟨x, inside⟩ y := by
    unfold levelAt
    rw [sameShade]
    exact agrees.level_eq inside otherInside (Nat.le_add_right _ _) _
  rw [get?_errorDiffusion ⟨x, otherInside⟩ otherAbove, get?_errorDiffusion ⟨x, inside⟩ above,
    sameLevel]

end GrayPicture

/-- The color of a dot is the same in every picture of the same width that agrees in the cone above
the dot. So another shade at a dot does not matter to dots visited before it, nor to those so far to
the left that the cone does not reach it, and the rows that are cut off at the bottom do not matter
to those above them. -/
theorem errorDiffusion_is_causal (picture : GrayPicture) {x y : Nat} (inside : x < picture.width)
    (above : y < picture.height) :
    (∀ other : GrayPicture, other.width = picture.width → y < other.height →
      (∀ column row, column < picture.width → row ≤ y → column ≤ x + (y - row) →
        other.shade column row = picture.shade column row) →
      (errorDiffusion other).get? x y = (errorDiffusion picture).get? x y) ∧
    (∀ column row shade, column < picture.width → y < row ∨ x + (y - row) < column →
      (errorDiffusion (picture.recolor column row shade)).get? x y =
        (errorDiffusion picture).get? x y) ∧
    ∀ rows, y < rows →
      (errorDiffusion (picture.crop rows)).get? x y = (errorDiffusion picture).get? x y := by
  refine ⟨?_, ?_, ?_⟩
  · intro other sameWidth otherAbove sameShades
    exact GrayPicture.get?_errorDiffusion_of_agree other inside above sameWidth otherAbove
      sameShades
  · intro column row shade columnInside beyond
    apply GrayPicture.get?_errorDiffusion_of_agree (picture.recolor column row shade) inside above
      rfl above
    intro place line placeInside before near
    apply GrayPicture.shade_recolor placeInside columnInside
    rintro ⟨rfl, rfl⟩
    rcases beyond with later | further
    · exact absurd before (Nat.not_le_of_lt later)
    · exact absurd near (Nat.not_le_of_lt further)
  · intro rows kept
    have remains : y < min rows picture.height := Nat.lt_min.mpr ⟨kept, above⟩
    apply GrayPicture.get?_errorDiffusion_of_agree (picture.crop rows) inside above rfl remains
    intro column row columnInside before _
    exact GrayPicture.shade_crop columnInside (Nat.lt_of_le_of_lt before remains)

def evenGray : GrayPicture :=
  .ofFn 4 3 fun _ _ => 48

/-- The cone above the dot in the second column of the second row, and white around it. -/
def grayCone : GrayPicture :=
  .ofFn 4 2 fun x y => if x ≤ 1 + (1 - y) then 48 else 255

theorem evenGray_is_causal :
    (1 < evenGray.width ∧ 1 < evenGray.height) ∧
    (errorDiffusion grayCone).get? 1 1 = (errorDiffusion evenGray).get? 1 1 ∧
    (∀ shade, (errorDiffusion (evenGray.recolor 3 0 shade)).get? 1 1 =
      (errorDiffusion evenGray).get? 1 1) ∧
    (errorDiffusion (evenGray.crop 2)).get? 1 1 = (errorDiffusion evenGray).get? 1 1 := by
  have cone : ∀ column < 4, ∀ row ≤ 1, column ≤ 1 + (1 - row) →
      grayCone.shade column row = evenGray.shade column row := by decide
  have inside : 1 < evenGray.width := by decide
  have above : 1 < evenGray.height := by decide
  obtain ⟨sameInCone, recolored, cropped⟩ := errorDiffusion_is_causal evenGray inside above
  refine ⟨⟨inside, above⟩, ?_, ?_, ?_⟩
  · apply sameInCone grayCone rfl (by decide)
    intro column row columnInside before
    exact cone column columnInside row before
  · intro shade
    exact recolored 3 0 shade (by decide) (by decide)
  · exact cropped 2 (by decide)

/-- One column further to the right the cone does reach the last dot of the row above. -/
example :
    (errorDiffusion (evenGray.recolor 3 0 100)).get? 2 1 ≠ (errorDiffusion evenGray).get? 2 1 := by
  decide +kernel

end ThermalPrint
