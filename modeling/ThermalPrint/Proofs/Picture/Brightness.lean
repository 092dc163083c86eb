import Mathlib.Algebra.BigOperators.Fin
import Mathlib.Algebra.BigOperators.Intervals
import Mathlib.Algebra.Order.BigOperators.Group.Finset
import Mathlib.Algebra.Order.Ring.Int
import Mathlib.Tactic.Linarith
import Mathlib.Tactic.Ring
import ThermalPrint.Proofs.Picture.Range

/-!
# Error diffusion keeps the brightness

What a dot loses or gains in brightness is passed on, so that the picture as a whole keeps its
brightness but for what is lost: at most three where the shares of a dot are cut, and the shares
that fall off at the borders. The account is kept by what the cells of the dots still to be visited
hold.
-/

namespace ThermalPrint

open Finset

/-- The sum of all shades. -/
def GrayPicture.brightness (picture : GrayPicture) : Nat :=
  ∑ y : Fin picture.height, ∑ x : Fin picture.width, (picture.shade x y).toNat

def Bitmap.whiteDots (bitmap : Bitmap) : Nat :=
  ∑ y : Fin bitmap.height, #{x : Fin bitmap.width | bitmap.get? x y = some false}

/-- If each step changes a potential by what is gained but for some loss, then all steps together
change it by all that is gained but for all the losses. -/
theorem abs_sum_sub_le {count : Nat} (potential : Nat → Int) {gain loss : Fin count → Int}
    (step : ∀ index : Fin count,
      |gain index - (potential (index + 1) - potential index)| ≤ loss index) :
    |∑ index, gain index - (potential count - potential 0)| ≤ ∑ index, loss index := by
  have telescope : ∑ index : Fin count, (potential (index + 1) - potential index) =
      potential count - potential 0 := by
    rw [Fin.sum_univ_eq_sum_range (fun index => potential (index + 1) - potential index) count,
      sum_range_sub]
  rw [← telescope, ← sum_sub_distrib]
  exact (abs_sum_le_sum_abs _ _).trans (sum_le_sum fun index _ => step index)

/-- An amount that is given at one place only. -/
theorem sum_ite_val_eq (count place : Nat) (amount : Int) :
    (∑ index : Fin count, if index.val = place then amount else 0) =
      if place < count then amount else 0 := by
  by_cases inside : place < count
  · have same (index : Fin count) : index.val = place ↔ index = ⟨place, inside⟩ := by
      rw [Fin.ext_iff]
    simp [same, inside]
  · have other (index : Fin count) : ¬index.val = place := by omega
    simp [other, inside]

/-- An amount that is given to the place on the left only. -/
theorem sum_ite_succ_val_eq {count : Nat} (place : Fin count) (amount : Int) :
    (∑ index : Fin count, if index.val + 1 = place.val then amount else 0) =
      if 0 < place.val then amount else 0 := by
  by_cases first : place.val = 0
  · simp [first]
  · have same (index : Fin count) : index.val + 1 = place.val ↔ index.val = place.val - 1 := by
      omega
    have inside : place.val - 1 < count := by omega
    simp only [same, sum_ite_val_eq, inside, Nat.pos_of_ne_zero first]

namespace Diffusion

variable {width : Nat}

@[simp]
theorem cellOf_replicate (column : Fin width) : cellOf (.replicate (width + 2) 0) column = 0 := by
  simp [cellOf]

/-- What the cells of the dots hold that are still to be visited, in this row and in the next. -/
def pending (visited : Nat) (state : Diffusion width) : Int :=
  ∑ column : Fin width,
    ((if visited ≤ column.val then cellOf state.current column else 0) +
      cellOf state.below column)

/-- The shares of an error that stay in the picture, if there is a row below. -/
def kept (x : Fin width) (error : Int) : Int :=
  (if x.val + 1 < width then share error 7 else 0) + (if 0 < x.val then share error 3 else 0) +
    share error 5 + (if x.val + 1 < width then share error 1 else 0)

theorem cellOf_current_visit (state : Diffusion width) (x column : Fin width) (shade : UInt8) :
    cellOf (state.visit x shade).current column =
      cellOf state.current column +
        if column.val = x.val + 1 then share (levelError (state.level x shade)) 7 else 0 := by
  have cell := getElem_current_visit state x shade (column + 1) (middle_lt column)
  simpa [cellOf] using cell

theorem cellOf_below_visit (state : Diffusion width) (x column : Fin width) (shade : UInt8) :
    cellOf (state.visit x shade).below column =
      cellOf state.below column +
        (if column.val + 1 = x.val then share (levelError (state.level x shade)) 3 else 0) +
        (if column.val = x.val then share (levelError (state.level x shade)) 5 else 0) +
        (if column.val = x.val + 1 then share (levelError (state.level x shade)) 1 else 0) := by
  have cell := getElem_below_visit state x shade (column + 1) (middle_lt column)
  simpa [cellOf] using cell

/-- After a visit the cell of the dot does not count any more, and the next one holds a share. -/
theorem unvisited_visit (state : Diffusion width) (x column : Fin width) (shade : UInt8) :
    (if x.val + 1 ≤ column.val then cellOf (state.visit x shade).current column else 0) =
      (if x.val ≤ column.val then cellOf state.current column else 0) -
        (if column.val = x.val then cellOf state.current x else 0) +
        (if column.val = x.val + 1 then share (levelError (state.level x shade)) 7 else 0) := by
  rw [cellOf_current_visit]
  rcases Nat.lt_trichotomy column.val x.val with visited | same | unvisited
  · have notNext : ¬column.val = x.val + 1 := by omega
    have notLater : ¬x.val + 1 ≤ column.val := by omega
    simp [visited.ne, visited.not_ge, notNext, notLater]
  · obtain rfl := Fin.ext same
    simp
  · have later : x.val + 1 ≤ column.val := unvisited
    simp [unvisited.ne', unvisited.le, later]

/-- A visit takes the cell of the dot off the account and puts the shares on it. -/
theorem pending_visit (state : Diffusion width) (x : Fin width) (shade : UInt8) :
    (state.visit x shade).pending (x + 1) =
      state.pending x - cellOf state.current x + kept x (levelError (state.level x shade)) := by
  unfold pending kept
  simp only [unvisited_visit, cellOf_below_visit, sum_add_distrib, sum_sub_distrib, sum_ite_val_eq,
    sum_ite_succ_val_eq, x.isLt, if_true]
  ring

theorem pending_nextRow (state : Diffusion width) :
    state.nextRow.pending 0 = state.pending width := by
  have visited (column : Fin width) : ¬width ≤ column.val := by omega
  simp [pending, nextRow, visited]

/-- Cutting the four shares of an error loses at most three. -/
theorem abs_error_sub_shares_le (error : Int) :
    |error - (share error 7 + share error 3 + share error 5 + share error 1)| ≤ 3 := by
  rw [abs_le]
  rcases Int.le_total 0 error with nonneg | nonpos
  · rw [share_of_nonneg (by omega), share_of_nonneg (by omega), share_of_nonneg (by omega),
      share_of_nonneg (by omega)]
    omega
  · rw [share_of_nonpos (by omega), share_of_nonpos (by omega), share_of_nonpos (by omega),
      share_of_nonpos (by omega)]
    omega

theorem abs_error_sub_kept_le (x : Fin width) {error : Int} (small : IsSmallError error) :
    |error - kept x error| ≤
      3 + (if x.val = 0 then 23 else 0) + if x.val + 1 = width then 62 else 0 := by
  have lost := abs_error_sub_shares_le error
  have left := share_bounds small 3 (by decide)
  have right := share_bounds small 7 (by decide)
  have rightBelow := share_bounds small 1 (by decide)
  simp only [greatestShare, greatestError] at left right rightBelow
  rw [abs_le] at lost ⊢
  have hasRight : x.val + 1 < width ↔ ¬x.val + 1 = width := by omega
  have hasLeft : 0 < x.val ↔ ¬x.val = 0 := Nat.pos_iff_ne_zero
  simp only [kept, hasRight, hasLeft]
  by_cases first : x.val = 0 <;> by_cases last : x.val + 1 = width <;>
    simp only [first, last, not_true_eq_false, not_false_eq_true, if_true, if_false] <;> omega

theorem abs_pending_le {state : Diffusion width} (bounded : state.IsBounded 0) :
    |state.pending 0| ≤ 69 * width := by
  have cell (column : Fin width) :
      |(if 0 ≤ column.val then cellOf state.current column else 0) +
        cellOf state.below column| ≤ 69 := by
    have above := bounded.current (column.val + 1) (middle_lt column)
    have empty := bounded.below (column.val + 1) (middle_lt column)
    simp only [currentBound, belowBound, greatestShare, greatestError] at above empty
    rw [if_pos (Nat.zero_le _), abs_le, cellOf, cellOf]
    omega
  calc |state.pending 0| ≤ ∑ _column : Fin width, (69 : Int) :=
        (abs_sum_le_sum_abs _ _).trans (sum_le_sum fun column _ => cell column)
    _ = 69 * width := by simp [mul_comm]

end Diffusion

namespace GrayPicture

variable (picture : GrayPicture)

/-- What the cells hold, before a dot is visited, for the dots still to be visited. -/
def pendingAt (x y : Nat) : Int :=
  (picture.diffuseTo x y).pending x

/-- How much darker a dot has become. -/
def darkening (x : Fin picture.width) (y : Nat) : Int :=
  (picture.shade x y).toNat - if isBlackLevel (picture.levelAt x y) then 0 else whiteLevel

theorem darkening_eq (x : Fin picture.width) (y : Nat) :
    picture.darkening x y =
      picture.errorAt x y - Diffusion.cellOf (picture.diffuseTo x y).current x := by
  have level : picture.levelAt x y =
      (picture.shade x y).toNat + Diffusion.cellOf (picture.diffuseTo x y).current x := rfl
  unfold darkening errorAt levelError
  split <;> rw [level] <;> ring

/-- At a visit the account is out by what is cut and by what leaves the picture. -/
theorem abs_darkening_sub_le (x : Fin picture.width) (y : Nat) :
    |picture.darkening x y - (picture.pendingAt (x + 1) y - picture.pendingAt x y)| ≤
      3 + (if x.val = 0 then 23 else 0) + if x.val + 1 = picture.width then 62 else 0 := by
  have bounded := picture.isBounded_diffuseTo (Nat.le_of_lt x.isLt) y
  have passedOn : picture.pendingAt (x + 1) y =
      picture.pendingAt x y - Diffusion.cellOf (picture.diffuseTo x y).current x +
        Diffusion.kept x (picture.errorAt x y) := by
    rw [pendingAt, diffuseTo_succ]
    exact Diffusion.pending_visit _ x _
  have difference :
      picture.darkening x y - (picture.pendingAt (x + 1) y - picture.pendingAt x y) =
        picture.errorAt x y - Diffusion.kept x (picture.errorAt x y) := by
    rw [darkening_eq, passedOn]
    ring
  rw [difference]
  exact Diffusion.abs_error_sub_kept_le x (bounded.isSmallError _)

theorem abs_row_darkening_sub_le (y : Nat) :
    |∑ x, picture.darkening x y - (picture.pendingAt 0 (y + 1) - picture.pendingAt 0 y)| ≤
      3 * picture.width + 85 := by
  have next : picture.pendingAt 0 (y + 1) = picture.pendingAt picture.width y := by
    rw [pendingAt, diffuseTo_nextRow]
    exact Diffusion.pending_nextRow _
  rw [next]
  calc |∑ x, picture.darkening x y - (picture.pendingAt picture.width y - picture.pendingAt 0 y)|
      ≤ ∑ x : Fin picture.width,
          ((3 + if x.val = 0 then 23 else 0) + if x.val + 1 = picture.width then 62 else 0 : Int) :=
        abs_sum_sub_le (fun x => picture.pendingAt x y) fun x => picture.abs_darkening_sub_le x y
    _ = 3 * picture.width + (if 0 < picture.width then 23 else 0) +
          if picture.width - 1 < picture.width then 62 else 0 := by
        have last (x : Fin picture.width) :
            x.val + 1 = picture.width ↔ x.val = picture.width - 1 := by omega
        simp only [last, sum_add_distrib, sum_ite_val_eq, sum_const, card_univ, Fintype.card_fin,
          nsmul_eq_mul]
        ring
    _ ≤ 3 * picture.width + 85 := by
        split <;> split <;> omega

theorem pendingAt_start : picture.pendingAt 0 0 = 0 := by
  simp [pendingAt, diffuseTo, diffuse, Diffusion.start, Diffusion.pending]

theorem abs_darkening_le :
    |∑ y : Fin picture.height, ∑ x, picture.darkening x y| ≤
      3 * (picture.width * picture.height) + 69 * picture.width + 85 * picture.height := by
  have account :
      |∑ y : Fin picture.height, ∑ x, picture.darkening x y -
        (picture.pendingAt 0 picture.height - picture.pendingAt 0 0)| ≤
        ∑ _y : Fin picture.height, (3 * picture.width + 85 : Int) :=
    abs_sum_sub_le (fun y => picture.pendingAt 0 y) fun y => picture.abs_row_darkening_sub_le y
  have left : |picture.pendingAt 0 picture.height| ≤ 69 * picture.width :=
    Diffusion.abs_pending_le (picture.isBounded_diffuseTo (Nat.zero_le _) picture.height)
  have lost : ∑ _y : Fin picture.height, (3 * picture.width + 85 : Int) =
      3 * (picture.width * picture.height) + 85 * picture.height := by
    simp only [sum_const, card_univ, Fintype.card_fin, nsmul_eq_mul]
    ring
  rw [lost, pendingAt_start, sub_zero, abs_le] at account
  rw [abs_le] at left ⊢
  constructor <;> linarith

theorem whiteDots_errorDiffusion :
    (errorDiffusion picture).whiteDots =
      ∑ y : Fin picture.height, ∑ x : Fin picture.width,
        if isBlackLevel (picture.levelAt x y) then 0 else 1 := by
  have white (x : Fin picture.width) (y : Fin picture.height) :
      (errorDiffusion picture).get? x y = some false ↔
        ¬isBlackLevel (picture.levelAt x y) = true := by
    rw [get?_errorDiffusion x y.isLt]
    simp
  change ∑ y : Fin picture.height,
    #{x : Fin picture.width | (errorDiffusion picture).get? x y = some false} = _
  simp only [white, card_filter, ite_not]

theorem sum_darkening :
    ∑ y : Fin picture.height, ∑ x, picture.darkening x y =
      picture.brightness - 255 * (errorDiffusion picture).whiteDots := by
  have dot (x : Fin picture.width) (y : Fin picture.height) :
      picture.darkening x y =
        (picture.shade x y).toNat -
          255 * ((if isBlackLevel (picture.levelAt x y) then 0 else 1 : Nat) : Int) := by
    unfold darkening whiteLevel
    split <;> simp
  rw [whiteDots_errorDiffusion, brightness]
  simp only [dot, sum_sub_distrib, Nat.cast_sum, mul_sum]

end GrayPicture

/-- The brightness of a picture and that of its white dots differ by little: by at most three for
each dot, and by what the three borders can take. -/
theorem errorDiffusion_keeps_brightness (picture : GrayPicture) :
    |(picture.brightness : Int) - 255 * (errorDiffusion picture).whiteDots| ≤
      3 * (picture.width * picture.height) + 69 * picture.width + 85 * picture.height := by
  rw [← picture.sum_darkening]
  exact picture.abs_darkening_le

end ThermalPrint
