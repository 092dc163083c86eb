import ThermalPrint.Picture.Reduction
import ThermalPrint.Proofs.Picture.Dots

/-!
# Error diffusion, dot by dot

What a visit does to the cells and to the dots, and how an invariant of single visits becomes one of
whole rows and of whole pictures.
-/

namespace ThermalPrint

def isBlackLevel (level : Int) : Bool :=
  level < (blackBelow : Int)

/-- What a dot of some level loses or gains in brightness. -/
def levelError (level : Int) : Int :=
  if isBlackLevel level then level else level - whiteLevel

namespace Diffusion

variable {width : Nat}

theorem getElem_addTo (cells : Vector Int (width + 2)) (index : Fin (width + 2)) (amount : Int)
    (place : Nat) (inside : place < width + 2) :
    (addTo cells index amount)[place] =
      cells[place] + if place = index.val then amount else 0 := by
  unfold addTo
  rw [Vector.getElem_set]
  by_cases here : index.val = place
  · subst here
    simp
  · have elsewhere : ¬place = index.val := fun same => here same.symm
    simp [here, elsewhere]

theorem getElem_addTo_other (cells : Vector Int (width + 2)) (index : Fin (width + 2))
    (amount : Int) {place : Nat} (inside : place < width + 2) (other : place ≠ index.val) :
    (addTo cells index amount)[place] = cells[place] := by
  rw [getElem_addTo, if_neg other, Int.add_zero]

theorem left_lt (x : Fin width) : x.val < width + 2 := by
  omega

theorem middle_lt (x : Fin width) : x.val + 1 < width + 2 := by
  omega

theorem right_lt (x : Fin width) : x.val + 2 < width + 2 := by
  omega

/-- What the cell of a dot holds. -/
def cellOf (cells : Vector Int (width + 2)) (x : Fin width) : Int :=
  have inside := middle_lt x
  cells[x.val + 1]

/-- The level of a dot: its shade and what its cell holds. -/
def level (state : Diffusion width) (x : Fin width) (shade : UInt8) : Int :=
  have inside := middle_lt x
  shade.toNat + state.current[x.val + 1]

theorem getElem_current_visit (state : Diffusion width) (x : Fin width) (shade : UInt8)
    (place : Nat) (inside : place < width + 2) :
    (state.visit x shade).current[place] =
      state.current[place] +
        if place = x.val + 2 then share (levelError (state.level x shade)) 7 else 0 :=
  getElem_addTo state.current ⟨x.val + 2, by omega⟩ _ place inside

theorem getElem_below_visit (state : Diffusion width) (x : Fin width) (shade : UInt8)
    (place : Nat) (inside : place < width + 2) :
    (state.visit x shade).below[place] =
      state.below[place] +
        (if place = x.val then share (levelError (state.level x shade)) 3 else 0) +
        (if place = x.val + 1 then share (levelError (state.level x shade)) 5 else 0) +
        (if place = x.val + 2 then share (levelError (state.level x shade)) 1 else 0) := by
  have left := getElem_addTo state.below ⟨x.val, by omega⟩
    (share (levelError (state.level x shade)) 3) place inside
  have middle := getElem_addTo
    (addTo state.below ⟨x.val, by omega⟩ (share (levelError (state.level x shade)) 3))
    ⟨x.val + 1, by omega⟩ (share (levelError (state.level x shade)) 5) place inside
  have right := getElem_addTo
    (addTo (addTo state.below ⟨x.val, by omega⟩ (share (levelError (state.level x shade)) 3))
      ⟨x.val + 1, by omega⟩ (share (levelError (state.level x shade)) 5))
    ⟨x.val + 2, by omega⟩ (share (levelError (state.level x shade)) 1) place inside
  rw [middle, left] at right
  exact right

theorem dots_visit (state : Diffusion width) (x : Fin width) (shade : UInt8) :
    (state.visit x shade).dots = state.dots.push (isBlackLevel (state.level x shade)) :=
  rfl

/-- What a visit goes through: the state before an error is shared, and the one after each of the
four shares. -/
def stages (state : Diffusion width) (x : Fin width) (shade : UInt8) : List (Diffusion width) :=
  let level := state.level x shade
  let error := levelError level
  let unshared := { state with dots := state.dots.push (isBlackLevel level) }
  let first :=
    { unshared with current := addTo unshared.current ⟨x + 2, right_lt x⟩ (share error 7) }
  let second := { first with below := addTo first.below ⟨x, left_lt x⟩ (share error 3) }
  let third := { second with below := addTo second.below ⟨x + 1, middle_lt x⟩ (share error 5) }
  let fourth := { third with below := addTo third.below ⟨x + 2, right_lt x⟩ (share error 1) }
  [unshared, first, second, third, fourth]

/-- The last stage is what the visit leaves. -/
theorem getLast?_stages (state : Diffusion width) (x : Fin width) (shade : UInt8) :
    (state.stages x shade).getLast? = some (state.visit x shade) :=
  rfl

theorem foldl_invariant {State : Type} {count : Nat} (step : State → Fin count → State)
    {motive : Nat → State → Prop} {state : State} (first : motive 0 state)
    (preserved : ∀ (index : Fin count) (state : State),
      motive index.val state → motive (index.val + 1) (step state index)) :
    motive count (Fin.foldl count step state) := by
  induction count with
  | zero => simpa using first
  | succ count inductionHypothesis =>
    rw [Fin.foldl_succ_last]
    apply preserved (Fin.last count)
    exact inductionHypothesis (fun state index => step state index.castSucc)
      fun index state holds => preserved index.castSucc state holds

/-- What holds before the first dot of a row and survives each visit holds after the last one. -/
theorem row_invariant {shade : Fin width → UInt8} {motive : Nat → Diffusion width → Prop}
    {state : Diffusion width} (first : motive 0 state)
    (visit : ∀ (x : Fin width) (state : Diffusion width),
      motive x.val state → motive (x.val + 1) (state.visit x (shade x))) :
    motive width (Fin.foldl width (fun state x => state.visit x (shade x)) state) :=
  foldl_invariant (fun state x => state.visit x (shade x)) first visit

/-- The state after the leading dots of a row have been visited. -/
def visitDots (state : Diffusion width) (shade : Fin width → UInt8) (dots : Nat) :
    Diffusion width :=
  ((List.finRange width).take dots).foldl (fun state x => state.visit x (shade x)) state

@[simp]
theorem visitDots_zero (state : Diffusion width) (shade : Fin width → UInt8) :
    state.visitDots shade 0 = state :=
  rfl

theorem visitDots_succ (state : Diffusion width) (shade : Fin width → UInt8) (x : Fin width) :
    state.visitDots shade (x + 1) = (state.visitDots shade x).visit x (shade x) := by
  simp [visitDots, List.take_add_one]

theorem visitRow_eq (state : Diffusion width) (shade : Fin width → UInt8) :
    state.visitRow shade = (state.visitDots shade width).nextRow := by
  apply congrArg nextRow
  apply row_invariant (motive := fun x visited => visited = state.visitDots shade x)
  · rfl
  · intro x visited same
    rw [same, visitDots_succ]

end Diffusion

namespace GrayPicture

variable (picture : GrayPicture)

theorem diffuse_succ (rows : Nat) :
    picture.diffuse (rows + 1) =
      (picture.diffuse rows).visitRow fun x => picture.shade x.val rows := by
  simp [diffuse]

/-- The state of error diffusion before a dot is visited, or at the end of a row. -/
def diffuseTo (x y : Nat) : Diffusion picture.width :=
  (picture.diffuse y).visitDots (fun x => picture.shade x.val y) x

theorem diffuseTo_succ (x : Fin picture.width) (y : Nat) :
    picture.diffuseTo (x + 1) y = (picture.diffuseTo x y).visit x (picture.shade x y) :=
  Diffusion.visitDots_succ _ _ x

theorem diffuseTo_nextRow (y : Nat) :
    picture.diffuseTo 0 (y + 1) = (picture.diffuseTo picture.width y).nextRow := by
  rw [diffuseTo, Diffusion.visitDots_zero, diffuse_succ, Diffusion.visitRow_eq]
  rfl

theorem diffuseTo_height : picture.diffuseTo 0 picture.height = picture.diffuse picture.height :=
  rfl

/-- What holds at the start and is kept by each visit and by going on to the next row holds before
each dot and at the end of each row. -/
theorem diffuseTo_induction {motive : Nat → Nat → Diffusion picture.width → Prop}
    (start : motive 0 0 (.start picture.width))
    (visit : ∀ (x : Fin picture.width) y, motive x y (picture.diffuseTo x y) →
      motive (x + 1) y ((picture.diffuseTo x y).visit x (picture.shade x y)))
    (nextRow : ∀ y, motive picture.width y (picture.diffuseTo picture.width y) →
      motive 0 (y + 1) (picture.diffuseTo picture.width y).nextRow)
    {x : Nat} (inside : x ≤ picture.width) (y : Nat) : motive x y (picture.diffuseTo x y) := by
  have row (y : Nat) (first : motive 0 y (picture.diffuseTo 0 y)) :
      ∀ x, x ≤ picture.width → motive x y (picture.diffuseTo x y) := by
    intro x inside
    induction x with
    | zero => exact first
    | succ x inductionHypothesis =>
      have visited := visit ⟨x, inside⟩ y (inductionHypothesis (by omega))
      rwa [← diffuseTo_succ] at visited
  have first : motive 0 y (picture.diffuseTo 0 y) := by
    induction y with
    | zero => exact start
    | succ y inductionHypothesis =>
      rw [diffuseTo_nextRow]
      exact nextRow y (row y inductionHypothesis picture.width (Nat.le_refl _))
  exact row y first x inside

/-- The level at which a dot is visited. -/
def levelAt (x : Fin picture.width) (y : Nat) : Int :=
  (picture.diffuseTo x y).level x (picture.shade x y)

/-- What a dot loses or gains in brightness when it is visited. -/
def errorAt (x : Fin picture.width) (y : Nat) : Int :=
  levelError (picture.levelAt x y)

/-- The color of a dot is settled at its visit, and no later visit changes it. -/
theorem dots_diffuseTo {x : Nat} (inside : x ≤ picture.width) (y : Nat) :
    (picture.diffuseTo x y).dots.size = y * picture.width + x ∧
    ∀ (column : Fin picture.width) row,
      row * picture.width + column < y * picture.width + x →
        (picture.diffuseTo x y).dots[row * picture.width + column]? =
          some (isBlackLevel (picture.levelAt column row)) := by
  refine picture.diffuseTo_induction (motive := fun x y state =>
    state.dots.size = y * picture.width + x ∧
    ∀ (column : Fin picture.width) row,
      row * picture.width + column < y * picture.width + x →
        state.dots[row * picture.width + column]? =
          some (isBlackLevel (picture.levelAt column row))) ?_ ?_ ?_ inside y
  · simp [Diffusion.start]
  · rintro x y ⟨size, settled⟩
    rw [Diffusion.dots_visit]
    constructor
    · rw [Array.size_push, size, Nat.add_assoc]
    · intro column row visited
      rw [Array.getElem?_push, size]
      by_cases latest : row * picture.width + column.val = y * picture.width + x.val
      · obtain ⟨sameColumn, rfl⟩ := eq_of_place_eq column.isLt x.isLt latest
        obtain rfl := Fin.ext sameColumn
        rw [if_pos rfl]
        rfl
      · rw [if_neg latest]
        exact settled column row (by omega)
  · rintro y ⟨size, settled⟩
    rw [Nat.add_one_mul, Nat.add_zero]
    exact ⟨size, settled⟩

end GrayPicture

/-- A dot is black if the level at which it is visited is. -/
theorem get?_errorDiffusion {picture : GrayPicture} (x : Fin picture.width) {y : Nat}
    (above : y < picture.height) :
    (errorDiffusion picture).get? x y = some (isBlackLevel (picture.levelAt x y)) := by
  obtain ⟨_, settled⟩ := picture.dots_diffuseTo (Nat.zero_le _) picture.height
  have dot := settled x y (place_lt x.isLt above)
  have inRow : x.val < 8 * bytesPerRow picture.width := by
    unfold bytesPerRow
    omega
  rw [picture.diffuseTo_height] at dot
  simp only [errorDiffusion]
  rw [Bitmap.get?_ofFn _ _ _ inRow above, dot]
  simp

end ThermalPrint
