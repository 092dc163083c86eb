import ThermalPrint.Picture.DiffusionMachine
import ThermalPrint.Proofs.Picture.Diffusion

/-!
# Error diffusion stays small

No error is further from zero than 127, although errors are passed on without end: a share is cut
toward zero, and a cell gets at most one share of each of the four sizes before its dot is visited.
What a cell can hold is bounded by the shares that it has got so far. So registers of 32 bits are
large enough for every picture.
-/

namespace ThermalPrint

namespace Diffusion

theorem share_of_nonneg {error sixteenths : Int} (nonneg : 0 ≤ error * sixteenths) :
    share error sixteenths = error * sixteenths / 16 :=
  Int.tdiv_eq_ediv_of_nonneg nonneg

theorem share_of_nonpos {error sixteenths : Int} (nonpos : error * sixteenths ≤ 0) :
    share error sixteenths = -(-(error * sixteenths) / 16) := by
  have nonneg : 0 ≤ -(error * sixteenths) := by omega
  rw [← Int.tdiv_eq_ediv_of_nonneg nonneg, Int.neg_tdiv, Int.neg_neg]
  rfl

def greatestError : Int := 127

/-- The greatest share that an error can give. -/
def greatestShare (sixteenths : Int) : Int :=
  greatestError * sixteenths / 16

def IsSmallError (error : Int) : Prop :=
  -greatestError ≤ error ∧ error ≤ greatestError

theorem product_bounds {error : Int} (small : IsSmallError error) {sixteenths : Int}
    (positive : 0 ≤ sixteenths) :
    -(greatestError * sixteenths) ≤ error * sixteenths ∧
      error * sixteenths ≤ greatestError * sixteenths := by
  rw [← Int.neg_mul]
  exact ⟨Int.mul_le_mul_of_nonneg_right small.1 positive,
    Int.mul_le_mul_of_nonneg_right small.2 positive⟩

theorem share_bounds {error : Int} (small : IsSmallError error) (sixteenths : Int)
    (positive : 0 ≤ sixteenths) :
    -greatestShare sixteenths ≤ share error sixteenths ∧
      share error sixteenths ≤ greatestShare sixteenths := by
  have product := product_bounds small positive
  unfold greatestShare
  rcases Int.le_total 0 (error * sixteenths) with nonneg | nonpos
  · rw [share_of_nonneg nonneg]
    omega
  · rw [share_of_nonpos nonpos]
    omega

variable {width : Nat}

/-- How far from zero a cell of the row being visited can be, by the number of dots visited: it has
its shares from the row above, and one from the left if the dot there has been visited. -/
def currentBound (visited place : Nat) : Int :=
  greatestShare 3 + greatestShare 5 + greatestShare 1 +
    if 2 ≤ place ∧ place < visited + 2 then greatestShare 7 else 0

/-- How far from zero a cell of the row below can be. -/
def belowBound (visited place : Nat) : Int :=
  (if place < visited then greatestShare 3 else 0) +
    (if 1 ≤ place ∧ place < visited + 1 then greatestShare 5 else 0) +
    (if 2 ≤ place ∧ place < visited + 2 then greatestShare 1 else 0)

structure IsBounded (visited : Nat) (state : Diffusion width) : Prop where
  current : ∀ place (_ : place < width + 2),
    -currentBound visited place ≤ state.current[place] ∧
      state.current[place] ≤ currentBound visited place
  below : ∀ place (_ : place < width + 2),
    -belowBound visited place ≤ state.below[place] ∧
      state.below[place] ≤ belowBound visited place

/-- All cells are within 124 of zero, those at the borders included. -/
def IsSmall (state : Diffusion width) : Prop :=
  ∀ place (_ : place < width + 2),
    (-124 ≤ state.current[place] ∧ state.current[place] ≤ 124) ∧
      (-124 ≤ state.below[place] ∧ state.below[place] ≤ 124)

namespace IsBounded

theorem currentBound_le (visited place : Nat) : currentBound visited place ≤ 124 := by
  simp only [currentBound, greatestShare, greatestError]
  split <;> omega

theorem belowBound_le (visited place : Nat) : belowBound visited place ≤ 124 := by
  simp only [belowBound, greatestShare, greatestError]
  split <;> split <;> split <;> omega

theorem start (width : Nat) : IsBounded 0 (.start width) where
  current := by
    intro place inside
    simp only [Diffusion.start, Vector.getElem_replicate, currentBound, greatestShare,
      greatestError]
    omega
  below := by
    intro place inside
    simp only [Diffusion.start, Vector.getElem_replicate, belowBound, greatestShare, greatestError]
    omega

variable {state : Diffusion width} {x : Fin width}

theorem current_small {visited : Nat} (bounded : IsBounded visited state) (place : Nat)
    (inside : place < width + 2) : -124 ≤ state.current[place] ∧ state.current[place] ≤ 124 := by
  have cell := bounded.current place inside
  have bound := currentBound_le visited place
  omega

theorem below_small {visited : Nat} (bounded : IsBounded visited state) (place : Nat)
    (inside : place < width + 2) : -124 ≤ state.below[place] ∧ state.below[place] ≤ 124 := by
  have cell := bounded.below place inside
  have bound := belowBound_le visited place
  omega

theorem isSmall {visited : Nat} (bounded : IsBounded visited state) : state.IsSmall :=
  fun place inside => ⟨bounded.current_small place inside, bounded.below_small place inside⟩

theorem level_bounds (bounded : IsBounded x state) (shade : UInt8) :
    -124 ≤ state.level x shade ∧ state.level x shade ≤ 379 := by
  have cell := bounded.current_small (x.val + 1) (middle_lt x)
  have byte := shade.toNat_lt
  simp only [level]
  omega

theorem isSmallError_levelError {level : Int} (least : -124 ≤ level) (greatest : level ≤ 379) :
    IsSmallError (levelError level) := by
  by_cases black : level < (blackBelow : Int)
  · have error : levelError level = level := by simp [levelError, isBlackLevel, black]
    unfold blackBelow at black
    rw [error, IsSmallError, greatestError]
    omega
  · have error : levelError level = level - 255 := by
      simp [levelError, isBlackLevel, black, whiteLevel]
    unfold blackBelow at black
    rw [error, IsSmallError, greatestError]
    omega

theorem isSmallError (bounded : IsBounded x state) (shade : UInt8) :
    IsSmallError (levelError (state.level x shade)) :=
  have level := bounded.level_bounds shade
  isSmallError_levelError level.1 level.2

/-- None of the cells that a visit adds to has had a share of that size before. -/
theorem visit (bounded : IsBounded x state) (shade : UInt8) :
    IsBounded (x + 1) (state.visit x shade) where
  current := by
    intro place inside
    have before := bounded.current place inside
    have right := share_bounds (bounded.isSmallError shade) 7 (by decide)
    rw [getElem_current_visit]
    simp only [currentBound, greatestShare, greatestError] at before right ⊢
    split <;> split <;> omega
  below := by
    intro place inside
    have before := bounded.below place inside
    have left := share_bounds (bounded.isSmallError shade) 3 (by decide)
    have middle := share_bounds (bounded.isSmallError shade) 5 (by decide)
    have right := share_bounds (bounded.isSmallError shade) 1 (by decide)
    rw [getElem_below_visit]
    simp only [belowBound, greatestShare, greatestError] at before left middle right ⊢
    omega

/-- Every cell changes at most once in a visit, so it holds what it held before or what it holds in
the end. -/
theorem isSmall_stage (bounded : IsBounded x state) (shade : UInt8) {stage : Diffusion width}
    (member : stage ∈ state.stages x shade) : stage.IsSmall := by
  intro place inside
  have before := bounded.isSmall place inside
  have after := (bounded.visit shade).isSmall place inside
  rw [getElem_current_visit, getElem_below_visit] at after
  simp only [stages, List.mem_cons, List.not_mem_nil, or_false] at member
  rcases member with rfl | rfl | rfl | rfl | rfl <;>
  · simp only [getElem_addTo]
    omega

theorem nextRow (bounded : IsBounded width state) : IsBounded 0 state.nextRow where
  current := by
    intro place inside
    have above := bounded.below place inside
    simp only [Diffusion.nextRow, currentBound, belowBound, greatestShare, greatestError] at above ⊢
    omega
  below := by
    intro place inside
    simp only [Diffusion.nextRow, Vector.getElem_replicate, belowBound, greatestShare,
      greatestError]
    omega

end IsBounded

end Diffusion

theorem GrayPicture.isBounded_diffuseTo (picture : GrayPicture) {x : Nat}
    (inside : x ≤ picture.width) (y : Nat) : (picture.diffuseTo x y).IsBounded x :=
  picture.diffuseTo_induction (motive := fun x _ state => state.IsBounded x)
    (Diffusion.IsBounded.start _) (fun _ _ bounded => bounded.visit _)
    (fun _ bounded => bounded.nextRow) inside y

/-! ### The machine does not stop -/

namespace DiffusionMachine

variable {width : Nat}

def ofDiffusion (state : Diffusion width) : DiffusionMachine :=
  ⟨state.current.toArray, state.below.toArray, state.dots⟩

theorem hold?_eq_some {number : Int} (least : -0x80000000 ≤ number)
    (greatest : number < 0x80000000) : hold? number = some number :=
  if_pos ⟨least, greatest⟩

theorem addShare?_toArray {cells : Vector Int (width + 2)} {place : Nat}
    (inside : place < width + 2) (bounded : -124 ≤ cells[place] ∧ cells[place] ≤ 124) {error : Int}
    (small : Diffusion.IsSmallError error) (sixteenths : Int) (positive : 0 ≤ sixteenths)
    (few : sixteenths ≤ 16) :
    addShare? cells.toArray place error sixteenths =
      some (Diffusion.addTo cells ⟨place, inside⟩ (Diffusion.share error sixteenths)).toArray := by
  have product := Diffusion.product_bounds small positive
  have part := Diffusion.share_bounds small sixteenths positive
  simp only [Diffusion.greatestShare, Diffusion.greatestError] at product part
  have heldProduct : hold? (error * sixteenths) = some (error * sixteenths) :=
    hold?_eq_some (by omega) (by omega)
  have divided : (error * sixteenths).tdiv 16 = Diffusion.share error sixteenths := rfl
  have heldShare : hold? (Diffusion.share error sixteenths) =
      some (Diffusion.share error sixteenths) :=
    hold?_eq_some (by omega) (by omega)
  have heldSum : hold? (cells[place] + Diffusion.share error sixteenths) =
      some (cells[place] + Diffusion.share error sixteenths) :=
    hold?_eq_some (by omega) (by omega)
  have found : place < cells.toArray.size := by simpa using inside
  simp only [addShare?, heldProduct, divided, heldShare, found, Vector.getElem_toArray, heldSum,
    dif_pos, Option.bind_eq_bind, Option.bind_some]
  rfl

theorem hold?_error {level : Int} (small : Diffusion.IsSmallError (levelError level)) :
    hold? (level - if isBlackLevel level then 0 else whiteLevel) = some (levelError level) := by
  have error : (level - if isBlackLevel level then 0 else whiteLevel) = levelError level := by
    unfold levelError
    split <;> simp
  simp only [Diffusion.IsSmallError, Diffusion.greatestError] at small
  rw [error]
  exact hold?_eq_some (by omega) (by omega)

/-- The three cells below are different ones, so each still holds what it held before. -/
theorem addShares?_ofDiffusion {state : Diffusion width} {x : Fin width}
    (bounded : state.IsBounded x) (shade : UInt8) (dots : Array Bool) :
    { ofDiffusion state with dots := dots }.addShares? x (levelError (state.level x shade)) =
      some { ofDiffusion (state.visit x shade) with dots := dots } := by
  have small := bounded.isSmallError shade
  let error := levelError (state.level x shade)
  let first := Diffusion.addTo state.below ⟨x, Diffusion.left_lt x⟩ (Diffusion.share error 3)
  let second := Diffusion.addTo first ⟨x + 1, Diffusion.middle_lt x⟩ (Diffusion.share error 5)
  have middle : first[x.val + 1] = state.below[x.val + 1] :=
    Diffusion.getElem_addTo_other _ _ _ _ (by simp)
  have right : second[x.val + 2] = state.below[x.val + 2] :=
    (Diffusion.getElem_addTo_other first _ _ _ (by simp)).trans
      (Diffusion.getElem_addTo_other _ _ _ _ (by simp))
  have toRight := addShare?_toArray (Diffusion.right_lt x)
    (bounded.current_small _ (Diffusion.right_lt x)) small 7 (by decide) (by decide)
  have toLeftBelow := addShare?_toArray (Diffusion.left_lt x)
    (bounded.below_small _ (Diffusion.left_lt x)) small 3 (by decide) (by decide)
  have toMiddleBelow := addShare?_toArray (Diffusion.middle_lt x)
    (middle ▸ bounded.below_small _ (Diffusion.middle_lt x)) small 5 (by decide) (by decide)
  have toRightBelow := addShare?_toArray (Diffusion.right_lt x)
    (right ▸ bounded.below_small _ (Diffusion.right_lt x)) small 1 (by decide) (by decide)
  simp only [addShares?, ofDiffusion, toRight, toLeftBelow, Option.bind_eq_bind, Option.bind_some]
  rw [toMiddleBelow, Option.bind_some, toRightBelow]
  rfl

theorem visit?_ofDiffusion {state : Diffusion width} {x : Fin width} (bounded : state.IsBounded x)
    (shade : UInt8) :
    (ofDiffusion state).visit? x shade = some (ofDiffusion (state.visit x shade)) := by
  have levels := bounded.level_bounds shade
  have inside := Diffusion.middle_lt x
  have received : (ofDiffusion state).current[x.val + 1]? = some (state.current[x.val + 1]) := by
    simp [ofDiffusion]
  have heldLevel : hold? (shade.toNat + state.current[x.val + 1]) = some (state.level x shade) :=
    hold?_eq_some (Int.le_trans (by decide) levels.1) (Int.lt_of_le_of_lt levels.2 (by decide))
  have heldError := hold?_error (bounded.isSmallError shade)
  simp only [visit?, received, heldLevel, Option.bind_eq_bind, Option.bind_some]
  change (hold? (_ - if isBlackLevel _ then 0 else whiteLevel)).bind _ = _
  rw [heldError, Option.bind_some]
  exact addShares?_ofDiffusion bounded shade _

theorem nextRow_ofDiffusion (state : Diffusion width) :
    (ofDiffusion state).nextRow = ofDiffusion state.nextRow := by
  simp [ofDiffusion, nextRow, Diffusion.nextRow]

theorem visitDots_ofDiffusion (picture : GrayPicture) (y : Nat) {dots : Nat}
    (inside : dots ≤ picture.width) :
    (List.range dots).foldlM (fun machine x => machine.visit? x (picture.shade x y))
        (ofDiffusion (picture.diffuseTo 0 y)) =
      some (ofDiffusion (picture.diffuseTo dots y)) := by
  induction dots with
  | zero => rfl
  | succ dots inductionHypothesis =>
    have bounded := picture.isBounded_diffuseTo (Nat.le_of_succ_le inside) y
    have visited := visit?_ofDiffusion (x := ⟨dots, inside⟩) bounded (picture.shade dots y)
    rw [← picture.diffuseTo_succ ⟨dots, inside⟩ y] at visited
    rw [List.range_succ, List.foldlM_append, inductionHypothesis (Nat.le_of_succ_le inside)]
    simpa using visited

theorem visitRow?_ofDiffusion (picture : GrayPicture) (y : Nat) :
    (ofDiffusion (picture.diffuse y)).visitRow? picture.width (fun x => picture.shade x y) =
      some (ofDiffusion (picture.diffuse (y + 1))) := by
  have visited := visitDots_ofDiffusion picture y (Nat.le_refl _)
  have next : (picture.diffuseTo picture.width y).nextRow = picture.diffuse (y + 1) :=
    (picture.diffuseTo_nextRow y).symm
  rw [visitRow?, ← next, ← nextRow_ofDiffusion]
  exact congrArg (Option.bind · fun machine => some machine.nextRow) visited

theorem run?_eq (picture : GrayPicture) (rows : Nat) :
    run? picture rows = some (ofDiffusion (picture.diffuse rows)) := by
  induction rows with
  | zero => simp [run?, GrayPicture.diffuse, ofDiffusion, Diffusion.start]
  | succ rows inductionHypothesis =>
    rw [run?, List.range_succ, List.foldlM_append, ← run?, inductionHypothesis]
    simpa using visitRow?_ofDiffusion picture rows

end DiffusionMachine

/-- No number that error diffusion works with leaves its range, however large the picture is: cells
stay within 124 of zero before, during and after every visit, levels between -124 and 379, and
errors within 127 of zero. A machine with registers of 32 bits that looks each cell up finds all of
them and never stops. The stages of a visit lead to the state before the next dot. -/
theorem diffusion_stays_in_range (picture : GrayPicture) :
    (∀ x y, x ≤ picture.width → y ≤ picture.height → (picture.diffuseTo x y).IsSmall) ∧
    (∀ (x : Fin picture.width) y, y < picture.height →
      (∀ stage ∈ (picture.diffuseTo x y).stages x (picture.shade x y), stage.IsSmall) ∧
      ((picture.diffuseTo x y).stages x (picture.shade x y)).getLast? =
        some (picture.diffuseTo (x + 1) y) ∧
      (-124 ≤ picture.levelAt x y ∧ picture.levelAt x y ≤ 379) ∧
      (-127 ≤ picture.errorAt x y ∧ picture.errorAt x y ≤ 127)) ∧
    DiffusionMachine.run? picture picture.height =
      some (.ofDiffusion (picture.diffuse picture.height)) := by
  refine ⟨?_, ?_, DiffusionMachine.run?_eq picture picture.height⟩
  · intro x y inside _
    exact (picture.isBounded_diffuseTo inside y).isSmall
  · intro x y _
    have bounded := picture.isBounded_diffuseTo (Nat.le_of_lt x.isLt) y
    have last := (picture.diffuseTo x y).getLast?_stages x (picture.shade x y)
    rw [← picture.diffuseTo_succ] at last
    exact ⟨fun stage member => bounded.isSmall_stage _ member, last, bounded.level_bounds _,
      bounded.isSmallError _⟩

end ThermalPrint
