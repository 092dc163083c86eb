import ThermalPrint.Proofs.Picture.Diffusion

/-!
# Black and white pictures are reduced to themselves

A dot that is black or white already has no error to share. So all cells stay empty while error
diffusion goes through a picture of such dots, and it colors them as the threshold does. What comes
of a reduction is such a picture, and reducing it again changes nothing.
-/

namespace ThermalPrint

def IsBlackOrWhite (shade : UInt8) : Prop :=
  shade = 0 ∨ shade = 255

instance (shade : UInt8) : Decidable (IsBlackOrWhite shade) :=
  inferInstanceAs (Decidable (shade = 0 ∨ shade = 255))

theorem levelError_of_isBlackOrWhite {shade : UInt8} (extreme : IsBlackOrWhite shade) :
    levelError shade.toNat = 0 := by
  rcases extreme with rfl | rfl
  · decide
  · decide

theorem isBlackLevel_of_isBlackOrWhite {shade : UInt8} (extreme : IsBlackOrWhite shade) :
    isBlackLevel shade.toNat = (shade == 0) := by
  rcases extreme with rfl | rfl
  · decide
  · decide

namespace Diffusion

variable {width : Nat}

@[simp]
theorem share_zero (sixteenths : Int) : share 0 sixteenths = 0 := by
  simp [share]

/-- No cell holds anything. -/
structure IsClear (state : Diffusion width) : Prop where
  current : ∀ place (_ : place < width + 2), state.current[place] = 0
  below : ∀ place (_ : place < width + 2), state.below[place] = 0

namespace IsClear

theorem start : IsClear (.start width) where
  current := by simp [Diffusion.start]
  below := by simp [Diffusion.start]

variable {state : Diffusion width}

theorem level_eq (clear : state.IsClear) (x : Fin width) (shade : UInt8) :
    state.level x shade = shade.toNat := by
  rw [level, clear.current, Int.add_zero]

theorem visit (clear : state.IsClear) (x : Fin width) {shade : UInt8}
    (extreme : IsBlackOrWhite shade) : (state.visit x shade).IsClear where
  current := by
    intro place inside
    rw [getElem_current_visit, clear.level_eq, levelError_of_isBlackOrWhite extreme, clear.current]
    simp
  below := by
    intro place inside
    rw [getElem_below_visit, clear.level_eq, levelError_of_isBlackOrWhite extreme, clear.below]
    simp

theorem nextRow (clear : state.IsClear) : state.nextRow.IsClear where
  current := clear.below
  below := by simp [Diffusion.nextRow]

end IsClear

end Diffusion

namespace GrayPicture

def IsBlackAndWhite (picture : GrayPicture) : Prop :=
  ∀ shade ∈ picture.samples, IsBlackOrWhite shade

instance (picture : GrayPicture) : Decidable picture.IsBlackAndWhite :=
  decidable_of_iff (picture.samples.toList.all fun shade => decide (IsBlackOrWhite shade))
    (by simp only [IsBlackAndWhite, List.all_eq_true, decide_eq_true_eq, Array.mem_toList_iff])

variable {picture : GrayPicture}

theorem IsBlackAndWhite.shade (extreme : picture.IsBlackAndWhite) (x y : Nat) :
    IsBlackOrWhite (picture.shade x y) := by
  unfold GrayPicture.shade
  cases found : picture.samples[y * picture.width + x]? with
  | none => exact .inr rfl
  | some shade => exact extreme shade (Array.mem_of_getElem? found)

theorem isClear_diffuseTo (extreme : picture.IsBlackAndWhite) {x : Nat} (inside : x ≤ picture.width)
    (y : Nat) : (picture.diffuseTo x y).IsClear :=
  picture.diffuseTo_induction (motive := fun _ _ state => state.IsClear) Diffusion.IsClear.start
    (fun x y clear => clear.visit x (extreme.shade x y)) (fun _ clear => clear.nextRow) inside y

theorem isBlackLevel_levelAt (extreme : picture.IsBlackAndWhite) (x : Fin picture.width) (y : Nat) :
    isBlackLevel (picture.levelAt x y) = (picture.shade x y == 0) := by
  have clear := isClear_diffuseTo extreme (Nat.le_of_lt x.isLt) y
  rw [levelAt, clear.level_eq, isBlackLevel_of_isBlackOrWhite (extreme.shade x y)]

theorem shade_ofFn {width height x y : Nat} (shade : Nat → Nat → UInt8) (inside : x < width)
    (above : y < height) : (ofFn width height shade).shade x y = shade x y := by
  have inSamples : y * width + x < width * height := by
    rw [Nat.mul_comm width]
    exact place_lt inside above
  simp [GrayPicture.shade, ofFn, inSamples, place_mod inside, place_div inside]

end GrayPicture

/-! ### What comes of a reduction -/

theorem threshold_eq (picture : GrayPicture) :
    threshold picture = .ofFn picture.width picture.height fun x y =>
      (picture.shade x y).toNat < blackBelow :=
  rfl

theorem errorDiffusion_eq (picture : GrayPicture) :
    errorDiffusion picture = .ofFn picture.width picture.height fun x y =>
      (picture.diffuse picture.height).dots[y * picture.width + x]?.getD false :=
  rfl

theorem Dithering.exists_ofFn (dithering : Dithering) (picture : GrayPicture) :
    ∃ isBlack, dithering.reduce picture = .ofFn picture.width picture.height isBlack := by
  cases dithering with
  | none =>
    unfold reduce
    exact ⟨_, threshold_eq picture⟩
  | floydSteinberg =>
    unfold reduce
    exact ⟨_, errorDiffusion_eq picture⟩

/-- Black dots as the darkest shade and white dots as the lightest. -/
def Bitmap.expand (bitmap : Bitmap) : GrayPicture :=
  .ofFn bitmap.width bitmap.height fun x y => if bitmap.get x y then 0 else 255

theorem Bitmap.isBlackAndWhite_expand (bitmap : Bitmap) : bitmap.expand.IsBlackAndWhite := by
  intro shade member
  obtain ⟨index, _, rfl⟩ := Array.mem_iff_getElem.mp member
  simp only [expand, GrayPicture.ofFn, Array.getElem_ofFn]
  split
  · exact .inl rfl
  · exact .inr rfl

theorem errorDiffusion_eq_ofFn {picture : GrayPicture} (extreme : picture.IsBlackAndWhite) :
    errorDiffusion picture =
      .ofFn picture.width picture.height fun x y => picture.shade x y == 0 := by
  rw [errorDiffusion_eq]
  apply Bitmap.ofFn_congr
  intro x y inside above
  obtain ⟨_, settled⟩ := picture.dots_diffuseTo (Nat.zero_le _) picture.height
  have dot := settled ⟨x, inside⟩ y (place_lt inside above)
  rw [picture.diffuseTo_height] at dot
  rw [dot, Option.getD_some, GrayPicture.isBlackLevel_levelAt extreme]

theorem threshold_eq_ofFn {picture : GrayPicture} (extreme : picture.IsBlackAndWhite) :
    threshold picture = .ofFn picture.width picture.height fun x y => picture.shade x y == 0 := by
  rw [threshold_eq]
  apply Bitmap.ofFn_congr
  intro x y _ _
  rcases extreme.shade x y with black | white
  · rw [black]
    decide
  · rw [white]
    decide

theorem Dithering.reduce_eq_ofFn {picture : GrayPicture} (extreme : picture.IsBlackAndWhite)
    (dithering : Dithering) : dithering.reduce picture =
      .ofFn picture.width picture.height fun x y => picture.shade x y == 0 := by
  cases dithering with
  | none => exact threshold_eq_ofFn extreme
  | floydSteinberg => exact errorDiffusion_eq_ofFn extreme

/-- A bitmap that a function describes is reduced to itself. -/
theorem Dithering.reduce_expand_ofFn (dithering : Dithering) (width height : Nat)
    (isBlack : Nat → Nat → Bool) :
    dithering.reduce (Bitmap.ofFn width height isBlack).expand = .ofFn width height isBlack := by
  rw [reduce_eq_ofFn (Bitmap.isBlackAndWhite_expand _)]
  apply Bitmap.ofFn_congr
  intro x y (inside : x < width) (above : y < height)
  have inRow : x < 8 * bytesPerRow width := by
    unfold bytesPerRow
    omega
  have dot : (Bitmap.ofFn width height isBlack).get x y = isBlack x y := by
    rw [Bitmap.get, Bitmap.get?_ofFn _ _ _ inRow above]
    simp [inside]
  have shade : (Bitmap.ofFn width height isBlack).expand.shade x y =
      if isBlack x y then 0 else 255 := by
    rw [← dot]
    exact GrayPicture.shade_ofFn _ inside above
  rw [shade]
  cases isBlack x y <;> rfl

theorem Dithering.reduce_expand_reduce (again dithering : Dithering) (picture : GrayPicture) :
    again.reduce (dithering.reduce picture).expand = dithering.reduce picture := by
  obtain ⟨isBlack, described⟩ := dithering.exists_ofFn picture
  rw [described]
  exact again.reduce_expand_ofFn _ _ _

/-- Error diffusion and the threshold give the same bitmap for a picture that is black and white
already: the dots that were black are black. So what comes of a reduction stays the same if it is
reduced again. -/
theorem errorDiffusion_keeps_blackAndWhite :
    (∀ picture : GrayPicture, picture.IsBlackAndWhite →
      errorDiffusion picture = threshold picture ∧
      ∀ x y, x < picture.width → y < picture.height →
        (errorDiffusion picture).get? x y = some (picture.shade x y == 0)) ∧
    ∀ (again dithering : Dithering) (picture : GrayPicture),
      again.reduce (dithering.reduce picture).expand = dithering.reduce picture := by
  refine ⟨?_, Dithering.reduce_expand_reduce⟩
  intro picture extreme
  constructor
  · rw [errorDiffusion_eq_ofFn extreme, threshold_eq_ofFn extreme]
  · intro x y inside above
    rw [get?_errorDiffusion ⟨x, inside⟩ above, GrayPicture.isBlackLevel_levelAt extreme]

/-- Nine dots wide, so that a row does not end with a byte. -/
def checkerboard : GrayPicture :=
  .ofFn 9 4 fun x y => if (x + y) % 2 = 0 then 0 else 255

theorem checkerboard_kept :
    checkerboard.IsBlackAndWhite ∧
    errorDiffusion checkerboard = threshold checkerboard ∧
    (∀ x y, x < 9 → y < 4 →
      (errorDiffusion checkerboard).get? x y = some (checkerboard.shade x y == 0)) ∧
    errorDiffusion (errorDiffusion checkerboard).expand = errorDiffusion checkerboard := by
  have extreme : checkerboard.IsBlackAndWhite := by decide
  obtain ⟨kept, again⟩ := errorDiffusion_keeps_blackAndWhite
  obtain ⟨same, dots⟩ := kept checkerboard extreme
  exact ⟨extreme, same, dots, again .floydSteinberg .floydSteinberg checkerboard⟩

end ThermalPrint
