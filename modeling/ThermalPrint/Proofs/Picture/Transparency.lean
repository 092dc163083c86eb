import ThermalPrint.Picture.Artwork
import ThermalPrint.Proofs.Picture.Dots

/-!
# Transparency leaves no trace

A picture is laid over white before it is shrunk and reduced to black and white. At full
transparency a dot is white whatever its color is, and nothing of the color is left by rounding. So
all that comes of a picture depends on what is seen of it: on its opacity, and on its brightness
wherever it is not hidden.
-/

namespace ThermalPrint

theorem overWhite_zero (luma : Nat) : overWhite luma 0 = 255 := by
  simp [overWhite]

theorem GrayPicture.ofFn_congr {width height : Nat} {shade other : Nat → Nat → UInt8}
    (same : ∀ x y, x < width → y < height → shade x y = other x y) :
    ofFn width height shade = ofFn width height other := by
  have sameSample (index : Fin (width * height)) :
      shade (index % width) (index / width) = other (index % width) (index / width) := by
    have wide : 0 < width := Nat.pos_of_mul_pos_right (Nat.zero_lt_of_lt index.isLt)
    apply same
    · exact Nat.mod_lt _ wide
    · exact Nat.div_lt_of_lt_mul index.isLt
  simp only [ofFn, sameSample]

namespace PixelFormat

variable (format : PixelFormat)

/-- The sample of full opacity. -/
def greatest : Nat :=
  if format.isWide then 65535 else 255

theorem narrow_greatest : format.narrow format.greatest = 255 := by
  unfold narrow greatest
  split <;> rfl

end PixelFormat

namespace Picture

variable {picture other : Picture}

/-- Two pictures of one size have the same opacity, and the same brightness wherever they are not
fully transparent. -/
structure LooksLike (picture other : Picture) : Prop where
  width : other.width = picture.width
  height : other.height = picture.height
  alpha : ∀ x < picture.width, ∀ y < picture.height, other.alpha x y = picture.alpha x y
  brightness : ∀ x < picture.width, ∀ y < picture.height, picture.alpha x y ≠ 0 →
    other.format.narrow (other.luma x y) = picture.format.narrow (picture.luma x y)

theorem LooksLike.flatten_eq (alike : picture.LooksLike other) :
    other.flatten = picture.flatten := by
  unfold flatten
  rw [alike.width, alike.height]
  apply GrayPicture.ofFn_congr
  intro x y inside above
  rw [alike.alpha x inside y above]
  by_cases hidden : picture.alpha x y = 0
  · rw [hidden, overWhite_zero, overWhite_zero]
  · rw [alike.brightness x inside y above hidden]

theorem luma_congr (sameFormat : other.format.hasColor = picture.format.hasColor) {x y : Nat}
    (same : ∀ channel < picture.format.colors,
      other.sample x y channel = picture.sample x y channel) :
    other.luma x y = picture.luma x y := by
  unfold luma
  rw [sameFormat]
  unfold PixelFormat.colors at same
  split
  · rename_i colored
    rw [if_pos colored] at same
    rw [same 0 (by decide), same 1 (by decide), same 2 (by decide)]
  · rename_i gray
    rw [if_neg gray] at same
    exact same 0 (by decide)

/-! ### Hidden colors -/

/-- Two pictures of one format and size that differ at most in the colors of pixels that are fully
transparent. -/
structure DiffersWhereHidden (picture other : Picture) : Prop where
  width : other.width = picture.width
  height : other.height = picture.height
  format : other.format = picture.format
  alpha : ∀ x < picture.width, ∀ y < picture.height, other.alpha x y = picture.alpha x y
  colors : ∀ x < picture.width, ∀ y < picture.height, picture.alpha x y ≠ 0 →
    ∀ channel < picture.format.colors, other.sample x y channel = picture.sample x y channel

theorem DiffersWhereHidden.looksLike (differs : picture.DiffersWhereHidden other) :
    picture.LooksLike other where
  width := differs.width
  height := differs.height
  alpha := differs.alpha
  brightness := by
    intro x inside y above visible
    have sameColors := differs.colors x inside y above visible
    rw [luma_congr (congrArg PixelFormat.hasColor differs.format) sameColors, differs.format]

/-! ### Full opacity -/

/-- The same colors, with a last sample of full opacity for each pixel. -/
def withFullOpacity (picture : Picture) : Picture where
  width := picture.width
  height := picture.height
  format := { picture.format with hasAlpha := true }
  samples := .ofFn fun index :
      Fin (picture.height * picture.width * (picture.format.colors + 1)) =>
    let pixel := index.val / (picture.format.colors + 1)
    let channel := index.val % (picture.format.colors + 1)
    if channel < picture.format.colors then
      picture.sample (pixel % picture.width) (pixel / picture.width) channel
    else picture.format.greatest

theorem sample_withFullOpacity (picture : Picture) {x y channel : Nat} (inside : x < picture.width)
    (above : y < picture.height) (bounded : channel < picture.format.colors + 1) :
    picture.withFullOpacity.sample x y channel =
      if channel < picture.format.colors then picture.sample x y channel
      else picture.format.greatest := by
  have inSamples := place_lt bounded (place_lt inside above)
  have index : (y * picture.withFullOpacity.width + x) * picture.withFullOpacity.format.channels +
      channel = (y * picture.width + x) * (picture.format.colors + 1) + channel := rfl
  rw [sample, index]
  simp only [withFullOpacity, Array.getElem?_ofFn, inSamples, dif_pos, Option.getD_some,
    place_mod bounded, place_div bounded, place_mod inside, place_div inside]

theorem looksLike_withFullOpacity (solid : picture.format.hasAlpha = false) :
    picture.LooksLike picture.withFullOpacity where
  width := rfl
  height := rfl
  alpha := by
    intro x inside y above
    have opacity : picture.withFullOpacity.sample x y picture.format.colors =
        picture.format.greatest := by
      rw [picture.sample_withFullOpacity inside above (Nat.lt_succ_self _),
        if_neg (Nat.lt_irrefl _)]
    calc picture.withFullOpacity.alpha x y
        = picture.format.narrow (picture.withFullOpacity.sample x y picture.format.colors) := rfl
      _ = 255 := by rw [opacity, picture.format.narrow_greatest]
      _ = picture.alpha x y := by rw [alpha, solid]; rfl
  brightness := by
    intro x inside y above _
    have sameColors : ∀ channel < picture.format.colors,
        picture.withFullOpacity.sample x y channel = picture.sample x y channel := by
      intro channel isColor
      rw [picture.sample_withFullOpacity inside above (Nat.lt_succ_of_lt isColor), if_pos isColor]
    have sameKind : picture.withFullOpacity.format.hasColor = picture.format.hasColor := rfl
    rw [luma_congr sameKind sameColors]
    rfl

end Picture

theorem Picture.LooksLike.ofPicture_eq {picture other : Picture} (alike : picture.LooksLike other)
    (dithering : Dithering) (paperWidth : UInt16) :
    Artwork.ofPicture other dithering paperWidth = .ofPicture picture dithering paperWidth ∧
      ∀ mode, (Artwork.ofPicture other dithering paperWidth).send mode =
        (Artwork.ofPicture picture dithering paperWidth).send mode := by
  have same : Artwork.ofPicture other dithering paperWidth =
      .ofPicture picture dithering paperWidth := by
    rw [Artwork.ofPicture, alike.flatten_eq, Artwork.ofPicture]
  exact ⟨same, fun mode => congrArg (·.send mode) same⟩

/-- The colors of fully transparent pixels do not show, and neither does full opacity: pictures that
differ in nothing else give the same artwork for paper of any width, and the same bytes in either
mode. -/
theorem transparency_leaves_no_trace (dithering : Dithering) (paperWidth : UInt16) :
    (∀ picture other : Picture, picture.DiffersWhereHidden other →
      Artwork.ofPicture other dithering paperWidth = .ofPicture picture dithering paperWidth ∧
      ∀ mode, (Artwork.ofPicture other dithering paperWidth).send mode =
        (Artwork.ofPicture picture dithering paperWidth).send mode) ∧
    ∀ picture : Picture, picture.format.hasAlpha = false →
      Artwork.ofPicture picture.withFullOpacity dithering paperWidth =
        .ofPicture picture dithering paperWidth ∧
      ∀ mode, (Artwork.ofPicture picture.withFullOpacity dithering paperWidth).send mode =
        (Artwork.ofPicture picture dithering paperWidth).send mode := by
  constructor
  · intro picture other differs
    exact differs.looksLike.ofPicture_eq dithering paperWidth
  · intro picture solid
    exact (Picture.looksLike_withFullOpacity solid).ofPicture_eq dithering paperWidth

/-- A red logo that is half transparent at its right edge. What lies under the transparent pixel in
the middle is black in one picture and green in the other. -/
theorem hidden_green_leaves_no_trace :
    let black : Picture :=
      ⟨3, 1, ⟨true, true, false⟩, #[255, 0, 0, 255, 0, 0, 0, 0, 255, 0, 0, 128]⟩
    let green : Picture :=
      ⟨3, 1, ⟨true, true, false⟩, #[255, 0, 0, 255, 0, 255, 0, 0, 255, 0, 0, 128]⟩
    let solid : Picture := ⟨3, 1, ⟨true, false, false⟩, #[255, 0, 0, 0, 255, 0, 0, 0, 255]⟩
    black.samples ≠ green.samples ∧ black.DiffersWhereHidden green ∧
      (Artwork.ofPicture green .floydSteinberg 2).send .columns =
        (Artwork.ofPicture black .floydSteinberg 2).send .columns ∧
      solid.withFullOpacity.samples = #[255, 0, 0, 255, 0, 255, 0, 255, 0, 0, 255, 255] ∧
      (Artwork.ofPicture solid.withFullOpacity .none 2).send .raster =
        (Artwork.ofPicture solid .none 2).send .raster := by
  intro black green solid
  have differs : black.DiffersWhereHidden green :=
    ⟨rfl, rfl, rfl, by decide, by decide⟩
  refine ⟨by decide, differs, ?_, by decide, ?_⟩
  · exact ((transparency_leaves_no_trace .floydSteinberg 2).1 black green differs).2 .columns
  · exact ((transparency_leaves_no_trace .none 2).2 solid rfl).2 .raster

end ThermalPrint
