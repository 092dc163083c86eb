import ThermalPrint.Picture.Artwork
import ThermalPrint.Proofs.Picture.Dots
import ThermalPrint.Qr.Drawing

/-!
# Bitmaps fit the paper

The bitmap of a picture or of a drawn QR code is no wider than the paper, and the dots that fill up
the last byte of a row are white.
-/

namespace ThermalPrint

namespace Bitmap

/-- The dots of the last byte of a row that are outside the width are white. -/
def IsPadded (bitmap : Bitmap) : Prop :=
  ∀ x y, bitmap.width ≤ x → x < 8 * bitmap.widthBytes → y < bitmap.height →
    bitmap.get x y = false

theorem isPadded_ofFn (width height : Nat) (isBlack : Nat → Nat → Bool) :
    (ofFn width height isBlack).IsPadded := by
  intro x y outside inRow above
  have notInside : ¬x < width := Nat.not_lt.mpr outside
  simp [get, get?_ofFn width height isBlack inRow above, notInside]

end Bitmap

theorem Dithering.isPadded_reduce (dithering : Dithering) (picture : GrayPicture) :
    (dithering.reduce picture).IsPadded := by
  cases dithering with
  | none =>
    unfold reduce threshold
    apply Bitmap.isPadded_ofFn
  | floydSteinberg =>
    unfold reduce errorDiffusion
    apply Bitmap.isPadded_ofFn

theorem Dithering.width_reduce (dithering : Dithering) (picture : GrayPicture) :
    (dithering.reduce picture).width = picture.width := by
  cases dithering <;> rfl

theorem GrayPicture.width_fit_le (picture : GrayPicture) (paperWidth : Nat) :
    (picture.fit paperWidth).width ≤ max paperWidth 1 := by
  by_cases wide : max paperWidth 1 < picture.width
  · simp [fit, fittedSize, wide, scale, ofFn]
  · simp only [fit, fittedSize, if_neg wide, Nat.lt_irrefl, if_false]
    exact Nat.not_lt.mp wide

namespace Artwork

variable {data : String} {dithering : Dithering} {paperWidth : UInt16} {artwork : Artwork}

theorem exists_picture_of_ofText (success : ofText data dithering paperWidth = .ok artwork) :
    ∃ picture, artwork = ofPicture picture dithering paperWidth := by
  unfold ofText at success
  simp only at success
  split at success
  · cases success
  · split at success
    · cases success
      exact ⟨_, rfl⟩
    · cases success
    · cases success

theorem isPadded_bitmap (artwork : Artwork) : artwork.bitmap.IsPadded :=
  artwork.dithering.isPadded_reduce artwork.gray

theorem width_bitmap_le (success : ofText data dithering paperWidth = .ok artwork) :
    artwork.bitmap.width ≤ max paperWidth.toNat 1 := by
  obtain ⟨picture, rfl⟩ := exists_picture_of_ofText success
  rw [bitmap, Dithering.width_reduce]
  exact picture.flatten.width_fit_le paperWidth.toNat

end Artwork

namespace Qr

variable {content : String} {wantedSize paperWidth : Nat} {bitmap : Bitmap}

theorem moduleSize_mul_le (symbolSide wanted paperWidth : Nat) :
    (symbolSide + 2 * quietZone) * moduleSize symbolSide wanted paperWidth ≤ paperWidth :=
  calc (symbolSide + 2 * quietZone) * moduleSize symbolSide wanted paperWidth
      ≤ (symbolSide + 2 * quietZone) * (paperWidth / (symbolSide + 2 * quietZone)) :=
        Nat.mul_le_mul_left _ (Nat.min_le_right _ _)
    _ ≤ paperWidth := Nat.mul_div_le _ _

theorem exists_symbol_of_bitmap? (drawn : bitmap? content wantedSize paperWidth = some bitmap) :
    ∃ symbol : Symbol,
      bitmap = symbol.magnify (moduleSize symbol.side wantedSize paperWidth) := by
  unfold bitmap? at drawn
  obtain ⟨symbol, _, drawn⟩ := Option.bind_eq_some_iff.mp drawn
  simp only at drawn
  split at drawn
  · contradiction
  · cases drawn
    exact ⟨symbol, rfl⟩

theorem width_le_of_bitmap? (drawn : bitmap? content wantedSize paperWidth = some bitmap) :
    bitmap.width ≤ paperWidth := by
  obtain ⟨symbol, rfl⟩ := exists_symbol_of_bitmap? drawn
  exact moduleSize_mul_le symbol.side wantedSize paperWidth

theorem isPadded_of_bitmap? (drawn : bitmap? content wantedSize paperWidth = some bitmap) :
    bitmap.IsPadded := by
  obtain ⟨symbol, rfl⟩ := exists_symbol_of_bitmap? drawn
  unfold Symbol.magnify
  apply Bitmap.isPadded_ofFn

end Qr

end ThermalPrint
