import Mathlib.Data.List.Basic
import ThermalPrint.Proofs.Picture.Width
import ThermalPrint.Proofs.Printer.BandStream

/-!
# Pictures are shrunk to the paper

A picture that is wider than the paper gets the width of the paper and keeps its proportions, but
for a part of a dot. No picture becomes greater. The sizes fit the registers they are reckoned in,
and the width fits the headers of the bands.
-/

namespace ThermalPrint

namespace GrayPicture

theorem size_fit (picture : GrayPicture) (paperWidth : Nat) :
    ((picture.fit paperWidth).width, (picture.fit paperWidth).height) =
      fittedSize picture.width picture.height paperWidth := by
  by_cases wide : max paperWidth 1 < picture.width
  · simp [fit, fittedSize, wide, scale, ofFn]
  · simp [fit, fittedSize, wide]

theorem fittedSize_of_le {width height paperWidth : Nat} (narrow : width ≤ max paperWidth 1) :
    fittedSize width height paperWidth = (width, height) :=
  if_neg (Nat.not_lt.mpr narrow)

theorem fittedSize_of_lt {width height paperWidth : Nat} (wide : max paperWidth 1 < width) :
    fittedSize width height paperWidth =
      (max paperWidth 1, max (height * max paperWidth 1 / width) 1) :=
  if_pos wide

/-- A height that is scaled down is no more than it was. -/
theorem scaledHeight_le {width paperWidth : Nat} (wide : paperWidth < width) (height : Nat) :
    height * paperWidth / width ≤ height :=
  Nat.div_le_of_le_mul (by rw [Nat.mul_comm]; exact Nat.mul_le_mul_right height (Nat.le_of_lt wide))

theorem fittedSize_bounds {width height : Nat} (wide : 1 ≤ width) (high : 1 ≤ height)
    (paperWidth : Nat) :
    (1 ≤ (fittedSize width height paperWidth).1 ∧ (fittedSize width height paperWidth).1 ≤ width) ∧
    (1 ≤ (fittedSize width height paperWidth).2 ∧ (fittedSize width height paperWidth).2 ≤ height) ∧
    (fittedSize width height paperWidth).1 ≤ max paperWidth 1 := by
  by_cases narrow : width ≤ max paperWidth 1
  · rw [fittedSize_of_le narrow]
    exact ⟨⟨wide, Nat.le_refl _⟩, ⟨high, Nat.le_refl _⟩, narrow⟩
  · have wider : max paperWidth 1 < width := Nat.not_le.mp narrow
    rw [fittedSize_of_lt wider]
    refine ⟨⟨Nat.le_max_right _ _, Nat.le_of_lt wider⟩, ⟨Nat.le_max_right _ _, ?_⟩, Nat.le_refl _⟩
    exact Nat.max_le.mpr ⟨scaledHeight_le wider height, high⟩

/-! ### Registers -/

/-- The greatest width of the paper in dots. -/
theorem toNat_paperWidth (paperWidth : UInt16) :
    (max paperWidth 1).toUInt32.toNat = max paperWidth.toNat 1 := by
  rw [UInt16.toNat_toUInt32, UInt16.toNat_max]
  rfl

/-- The product of a height and the width of the paper has at most 48 bits. -/
theorem toNat_product (height : UInt32) (paperWidth : UInt16) :
    (height.toUInt64 * (max paperWidth 1).toUInt32.toUInt64).toNat =
      height.toNat * max paperWidth.toNat 1 := by
  have shortHeight : height.toNat ≤ 2 ^ 32 := Nat.le_of_lt height.toNat_lt
  have shortWidth : max paperWidth.toNat 1 ≤ 2 ^ 16 :=
    Nat.max_le.mpr ⟨Nat.le_of_lt paperWidth.toNat_lt, by decide⟩
  have short : height.toNat * max paperWidth.toNat 1 ≤ 2 ^ 32 * 2 ^ 16 :=
    Nat.mul_le_mul shortHeight shortWidth
  rw [UInt64.toNat_mul, UInt32.toNat_toUInt64, UInt32.toNat_toUInt64, toNat_paperWidth,
    Nat.mod_eq_of_lt (by omega)]

theorem fittedWords_eq (width height : UInt32) (paperWidth : UInt16) :
    ((fittedWords width height paperWidth).1.toNat, (fittedWords width height paperWidth).2.toNat) =
      fittedSize width.toNat height.toNat paperWidth.toNat := by
  have comparison : (max paperWidth 1).toUInt32 < width ↔ max paperWidth.toNat 1 < width.toNat := by
    rw [UInt32.lt_iff_toNat_lt, toNat_paperWidth]
  by_cases wide : max paperWidth.toNat 1 < width.toNat
  · have notGreater := scaledHeight_le wide height.toNat
    have bounded := height.toNat_lt
    rw [fittedWords, if_pos (comparison.mpr wide), fittedSize_of_lt wide, toNat_paperWidth,
      UInt64.toNat_toUInt32, UInt64.toNat_max, UInt64.toNat_div, toNat_product,
      UInt32.toNat_toUInt64]
    congr 1
    exact Nat.mod_eq_of_lt (Nat.max_lt.mpr ⟨by omega, by decide⟩)
  · rw [fittedWords, if_neg (mt comparison.mp wide), fittedSize_of_le (Nat.not_lt.mp wide)]

end GrayPicture

namespace Artwork

variable {picture : Picture} {dithering : Dithering} {paperWidth : UInt16}

theorem size_ofPicture (picture : Picture) (dithering : Dithering) (paperWidth : UInt16) :
    ((ofPicture picture dithering paperWidth).gray.width,
      (ofPicture picture dithering paperWidth).gray.height) =
      GrayPicture.fittedSize picture.width picture.height paperWidth.toNat :=
  picture.flatten.size_fit paperWidth.toNat

theorem width_bitmap (artwork : Artwork) : artwork.bitmap.width = artwork.gray.width :=
  artwork.dithering.width_reduce artwork.gray

theorem width_ofPicture_lt (picture : Picture) (dithering : Dithering) (paperWidth : UInt16) :
    (ofPicture picture dithering paperWidth).gray.width < 65536 := by
  have onPaper := picture.flatten.width_fit_le paperWidth.toNat
  have bounded := paperWidth.toNat_lt
  exact Nat.lt_of_le_of_lt onPaper (by omega)

/-- The bands announce the width of the picture in both modes. -/
theorem bands_announce_width {artwork : Artwork} (narrow : artwork.gray.width < 65536) :
    (∃ bands, RowBand.readAll? (artwork.send .raster) = some bands ∧
      ∀ band ∈ bands, band.widthBytes = bytesPerRow artwork.gray.width) ∧
    ∃ bands, ColumnBand.readAll? (artwork.send .columns) = some bands ∧
      ∀ band ∈ bands, band.width = artwork.gray.width := by
  rw [← artwork.width_bitmap] at narrow ⊢
  constructor
  · refine ⟨_, RowBand.readAll?_send (Bitmap.fits_of_narrow narrow .raster), ?_⟩
    intro band member
    obtain ⟨place, _, rfl⟩ := List.mem_map.mp member
    rfl
  · refine ⟨_, ColumnBand.readAll?_send (Bitmap.fits_of_narrow narrow .columns), ?_⟩
    intro band member
    obtain ⟨place, _, rfl⟩ := List.mem_map.mp member
    rfl

end Artwork

/-- A picture that is no wider than the paper keeps its size. Any other one gets the width of the
paper and a height in proportion, cut to whole dots but at least one. No picture grows or vanishes,
and the width goes through the registers of the headers as it is. The sizes are reckoned in 32 and
64 bits without an overflow. -/
theorem picture_fits_paper (picture : Picture) (dithering : Dithering) (paperWidth : UInt16)
    (wide : 1 ≤ picture.width) (high : 1 ≤ picture.height) :
    let most := max paperWidth.toNat 1
    let artwork := Artwork.ofPicture picture dithering paperWidth
    ((picture.width ≤ most →
        artwork.gray.width = picture.width ∧ artwork.gray.height = picture.height) ∧
      (most < picture.width → artwork.gray.width = most ∧
        artwork.gray.height = max 1 (picture.height * most / picture.width)) ∧
      (1 ≤ artwork.gray.width ∧ artwork.gray.width ≤ picture.width) ∧
      (1 ≤ artwork.gray.height ∧ artwork.gray.height ≤ picture.height)) ∧
    (artwork.gray.width ≤ 65535 ∧
      (UInt16.ofNat artwork.bitmap.widthBytes).toNat = bytesPerRow artwork.gray.width ∧
      (∃ low high : UInt8, Bytes.ofLength artwork.bitmap.width = [low, high] ∧
        low.toNat + 256 * high.toNat = artwork.gray.width) ∧
      (∃ bands, RowBand.readAll? (artwork.send .raster) = some bands ∧
        ∀ band ∈ bands, band.widthBytes = bytesPerRow artwork.gray.width) ∧
      ∃ bands, ColumnBand.readAll? (artwork.send .columns) = some bands ∧
        ∀ band ∈ bands, band.width = artwork.gray.width) ∧
    ∀ width height : UInt32, width.toNat = picture.width → height.toNat = picture.height →
      (height.toUInt64 * (max paperWidth 1).toUInt32.toUInt64).toNat = picture.height * most ∧
      (GrayPicture.fittedWords width height paperWidth).1.toNat = artwork.gray.width ∧
      (GrayPicture.fittedWords width height paperWidth).2.toNat = artwork.gray.height := by
  intro most artwork
  have size := Artwork.size_ofPicture picture dithering paperWidth
  have bounds := GrayPicture.fittedSize_bounds wide high paperWidth.toNat
  have narrow : artwork.gray.width < 65536 :=
    Artwork.width_ofPicture_lt picture dithering paperWidth
  obtain ⟨rows, columns⟩ := Artwork.bands_announce_width narrow
  rw [← size] at bounds
  refine ⟨⟨?_, ?_, bounds.1, bounds.2.1⟩,
    ⟨Nat.le_of_lt_succ narrow, ?_, ⟨_, _, rfl, ?_⟩, rows, columns⟩, ?_⟩
  · intro onPaper
    rw [GrayPicture.fittedSize_of_le onPaper] at size
    exact ⟨congrArg Prod.fst size, congrArg Prod.snd size⟩
  · intro tooWide
    rw [GrayPicture.fittedSize_of_lt tooWide] at size
    exact ⟨congrArg Prod.fst size, (congrArg Prod.snd size).trans (Nat.max_comm _ _)⟩
  · rw [← artwork.width_bitmap] at narrow ⊢
    exact UInt16.toNat_ofNat_of_lt' (Bitmap.widthBytes_lt narrow)
  · rw [← artwork.width_bitmap] at narrow ⊢
    exact Bytes.toNat_ofLength narrow
  · intro width height sameWidth sameHeight
    have words := GrayPicture.fittedWords_eq width height paperWidth
    rw [sameWidth, sameHeight, ← size] at words
    rw [GrayPicture.toNat_product, sameHeight]
    exact ⟨rfl, congrArg Prod.fst words, congrArg Prod.snd words⟩

/-- A picture of 3000 by 2 dots, which keeps one row on narrow paper. -/
def longBar : Picture :=
  ⟨3000, 2, ⟨false, false, false⟩, .replicate 6000 0⟩

theorem longBar_fits_paper :
    let artwork := Artwork.ofPicture longBar .floydSteinberg 384
    artwork.gray.width = 384 ∧ artwork.gray.height = 1 ∧
      (UInt16.ofNat artwork.bitmap.widthBytes).toNat = 48 ∧
      (GrayPicture.fittedWords 3000 2 384).2.toNat = 1 := by
  intro artwork
  obtain ⟨⟨_, tooWide, _⟩, ⟨_, widthBytes, _⟩, words⟩ :=
    picture_fits_paper longBar .floydSteinberg 384 (by decide) (by decide)
  obtain ⟨width, height⟩ := tooWide (by decide)
  obtain ⟨_, _, wordHeight⟩ := words 3000 2 rfl rfl
  refine ⟨width, height, ?_, wordHeight.trans height⟩
  rw [widthBytes, width]
  rfl

end ThermalPrint
