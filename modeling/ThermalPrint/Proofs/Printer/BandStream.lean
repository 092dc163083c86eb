import ThermalPrint.Printer.BandStream
import ThermalPrint.Proofs.Printer.Paper

/-!
# Bands are read back

What a bitmap is sent as holds nothing but its bands, and the bands hold nothing but its dots. Read
one after the other, bands of rows give the packed rows of the bitmap, from the first to the last.
Bands of columns give its dots, with white ones below the last row.
-/

namespace ThermalPrint

variable {bitmap : Bitmap}

namespace RowBand

/-- The rows of a bitmap from some row on, as many as a band takes. -/
def ofBitmap (bitmap : Bitmap) (top : Nat) : RowBand where
  widthBytes := bitmap.widthBytes
  height := bitmap.bandRows top
  data := (List.range (bitmap.bandRows top)).flatMap fun row => bitmap.row (top + row)

theorem length_data_ofBitmap (bitmap : Bitmap) (top : Nat) :
    (ofBitmap bitmap top).data.length =
      (ofBitmap bitmap top).widthBytes * (ofBitmap bitmap top).height := by
  simp only [ofBitmap]
  rw [length_flatMap_range bitmap.length_row_of_lt_bandRows, Nat.mul_comm]

theorem height_ofBitmap_pos {band : Nat}
    (inside : band < bandCount bitmap.height rasterBandHeight) :
    0 < (ofBitmap bitmap (band * rasterBandHeight)).height := by
  have above : band * rasterBandHeight < bitmap.height :=
    Bitmap.lt_height_of_lt_bandCount (by decide) inside
  simp only [ofBitmap, Bitmap.bandRows, rasterBandHeight] at above ⊢
  omega

theorem height_ofBitmap_of_more {band : Nat}
    (more : band + 1 < bandCount bitmap.height rasterBandHeight) :
    (ofBitmap bitmap (band * rasterBandHeight)).height = rasterBandHeight := by
  have next : (band + 1) * rasterBandHeight < bitmap.height :=
    Bitmap.lt_height_of_lt_bandCount (by decide) more
  simp only [ofBitmap, Bitmap.bandRows, rasterBandHeight] at next ⊢
  omega

/-- After some bands the data is that of the rows above the next one. -/
theorem flatMap_data_range (bands : Nat)
    (inside : bands ≤ bandCount bitmap.height rasterBandHeight) :
    ((List.range bands).flatMap fun band => (ofBitmap bitmap (band * rasterBandHeight)).data) =
      (List.range (min (bands * rasterBandHeight) bitmap.height)).flatMap bitmap.row := by
  induction bands with
  | zero => simp
  | succ bands inductionHypothesis =>
    have above : bands * rasterBandHeight < bitmap.height :=
      Bitmap.lt_height_of_lt_bandCount (by decide) inside
    have earlier : min (bands * rasterBandHeight) bitmap.height = bands * rasterBandHeight := by
      omega
    have rows : min ((bands + 1) * rasterBandHeight) bitmap.height =
        bands * rasterBandHeight + bitmap.bandRows (bands * rasterBandHeight) := by
      rw [Nat.add_one_mul, Bitmap.bandRows]
      omega
    rw [List.range_succ, List.flatMap_append, inductionHypothesis (by omega), earlier, rows,
      List.range_add, List.flatMap_append, List.flatMap_map, List.flatMap_singleton]
    rfl

theorem flatMap_data_all (bitmap : Bitmap) :
    ((List.range (bandCount bitmap.height rasterBandHeight)).flatMap fun band =>
      (ofBitmap bitmap (band * rasterBandHeight)).data) = bitmap.data.toList := by
  have all : bitmap.height ≤ bandCount bitmap.height rasterBandHeight * rasterBandHeight :=
    Bitmap.height_le_bandCount_mul (by decide)
  rw [flatMap_data_range _ (Nat.le_refl _), Nat.min_eq_right all, Bitmap.flatMap_row]

theorem ofToken?_rasterToken (fits : bitmap.Fits .raster) (top : Nat) :
    ofToken? (bitmap.rasterToken top) = some (ofBitmap bitmap top) := by
  have plain : (bitmap.rasterParameters top).take 2 = plainScale := rfl
  simp only [Bitmap.rasterToken, ofToken?, Paper.isRows_raster, plain, and_self, if_true,
    Bitmap.lengthAt_width_raster fits, Bitmap.lengthAt_rows_raster]
  rfl

theorem readAll?_send (fits : bitmap.Fits .raster) :
    readAll? (bitmap.send .raster) =
      some ((List.range (bandCount bitmap.height rasterBandHeight)).map fun band =>
        ofBitmap bitmap (band * rasterBandHeight)) := by
  rw [readAll?, Bitmap.readAll?_send fits, Option.bind_some, Bitmap.tokens, List.mapM_map]
  simp only [Function.comp_def, ofToken?_rasterToken fits]
  exact List.mapM_pure

end RowBand

/-- A bitmap whose rows have less than 65536 bytes is sent as nothing but bands of rows. All of them
have its width, all but the last one are full, and their data, one after the other, is that of the
bitmap. -/
theorem raster_read_back (narrow : bitmap.widthBytes < 65536) :
    ∃ bands, RowBand.readAll? (bitmap.send .raster) = some bands ∧
      bands.length = (bitmap.height + 255) / 256 ∧
      (∀ band ∈ bands, band.widthBytes = bitmap.widthBytes ∧
        band.data.length = band.widthBytes * band.height ∧
        1 ≤ band.height ∧ band.height ≤ 256) ∧
      (∀ band ∈ bands.dropLast, band.height = 256) ∧
      bands.flatMap RowBand.data = bitmap.data.toList := by
  refine ⟨_, RowBand.readAll?_send narrow, ?_, ?_, ?_, ?_⟩
  · rw [List.length_map, List.length_range]
    rfl
  · intro band member
    obtain ⟨place, inside, rfl⟩ := List.mem_map.mp member
    rw [List.mem_range] at inside
    exact ⟨rfl, RowBand.length_data_ofBitmap bitmap _, RowBand.height_ofBitmap_pos inside,
      bitmap.bandRows_le _⟩
  · intro band member
    rw [← List.map_dropLast, List.dropLast_eq_take, List.length_range, List.take_range] at member
    obtain ⟨place, inside, rfl⟩ := List.mem_map.mp member
    rw [List.mem_range] at inside
    exact RowBand.height_ofBitmap_of_more (by omega)
  · rw [List.flatMap_map]
    exact RowBand.flatMap_data_all bitmap

/-- A picture of slanted lines that is more than two bands of rows high. -/
def slantedLines : Bitmap :=
  .ofFn 300 600 fun x y => (x + y) % 3 = 0

theorem slantedLines_raster_read_back :
    slantedLines.widthBytes < 65536 ∧
    ∃ bands, RowBand.readAll? (slantedLines.send .raster) = some bands ∧
      bands.length = 3 ∧
      (∀ band ∈ bands, band.widthBytes = 38 ∧
        band.data.length = band.widthBytes * band.height ∧
        1 ≤ band.height ∧ band.height ≤ 256) ∧
      (∀ band ∈ bands.dropLast, band.height = 256) ∧
      bands.flatMap RowBand.data = slantedLines.data.toList :=
  ⟨by decide, raster_read_back (by decide)⟩

namespace ColumnBand

/-- The columns of a bitmap from some row on, as deep as a band is. -/
def ofBitmap (bitmap : Bitmap) (top : Nat) : ColumnBand where
  width := bitmap.width
  data := (List.range bitmap.width).flatMap fun x => bitmap.column x top

theorem length_data_ofBitmap (bitmap : Bitmap) (top : Nat) :
    (ofBitmap bitmap top).data.length = 3 * (ofBitmap bitmap top).width := by
  have uniform : ∀ x < bitmap.width, (bitmap.column x top).length = 3 := fun _ _ => rfl
  simp only [ofBitmap]
  rw [length_flatMap_range uniform, Nat.mul_comm]

theorem isBlack_ofBitmap (top : Nat) {x row : Nat} (inside : x < bitmap.width) (inBand : row < 24) :
    (ofBitmap bitmap top).isBlack x row =
      (decide (top + row < bitmap.height) && bitmap.get x (top + row)) := by
  have sameRow : top + row - top = row := Nat.add_sub_cancel_left top row
  have drawn := Paper.isBlackIn_columns (Nat.le_add_right top row)
    (by rw [sameRow]; exact inBand) inside
  rw [sameRow] at drawn
  exact drawn

theorem ofTokens?_columnsToken (fits : bitmap.Fits .columns) (top : Nat) (rest : List Token) :
    ofTokens? (bitmap.columnsToken top :: .character lineFeed :: rest) =
      (ofTokens? rest).map (ofBitmap bitmap top :: ·) := by
  have feed : lineFeed = 0x0A := rfl
  simp only [Bitmap.columnsToken, ofTokens?, Paper.isColumns_columns, feed, and_self, if_true,
    Bitmap.lengthAt_width_columns fits]
  rfl

theorem ofTokens?_columnsTokens (fits : bitmap.Fits .columns) (tops : List Nat) :
    ofTokens? ((tops.flatMap fun top => [bitmap.columnsToken top, .character lineFeed]) ++
      [Command.usualLineSpacing.token]) = some (tops.map (ofBitmap bitmap)) := by
  induction tops with
  | nil => rfl
  | cons top tops inductionHypothesis =>
    simp only [List.flatMap_cons, List.cons_append, List.nil_append,
      ofTokens?_columnsToken fits, inductionHypothesis]
    rfl

theorem readAll?_send (fits : bitmap.Fits .columns) :
    readAll? (bitmap.send .columns) =
      some ((List.range (bandCount bitmap.height columnBandHeight)).map fun band =>
        ofBitmap bitmap (band * columnBandHeight)) := by
  have bands := ofTokens?_columnsTokens fits
    ((List.range (bandCount bitmap.height columnBandHeight)).map (· * columnBandHeight))
  rw [List.flatMap_map, List.map_map] at bands
  rw [readAll?, Bitmap.readAll?_send fits]
  exact bands

end ColumnBand

/-- A bitmap of less than 65536 columns is sent as nothing but bands of columns, between the
commands for the space between lines. All of them have its width, and their dots are those of the
bitmap, with white ones below its last row. -/
theorem columns_read_back (narrow : bitmap.width < 65536) :
    ∃ bands, ColumnBand.readAll? (bitmap.send .columns) = some bands ∧
      bands.length = (bitmap.height + 23) / 24 ∧
      (∀ band ∈ bands, band.width = bitmap.width ∧ band.data.length = 3 * band.width) ∧
      ∀ place band, bands[place]? = some band → ∀ x row, x < bitmap.width → row < 24 →
        (24 * place + row < bitmap.height →
          bitmap.get? x (24 * place + row) = some (band.isBlack x row)) ∧
        (bitmap.height ≤ 24 * place + row → band.isBlack x row = false) := by
  refine ⟨_, ColumnBand.readAll?_send narrow, ?_, ?_, ?_⟩
  · rw [List.length_map, List.length_range]
    rfl
  · intro band member
    obtain ⟨place, _, rfl⟩ := List.mem_map.mp member
    exact ⟨rfl, ColumnBand.length_data_ofBitmap bitmap _⟩
  · intro place band found x row inside inBand
    rw [List.getElem?_map, Option.map_eq_some_iff] at found
    obtain ⟨index, atPlace, rfl⟩ := found
    obtain ⟨_, rfl⟩ := List.getElem?_eq_some_iff.mp atPlace
    have sameRow : place * columnBandHeight + row = 24 * place + row := by
      rw [columnBandHeight, Nat.mul_comm]
    rw [List.getElem_range, ColumnBand.isBlack_ofBitmap _ inside inBand, sameRow]
    constructor
    · intro above
      rw [Bitmap.get?_eq_some_get inside above]
      simp [above]
    · intro below
      simp [Nat.not_lt.mpr below]

theorem slantedLines_columns_read_back :
    slantedLines.width < 65536 ∧
    ∃ bands, ColumnBand.readAll? (slantedLines.send .columns) = some bands ∧
      bands.length = 25 ∧
      (∀ band ∈ bands, band.width = 300 ∧ band.data.length = 3 * band.width) ∧
      ∀ place band, bands[place]? = some band → ∀ x row, x < 300 → row < 24 →
        (24 * place + row < 600 →
          slantedLines.get? x (24 * place + row) = some (band.isBlack x row)) ∧
        (600 ≤ 24 * place + row → band.isBlack x row = false) :=
  ⟨by decide, columns_read_back (by decide)⟩

/-- The top left and the bottom right dot of a band. -/
example :
    ColumnBand.readAll? ((Bitmap.ofFn 2 24 fun x y => y = 23 * x).send .columns) =
      some [⟨2, [0x80, 0, 0, 0, 0, 0x01]⟩] := by
  cbv

end ThermalPrint
