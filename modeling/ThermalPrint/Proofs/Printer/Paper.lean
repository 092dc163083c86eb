import ThermalPrint.Printer.Paper
import ThermalPrint.Proofs.Picture.Width
import ThermalPrint.Proofs.Printer.Bands

/-!
# Both modes draw the bitmap

Sent in bands of rows or in bands of columns, a bitmap puts the same dots on paper: those of its
black dots. After some bands just the dots above the next band have been drawn; the white dots that
fill up rows and the last band add none.
-/

namespace ThermalPrint

namespace Bitmap

/-- The black dots of a bitmap, by column and row. -/
def isBlack (bitmap : Bitmap) (x y : Nat) : Bool :=
  x < bitmap.width && y < bitmap.height && bitmap.get x y

/-- The bytes of a row may hold dots outside the width, but no black ones. -/
theorem inRow_and_get {bitmap : Bitmap} (padded : bitmap.IsPadded) {x y : Nat}
    (above : y < bitmap.height) :
    (decide (x < 8 * bitmap.widthBytes) && bitmap.get x y) =
      (decide (x < bitmap.width) && bitmap.get x y) := by
  have wide := bitmap.width_le_eight_mul_widthBytes
  by_cases inside : x < bitmap.width
  · have inRow : x < 8 * bitmap.widthBytes := by omega
    simp [inside, inRow]
  · by_cases inRow : x < 8 * bitmap.widthBytes
    · simp [inside, padded x y (Nat.not_lt.mp inside) inRow above]
    · simp [inside, inRow]

theorem lt_height_of_lt_bandCount {height bandHeight band : Nat} (positive : 0 < bandHeight)
    (inside : band < bandCount height bandHeight) : band * bandHeight < height := by
  have whole : (band + 1) * bandHeight ≤ height + bandHeight - 1 :=
    (Nat.le_div_iff_mul_le positive).mp inside
  rw [Nat.add_one_mul] at whole
  omega

theorem height_le_bandCount_mul {height bandHeight : Nat} (positive : 0 < bandHeight) :
    height ≤ bandCount height bandHeight * bandHeight := by
  unfold bandCount
  have rest := Nat.mod_lt (height + bandHeight - 1) positive
  have whole := Nat.div_add_mod (height + bandHeight - 1) bandHeight
  rw [Nat.mul_comm] at whole
  omega

theorem above_and_isBlack {bitmap : Bitmap} {bottom : Nat} (all : bitmap.height ≤ bottom)
    (x y : Nat) : (decide (y < bottom) && bitmap.isBlack x y) = bitmap.isBlack x y := by
  by_cases inPicture : y < bitmap.height
  · have above : y < bottom := by omega
    simp [above]
  · simp [inPicture, isBlack]

end Bitmap

namespace Paper

theorem shows_append (paper : Paper) (first second : List Token) (x y : Nat) :
    paper.shows (first ++ second) x y =
      (paper.shows first x y || (paper.afterAll first).shows second x y) := by
  induction first generalizing paper with
  | nil => rfl
  | cons token first inductionHypothesis =>
    simp only [List.cons_append, shows, inductionHypothesis, Bool.or_assoc]
    rfl

theorem afterAll_append (paper : Paper) (first second : List Token) :
    paper.afterAll (first ++ second) = (paper.afterAll first).afterAll second :=
  List.foldl_append

theorem isBlackIn_eq (data : Bytes) (place bit : Nat) :
    isBlackIn data place bit =
      (data[place]?.map fun byte => byte &&& dotMask bit != 0).getD false := by
  rw [isBlackIn, List.getD_eq_getElem?_getD]
  cases data[place]? with
  | none => simp
  | some byte => rfl

/-- What is drawn above a band and what is drawn in it is what is drawn above the next band. -/
theorem above_or_inBand (bandHeight bands y : Nat) (black : Bool) :
    (y < bands * bandHeight && black ||
      bands * bandHeight ≤ y && y - bands * bandHeight < bandHeight && black) =
      (y < (bands + 1) * bandHeight && black) := by
  have next : (bands + 1) * bandHeight = bands * bandHeight + bandHeight :=
    Nat.add_one_mul bands bandHeight
  by_cases earlier : y < bands * bandHeight
  · have notBelow : ¬bands * bandHeight ≤ y := by omega
    have alsoLater : y < (bands + 1) * bandHeight := by omega
    simp [earlier, notBelow, alsoLater]
  · have below : bands * bandHeight ≤ y := by omega
    have inBand : y - bands * bandHeight < bandHeight ↔ y < (bands + 1) * bandHeight := by
      omega
    simp [earlier, below, inBand]

variable {bitmap : Bitmap}

/-! ### Bands of rows -/

theorem isBlackIn_rows {top x y : Nat} (below : top ≤ y) (inBand : y - top < bitmap.bandRows top)
    (inRow : x < 8 * bitmap.widthBytes) :
    isBlackIn ((List.range (bitmap.bandRows top)).flatMap fun row => bitmap.row (top + row))
      ((y - top) * bitmap.widthBytes + x / 8) x = bitmap.get x y := by
  have byteInRow : x / 8 < bitmap.widthBytes := by omega
  have above : y < bitmap.height := by
    unfold Bitmap.bandRows at inBand
    omega
  have place : top + (y - top) = y := by omega
  rw [isBlackIn_eq, getElem?_flatMap_range bitmap.length_row_of_lt_bandRows inBand byteInRow, place,
    Bitmap.getElem?_row above byteInRow]
  rfl

theorem isRows_raster : isRows 0x1D 0x76 :=
  ⟨rfl, rfl⟩

theorem draws_rasterToken (narrow : bitmap.width < 65536) (padded : bitmap.IsPadded)
    {paper : Paper} {top : Nat} (sameTop : paper.top = top) (x y : Nat) :
    paper.draws x y (bitmap.rasterToken top) =
      (top ≤ y && y - top < rasterBandHeight && bitmap.isBlack x y) := by
  have drawn : paper.draws x y (bitmap.rasterToken top) =
      (top ≤ y && y - top < bitmap.bandRows top && x < 8 * bitmap.widthBytes &&
        bitmap.get x y) := by
    simp only [Bitmap.rasterToken, draws, isRows_raster, if_true, Bitmap.lengthAt_rows_raster,
      Bitmap.lengthAt_width_raster (Bitmap.fits_of_narrow narrow .raster), sameTop]
    cases inside :
      (top ≤ y && y - top < bitmap.bandRows top && x < 8 * bitmap.widthBytes : Bool) with
    | false => rfl
    | true =>
      simp only [Bool.and_eq_true, decide_eq_true_eq] at inside
      obtain ⟨⟨below, inBand⟩, inRow⟩ := inside
      rw [isBlackIn_rows below inBand inRow]
  rw [drawn]
  by_cases below : top ≤ y
  · have rows : y - top < bitmap.bandRows top ↔
        y - top < rasterBandHeight ∧ y < bitmap.height := by
      unfold Bitmap.bandRows
      omega
    by_cases above : y < bitmap.height
    · have dots := Bitmap.inRow_and_get padded (x := x) above
      simp [below, rows, above, Bitmap.isBlack, Bool.and_assoc, dots]
    · simp [rows, above, Bitmap.isBlack]
  · simp [below]

theorem after_rasterToken (paper : Paper) (top : Nat) :
    paper.after (bitmap.rasterToken top) =
      { paper with top := paper.top + bitmap.bandRows top } := by
  simp only [Bitmap.rasterToken, after, isRows_raster, if_true, Bitmap.lengthAt_rows_raster]

def rasterBands (bitmap : Bitmap) (bands : Nat) : List Token :=
  (List.range bands).map fun band => bitmap.rasterToken (band * rasterBandHeight)

theorem rasterBands_succ (bitmap : Bitmap) (bands : Nat) :
    rasterBands bitmap (bands + 1) =
      rasterBands bitmap bands ++ [bitmap.rasterToken (bands * rasterBandHeight)] := by
  simp [rasterBands, List.range_succ]

/-- After some bands the paper has moved on to the next one, and the dots above it have been
drawn. -/
theorem rasterBands_drawn (narrow : bitmap.width < 65536) (padded : bitmap.IsPadded) (bands : Nat)
    (inside : bands ≤ bandCount bitmap.height rasterBandHeight) :
    (fresh.afterAll (rasterBands bitmap bands)).top = min (bands * rasterBandHeight) bitmap.height ∧
    ∀ x y, fresh.shows (rasterBands bitmap bands) x y =
      (y < bands * rasterBandHeight && bitmap.isBlack x y) := by
  induction bands with
  | zero => simp [rasterBands, afterAll, fresh, shows]
  | succ bands inductionHypothesis =>
    obtain ⟨moved, drawn⟩ := inductionHypothesis (by omega)
    have above : bands * rasterBandHeight < bitmap.height :=
      Bitmap.lt_height_of_lt_bandCount (by decide) inside
    have top : (fresh.afterAll (rasterBands bitmap bands)).top = bands * rasterBandHeight := by
      omega
    have next : bands * rasterBandHeight + bitmap.bandRows (bands * rasterBandHeight) =
        min ((bands + 1) * rasterBandHeight) bitmap.height := by
      rw [Nat.add_one_mul, Bitmap.bandRows]
      omega
    rw [rasterBands_succ]
    constructor
    · rw [afterAll_append, afterAll, List.foldl_cons, List.foldl_nil, after_rasterToken, top]
      exact next
    · intro x y
      rw [shows_append, drawn]
      simp only [shows, Bool.or_false, draws_rasterToken narrow padded top]
      exact above_or_inBand rasterBandHeight bands y (bitmap.isBlack x y)

theorem shows_raster (narrow : bitmap.width < 65536) (padded : bitmap.IsPadded) (x y : Nat) :
    fresh.shows (bitmap.tokens .raster) x y = bitmap.isBlack x y := by
  obtain ⟨_, drawn⟩ := rasterBands_drawn narrow padded _ (Nat.le_refl _)
  have all : bitmap.height ≤ bandCount bitmap.height rasterBandHeight * rasterBandHeight :=
    Bitmap.height_le_bandCount_mul (by decide)
  exact (drawn x y).trans (Bitmap.above_and_isBlack all x y)

/-! ### Bands of columns -/

theorem getElem?_column (x top : Nat) {slice : Nat} (bounded : slice < 3) :
    (bitmap.column x top)[slice]? = some (bitmap.columnByte x (top + slice * 8)) := by
  have cases : slice = 0 ∨ slice = 1 ∨ slice = 2 := by omega
  rcases cases with rfl | rfl | rfl <;> rfl

theorem isBlackIn_columns {top x y : Nat} (below : top ≤ y) (inBand : y - top < 24)
    (inside : x < bitmap.width) :
    isBlackIn ((List.range bitmap.width).flatMap fun x => bitmap.column x top)
      (x * 3 + (y - top) / 8) (y - top) = (y < bitmap.height && bitmap.get x y) := by
  have uniform : ∀ x < bitmap.width, (bitmap.column x top).length = 3 := fun _ _ => rfl
  have slice : (y - top) / 8 < 3 := by omega
  have place : top + (y - top) / 8 * 8 + (y - top) % 8 = y := by omega
  rw [isBlackIn_eq, getElem?_flatMap_range uniform inside slice, getElem?_column x top slice]
  simp only [Option.map_some, Option.getD_some, Bitmap.columnByte, packByte_and_dotMask, place]

theorem isColumns_columns (bitmap : Bitmap) :
    isColumns 0x1B 0x2A bitmap.columnsParameters :=
  ⟨rfl, rfl, rfl⟩

theorem not_isRows_escape (function : UInt8) : ¬isRows 0x1B function := by
  rintro ⟨same, _⟩
  revert same
  decide

theorem draws_columnsToken (narrow : bitmap.width < 65536) {paper : Paper} {top : Nat}
    (sameTop : paper.top = top) (x y : Nat) :
    paper.draws x y (bitmap.columnsToken top) =
      (top ≤ y && y - top < 24 && bitmap.isBlack x y) := by
  have grouped : bitmap.isBlack x y =
      (decide (x < bitmap.width) && (decide (y < bitmap.height) && bitmap.get x y)) :=
    Bool.and_assoc _ _ _
  simp only [Bitmap.columnsToken, draws, not_isRows_escape, if_false, isColumns_columns, if_true,
    Bitmap.lengthAt_width_columns narrow, sameTop]
  rw [grouped, ← Bool.and_assoc]
  cases inside : (top ≤ y && y - top < 24 && x < bitmap.width : Bool) with
  | false => rfl
  | true =>
    simp only [Bool.and_eq_true, decide_eq_true_eq] at inside
    obtain ⟨⟨below, inBand⟩, inRow⟩ := inside
    rw [isBlackIn_columns below inBand inRow]

theorem draws_character (paper : Paper) (byte : UInt8) (x y : Nat) :
    paper.draws x y (.character byte) = false :=
  rfl

theorem after_columnsToken (paper : Paper) (top : Nat) :
    paper.after (bitmap.columnsToken top) =
      { paper with lineHeight := max paper.lineHeight 24 } := by
  simp only [Bitmap.columnsToken, after, not_isRows_escape, if_false, isColumns_columns, if_true]

theorem after_lineFeed (paper : Paper) :
    paper.after (.character lineFeed) =
      { paper with top := paper.top + max paper.spacing paper.lineHeight, lineHeight := 0 } :=
  rfl

def columnBands (bitmap : Bitmap) (bands : Nat) : List Token :=
  [Command.noLineSpacing.token] ++ (List.range bands).flatMap fun band =>
    [bitmap.columnsToken (band * columnBandHeight), .character lineFeed]

theorem columnBands_succ (bitmap : Bitmap) (bands : Nat) :
    columnBands bitmap (bands + 1) = columnBands bitmap bands ++
      [bitmap.columnsToken (bands * columnBandHeight), .character lineFeed] := by
  simp [columnBands, List.range_succ]

/-- Without space between lines each line feed moves the paper by the height of a band. -/
theorem columnBands_drawn (narrow : bitmap.width < 65536) (bands : Nat) :
    fresh.afterAll (columnBands bitmap bands) = ⟨bands * columnBandHeight, 0, 0⟩ ∧
    ∀ x y, fresh.shows (columnBands bitmap bands) x y =
      (y < bands * columnBandHeight && bitmap.isBlack x y) := by
  induction bands with
  | zero =>
    constructor
    · rfl
    · intro x y
      simp [columnBands, Command.token, shows, draws, not_isRows_escape, isColumns]
  | succ bands inductionHypothesis =>
    obtain ⟨moved, drawn⟩ := inductionHypothesis
    rw [columnBands_succ]
    constructor
    · rw [afterAll_append, moved, Nat.add_one_mul]
      simp [afterAll, after_columnsToken, after_lineFeed, columnBandHeight]
    · intro x y
      rw [shows_append, drawn, moved]
      simp only [shows, Bool.or_false, draws_columnsToken narrow rfl, draws_character]
      exact above_or_inBand columnBandHeight bands y (bitmap.isBlack x y)

theorem shows_columns (narrow : bitmap.width < 65536) (x y : Nat) :
    fresh.shows (bitmap.tokens .columns) x y = bitmap.isBlack x y := by
  obtain ⟨_, drawn⟩ := columnBands_drawn narrow (bandCount bitmap.height columnBandHeight)
  have all : bitmap.height ≤ bandCount bitmap.height columnBandHeight * columnBandHeight :=
    Bitmap.height_le_bandCount_mul (by decide)
  have finish (paper : Paper) : paper.shows [Command.usualLineSpacing.token] x y = false := by
    simp [Command.token, shows, draws, not_isRows_escape, isColumns]
  have shown := shows_append fresh (columnBands bitmap (bandCount bitmap.height columnBandHeight))
    [Command.usualLineSpacing.token] x y
  rw [drawn, finish, Bool.or_false] at shown
  exact shown.trans (Bitmap.above_and_isBlack all x y)

/-- The mode makes no difference on paper. -/
theorem shows_tokens (narrow : bitmap.width < 65536) (padded : bitmap.IsPadded) (mode : ImageMode)
    (x y : Nat) : fresh.shows (bitmap.tokens mode) x y = bitmap.isBlack x y := by
  cases mode with
  | raster => exact shows_raster narrow padded x y
  | columns => exact shows_columns narrow x y

end Paper

end ThermalPrint
