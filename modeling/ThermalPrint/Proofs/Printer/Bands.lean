import ThermalPrint.Printer.Bands
import ThermalPrint.Proofs.Picture.Rows
import ThermalPrint.Proofs.Printer.Tokens

/-!
# Bands are whole tokens

The announced size of a band is the size of the data behind it: the rows of a raster band, or the
columns of a band of columns. So a bitmap that is not too wide for its headers is sent as whole
tokens, whatever its dots are.
-/

namespace ThermalPrint

section Pieces

variable {α : Type} {piece : Nat → List α} {size count : Nat}

theorem length_flatMap_range (uniform : ∀ index < count, (piece index).length = size) :
    ((List.range count).flatMap piece).length = count * size := by
  induction count with
  | zero => simp
  | succ count inductionHypothesis =>
    have earlier := inductionHypothesis fun index before => uniform index (by omega)
    simp [List.range_succ, earlier, uniform count, Nat.add_one_mul]

theorem getElem?_flatMap_range (uniform : ∀ index < count, (piece index).length = size)
    {index place : Nat} (before : index < count) (inside : place < size) :
    ((List.range count).flatMap piece)[index * size + place]? = (piece index)[place]? := by
  induction count with
  | zero => simp at before
  | succ count inductionHypothesis =>
    have earlierUniform : ∀ index < count, (piece index).length = size :=
      fun index before => uniform index (by omega)
    have length := length_flatMap_range earlierUniform
    rw [List.range_succ, List.flatMap_append, List.flatMap_singleton]
    by_cases last : index = count
    · subst last
      rw [List.getElem?_append_right (by omega), length, Nat.add_sub_cancel_left]
    · have earlier : index < count := by omega
      have within : index * size + place < count * size := by
        have rows : (index + 1) * size ≤ count * size := Nat.mul_le_mul_right _ earlier
        rw [Nat.add_one_mul] at rows
        omega
      rw [List.getElem?_append_left (by omega)]
      exact inductionHypothesis earlierUniform earlier

end Pieces

theorem Frame.lengthAt_ofLength {length : Nat} (short : length < 65536) (front back : Bytes) :
    lengthAt front.length (front ++ Bytes.ofLength length ++ back) = length := by
  have read := Bytes.toNat_ofLength short
  simpa [lengthAt, Bytes.ofLength, List.getD_eq_getElem?_getD] using read

namespace Bitmap

variable {bitmap : Bitmap}

def bandRows (bitmap : Bitmap) (top : Nat) : Nat :=
  min rasterBandHeight (bitmap.height - top)

theorem length_row_of_lt_bandRows (bitmap : Bitmap) {top : Nat} :
    ∀ row < bitmap.bandRows top, (bitmap.row (top + row)).length = bitmap.widthBytes := by
  intro row inBand
  apply length_row
  unfold bandRows at inBand
  omega

def rasterParameters (bitmap : Bitmap) (top : Nat) : Bytes :=
  [0x30, ImageMode.raster.code] ++ Bytes.ofLength bitmap.widthBytes ++
    Bytes.ofLength (bitmap.bandRows top)

def columnsParameters (bitmap : Bitmap) : Bytes :=
  ImageMode.columns.code :: Bytes.ofLength bitmap.width

def rasterToken (bitmap : Bitmap) (top : Nat) : Token :=
  .command 0x1D 0x76 (bitmap.rasterParameters top)
    ((List.range (bitmap.bandRows top)).flatMap fun row => bitmap.row (top + row))

def columnsToken (bitmap : Bitmap) (top : Nat) : Token :=
  .command 0x1B 0x2A bitmap.columnsParameters
    ((List.range bitmap.width).flatMap fun x => bitmap.column x top)

/-- The tokens that draw a bitmap: a command for each band, and in the mode of columns a line feed
behind each of them, between the commands for the space between lines. -/
def tokens (bitmap : Bitmap) : ImageMode → List Token
  | .raster =>
    (List.range (bandCount bitmap.height rasterBandHeight)).map fun band =>
      bitmap.rasterToken (band * rasterBandHeight)
  | .columns =>
    [Command.noLineSpacing.token] ++
      (List.range (bandCount bitmap.height columnBandHeight)).flatMap
        (fun band => [bitmap.columnsToken (band * columnBandHeight), .character lineFeed]) ++
      [Command.usualLineSpacing.token]

theorem bandRows_le (bitmap : Bitmap) (top : Nat) : bitmap.bandRows top ≤ rasterBandHeight :=
  Nat.min_le_left _ _

theorem widthBytes_lt (narrow : bitmap.width < 65536) : bitmap.widthBytes < 65536 := by
  unfold widthBytes bytesPerRow
  omega

/-- The width that the headers of the bands announce is small enough for its two bytes. -/
def Fits (bitmap : Bitmap) : ImageMode → Prop
  | .raster => bitmap.widthBytes < 65536
  | .columns => bitmap.width < 65536

theorem fits_of_narrow (narrow : bitmap.width < 65536) (mode : ImageMode) : bitmap.Fits mode := by
  cases mode with
  | raster => exact widthBytes_lt narrow
  | columns => exact narrow

theorem lengthAt_width_raster (fits : bitmap.Fits .raster) (top : Nat) :
    Frame.lengthAt 2 (bitmap.rasterParameters top) = bitmap.widthBytes :=
  Frame.lengthAt_ofLength fits [0x30, ImageMode.raster.code] _

theorem lengthAt_rows_raster (bitmap : Bitmap) (top : Nat) :
    Frame.lengthAt 4 (bitmap.rasterParameters top) = bitmap.bandRows top := by
  have few : bitmap.bandRows top < 65536 := Nat.lt_of_le_of_lt (bitmap.bandRows_le top) (by decide)
  have read := Frame.lengthAt_ofLength few
    ([0x30, ImageMode.raster.code] ++ Bytes.ofLength bitmap.widthBytes) []
  rwa [List.append_nil] at read

theorem lengthAt_width_columns (fits : bitmap.Fits .columns) :
    Frame.lengthAt 1 bitmap.columnsParameters = bitmap.width := by
  have read := Frame.lengthAt_ofLength fits [ImageMode.columns.code] []
  rwa [List.append_nil] at read

theorem bytes_rasterToken (fits : bitmap.Fits .raster) (top : Nat) :
    (bitmap.rasterToken top).bytes = bitmap.rasterBand top := by
  have widthBytes : (UInt16.ofNat bitmap.widthBytes).toNat = bitmap.widthBytes :=
    UInt16.toNat_ofNat_of_lt' fits
  have few := bitmap.bandRows_le top
  have rows : (UInt16.ofNat (bitmap.bandRows top)).toNat = bitmap.bandRows top :=
    UInt16.toNat_ofNat_of_lt' (Nat.lt_of_le_of_lt few (by decide))
  unfold bandRows at rows
  simp [rasterToken, rasterParameters, rasterBand, Token.bytes, Command.bytes, Command.group,
    bandRows, widthBytes, rows]

theorem bytes_columnsToken (bitmap : Bitmap) (top : Nat) :
    (bitmap.columnsToken top).bytes ++ [lineFeed] = bitmap.columnBand top := by
  simp [columnsToken, columnsParameters, columnBand, Token.bytes, Command.bytes, Command.escape]

theorem flatMap_bytes_tokens {mode : ImageMode} (fits : bitmap.Fits mode) :
    (bitmap.tokens mode).flatMap Token.bytes = bitmap.send mode := by
  cases mode with
  | raster =>
    simp [tokens, send, raster, List.flatMap_map, bytes_rasterToken fits]
  | columns =>
    have band (top : Nat) :
        (bitmap.columnsToken top).bytes ++ (Token.character lineFeed).bytes =
          bitmap.columnBand top :=
      bitmap.bytes_columnsToken top
    simp [tokens, send, columns, List.flatMap_assoc, band]

theorem isWhole_rasterToken (fits : bitmap.Fits .raster) (top : Nat) :
    (bitmap.rasterToken top).IsWhole := by
  refine ⟨.inr rfl,
    ⟨6, fun parameters => Frame.lengthAt 2 parameters * Frame.lengthAt 4 parameters⟩, rfl, rfl, ?_⟩
  simp only [lengthAt_width_raster fits, lengthAt_rows_raster]
  rw [length_flatMap_range bitmap.length_row_of_lt_bandRows, Nat.mul_comm]

theorem isWhole_columnsToken (fits : bitmap.Fits .columns) (top : Nat) :
    (bitmap.columnsToken top).IsWhole := by
  refine ⟨.inl rfl, ⟨3, fun parameters => 3 * Frame.lengthAt 1 parameters⟩, rfl, rfl, ?_⟩
  have uniform : ∀ x < bitmap.width, (bitmap.column x top).length = 3 := fun _ _ => rfl
  simp only [lengthAt_width_columns fits]
  rw [length_flatMap_range uniform, Nat.mul_comm]

/-- What holds of the bands and of the few other tokens between them holds of all tokens. -/
theorem forall_tokens {property : Token → Prop} (mode : ImageMode)
    (raster : mode = .raster → ∀ top, property (bitmap.rasterToken top))
    (columns : mode = .columns → ∀ top, property (bitmap.columnsToken top))
    (feed : property (.character lineFeed)) (start : property Command.noLineSpacing.token)
    (finish : property Command.usualLineSpacing.token) :
    ∀ token ∈ bitmap.tokens mode, property token := by
  intro token member
  cases mode with
  | raster =>
    obtain ⟨band, _, rfl⟩ := List.mem_map.mp member
    exact raster rfl _
  | columns =>
    simp only [tokens, List.mem_append, List.mem_flatMap, List.mem_cons, List.not_mem_nil,
      or_false] at member
    rcases member with (rfl | ⟨band, _, rfl | rfl⟩) | rfl
    · exact start
    · exact columns rfl _
    · exact feed
    · exact finish

theorem isWhole_of_mem_tokens {mode : ImageMode} (fits : bitmap.Fits mode) :
    ∀ token ∈ bitmap.tokens mode, token.IsWhole := by
  refine forall_tokens mode ?_ ?_ ?_ ?_ ?_
  · rintro rfl
    exact isWhole_rasterToken fits
  · rintro rfl
    exact isWhole_columnsToken fits
  · exact ⟨by decide, by decide⟩
  · exact Command.isWhole_token trivial
  · exact Command.isWhole_token trivial

theorem isCut_of_mem_tokens (bitmap : Bitmap) (mode : ImageMode) :
    ∀ token ∈ bitmap.tokens mode, token.isCut = false :=
  forall_tokens mode (fun _ _ => rfl) (fun _ _ => rfl) rfl rfl rfl

/-- A bitmap that fits is read back as the tokens that draw it. -/
theorem readAll?_send {mode : ImageMode} (fits : bitmap.Fits mode) :
    Token.readAll? (bitmap.send mode) = some (bitmap.tokens mode) := by
  rw [← flatMap_bytes_tokens fits]
  exact Token.readAll?_flatMap (isWhole_of_mem_tokens fits)

end Bitmap

end ThermalPrint
