import ThermalPrint.Proofs.Picture.SetDots

/-!
# Rows of a bitmap

The data of a bitmap is cut into rows of one length. A dot is a bit of a byte of its row, and the
rows follow one another without a gap. So a white bitmap on which dots are set one after the other
gives each dot back with the last color that it got.
-/

namespace ThermalPrint

namespace Bitmap

variable {bitmap : Bitmap}

theorem rowEnd_le_size {y : Nat} (above : y < bitmap.height) :
    (y + 1) * bitmap.widthBytes ≤ bitmap.data.size := by
  rw [bitmap.size_data, Nat.mul_comm (bytesPerRow bitmap.width)]
  exact Nat.mul_le_mul_right _ above

theorem row?_eq_some_row {y : Nat} (above : y < bitmap.height) :
    bitmap.row? y = some (bitmap.row y) :=
  if_pos (rowEnd_le_size above)

theorem length_row {y : Nat} (above : y < bitmap.height) :
    (bitmap.row y).length = bitmap.widthBytes := by
  have rows := rowEnd_le_size above
  rw [Nat.add_one_mul] at rows
  simp [row, Nat.add_one_mul]
  omega

theorem getElem?_row {y place : Nat} (above : y < bitmap.height)
    (inRow : place < bitmap.widthBytes) :
    (bitmap.row y)[place]? = bitmap.data[y * bitmap.widthBytes + place]? := by
  have inside : place < (bitmap.row y).length := by rwa [length_row above]
  have rows : y * bitmap.widthBytes + place < bitmap.data.size := place_lt_size inRow above
  rw [List.getElem?_eq_getElem inside, Array.getElem?_eq_getElem rows]
  simp [row]

/-- A dot is a bit of a byte of its row, the first dot of a byte being its highest bit. -/
theorem exists_byte_of_row {x y : Nat} (inRow : x < 8 * bitmap.widthBytes)
    (above : y < bitmap.height) :
    ∃ byte, (bitmap.row y)[x / 8]? = some byte ∧
      bitmap.get? x y = some (byte.toBitVec.getLsbD (7 - x % 8)) := by
  have byteInRow : x / 8 < bitmap.widthBytes := by omega
  have inData : bitmap.byteIndex x y < bitmap.data.size := place_lt_size byteInRow above
  have found : bitmap.data[bitmap.byteIndex x y]? = some bitmap.data[bitmap.byteIndex x y] :=
    Array.getElem?_eq_getElem inData
  refine ⟨bitmap.data[bitmap.byteIndex x y], ?_, ?_⟩
  · rw [getElem?_row above byteInRow]
    exact found
  · rw [get?, found, Option.map_some, and_dotMask_ne_zero]

/-- The last dot of a row of twelve is the fourth bit of its second byte. -/
example : ((white 12 2).set? 11 1 true).bind (row? · 1) = some [0x00, 0x10] := by
  decide

/-- The leading rows, one after the other, are the leading bytes of the data. -/
theorem flatMap_row_range (bitmap : Bitmap) (rows : Nat) :
    (List.range rows).flatMap bitmap.row = bitmap.data.toList.take (rows * bitmap.widthBytes) := by
  induction rows with
  | zero => simp
  | succ rows inductionHypothesis =>
    rw [List.range_succ, List.flatMap_append, inductionHypothesis,
      List.flatMap_singleton, row, Array.toList_extract, List.extract_eq_take_drop,
      Nat.add_one_mul, Nat.add_sub_cancel_left, ← List.take_add]

theorem flatMap_row (bitmap : Bitmap) :
    (List.range bitmap.height).flatMap bitmap.row = bitmap.data.toList := by
  have size : bitmap.data.toList.length = bitmap.height * bitmap.widthBytes := by
    rw [Array.length_toList, bitmap.size_data, Nat.mul_comm]
    rfl
  rw [flatMap_row_range, ← size, List.take_length]

theorem mapM_row?_range {rows : Nat} (above : rows ≤ bitmap.height) :
    (List.range rows).mapM bitmap.row? = some ((List.range rows).map bitmap.row) := by
  induction rows with
  | zero => rfl
  | succ rows inductionHypothesis =>
    rw [List.range_succ, List.mapM_append, inductionHypothesis (Nat.le_of_succ_le above),
      List.mapM_cons, row?_eq_some_row above, List.map_append]
    rfl

theorem exists_rows (bitmap : Bitmap) :
    ∃ rows, (List.range bitmap.height).mapM bitmap.row? = some rows ∧
      (∀ row ∈ rows, row.length = bitmap.widthBytes) ∧ rows.flatten = bitmap.data.toList := by
  refine ⟨_, mapM_row?_range (Nat.le_refl _), ?_, bitmap.flatMap_row⟩
  intro row member
  obtain ⟨y, above, rfl⟩ := List.mem_map.mp member
  exact length_row (List.mem_range.mp above)

/-- What a list of dots, set one after the other, makes of a white bitmap. -/
structure IsDrawnBy (width height : Nat) (dots : List ColoredDot) (bitmap : Bitmap) : Prop where
  sameWidth : bitmap.width = width
  sameHeight : bitmap.height = height
  size : bitmap.data.size = bytesPerRow width * height
  /-- A dot has the last color that it is given. -/
  lastColor : ∀ front dot back, dots = front ++ dot :: back →
    (∀ later ∈ back, ¬(later.x = dot.x ∧ later.y = dot.y)) →
    bitmap.get? dot.x dot.y = some dot.isBlack
  /-- A dot that is given no color is white. -/
  noColor : ∀ x y, x < width → y < height → (∀ dot ∈ dots, ¬(dot.x = x ∧ dot.y = y)) →
    bitmap.get? x y = some false
  /-- The dots of a row, those that fill it up included, are the bits of its bytes. -/
  bits : ∀ x y, x < 8 * bytesPerRow width → y < height →
    ∃ row byte, bitmap.row? y = some row ∧ row[x / 8]? = some byte ∧
      bitmap.get? x y = some (byte.toBitVec.getLsbD (7 - x % 8))
  /-- The dots that fill up a row are white. -/
  padding : ∀ x y, width ≤ x → x < 8 * bytesPerRow width → y < height →
    bitmap.get? x y = some false
  /-- The rows, one after the other, are the data. -/
  rows : ∃ rows, (List.range height).mapM bitmap.row? = some rows ∧
    (∀ row ∈ rows, row.length = bytesPerRow width) ∧ rows.flatten = bitmap.data.toList

end Bitmap

/-- Dots inside a white bitmap can be set in any order and any number of times, without asking for a
byte that is not there. The bitmap then holds just these dots, each with the last color that it was
given, and it does so in its rows and in its data. -/
theorem bitmap_keeps_dots {width height : Nat} {dots : List ColoredDot}
    (inside : ∀ dot ∈ dots, dot.x < width ∧ dot.y < height) :
    ∃ bitmap, (Bitmap.white width height).setAll? dots = some bitmap ∧
      bitmap.IsDrawnBy width height dots := by
  obtain ⟨bitmap, set, (rfl : bitmap.width = width), (rfl : bitmap.height = height), colors⟩ :=
    @Bitmap.exists_setAll? (.white width height) dots inside
  have wide := bitmap.width_le_eight_mul_widthBytes
  have drawn {x y : Nat} (inRow : x < 8 * bitmap.widthBytes) (above : y < bitmap.height) :
      bitmap.get? x y = (ColoredDot.lastColor? x y dots).or (some false) := by
    rw [colors x y inRow, Bitmap.get?_white _ _ inRow above]
  -- Inside a row or behind its end, what no dot touches is as white as at the start.
  have white {x y : Nat} (inRow : x < 8 * bitmap.widthBytes) (above : y < bitmap.height)
      (elsewhere : ∀ dot ∈ dots, ¬(dot.x = x ∧ dot.y = y)) : bitmap.get? x y = some false := by
    rw [drawn inRow above, ColoredDot.lastColor?_eq_none elsewhere, Option.none_or]
  refine ⟨bitmap, set, rfl, rfl, bitmap.size_data, ?_, ?_, ?_, ?_, bitmap.exists_rows⟩
  · rintro front dot back rfl last
    obtain ⟨inWidth, above⟩ := inside dot (List.mem_append_right front List.mem_cons_self)
    rw [drawn (Nat.lt_of_lt_of_le inWidth wide) above, ColoredDot.lastColor?_of_last front last,
      Option.some_or]
  · intro x y inWidth above elsewhere
    exact white (Nat.lt_of_lt_of_le inWidth wide) above elsewhere
  · intro x y inRow above
    obtain ⟨byte, inByte, bit⟩ := Bitmap.exists_byte_of_row inRow above
    exact ⟨bitmap.row y, byte, Bitmap.row?_eq_some_row above, inByte, bit⟩
  · intro x y outside inRow above
    apply white inRow above
    rintro dot member ⟨rfl, _⟩
    exact Nat.not_lt.mpr outside (inside dot member).1

/-- Dots of which one is made black and, later on, white again. -/
def redrawnDots : List ColoredDot :=
  [⟨11, 1, true⟩, ⟨3, 0, true⟩, ⟨11, 1, false⟩, ⟨10, 1, true⟩]

theorem redrawnDots_kept :
    (∀ dot ∈ redrawnDots, dot.x < 12 ∧ dot.y < 2) ∧
    ∃ bitmap, (Bitmap.white 12 2).setAll? redrawnDots = some bitmap ∧
      bitmap.IsDrawnBy 12 2 redrawnDots ∧
      bitmap.get? 11 1 = some false ∧ bitmap.get? 10 1 = some true ∧
      bitmap.get? 12 1 = some false := by
  have inside : ∀ dot ∈ redrawnDots, dot.x < 12 ∧ dot.y < 2 := by decide
  obtain ⟨bitmap, set, drawn⟩ := bitmap_keeps_dots inside
  refine ⟨inside, bitmap, set, drawn, ?_, ?_, ?_⟩
  · apply drawn.lastColor [⟨11, 1, true⟩, ⟨3, 0, true⟩] ⟨11, 1, false⟩ [⟨10, 1, true⟩] rfl
    decide
  · apply drawn.lastColor [⟨11, 1, true⟩, ⟨3, 0, true⟩, ⟨11, 1, false⟩] ⟨10, 1, true⟩ [] rfl
    simp
  · apply drawn.padding 12 1 <;> decide

end ThermalPrint
