import ThermalPrint.Proofs.Picture.Dots

/-!
# Dots that are set

Setting a dot gives it its color and leaves all other dots as they are, those that fill up the rows
included. So after a list of dots inside the bitmap each dot has the last color that the list gives
it, or its old one. Two bitmaps of one size are equal if all of their dots are.
-/

namespace ThermalPrint

/-- Changing the bit of one dot leaves the other bits of its byte alone. -/
theorem and_dotMask_changed (byte : UInt8) (black : Bool) (x place : Nat) :
    ((if black then byte ||| dotMask x else byte &&& ~~~dotMask x) &&& dotMask place != 0) =
      if place % 8 = x % 8 then black else byte &&& dotMask place != 0 := by
  have sameBit : (decide (7 - x % 8 < 8) && decide (7 - x % 8 = 7 - place % 8)) =
      decide (place % 8 = x % 8) := by
    rw [Bool.eq_iff_iff]
    simp only [Bool.and_eq_true, decide_eq_true_eq]
    omega
  have inByte : 7 - place % 8 < 8 := by omega
  rw [and_dotMask_ne_zero, and_dotMask_ne_zero]
  cases black with
  | true =>
    rw [if_pos rfl, UInt8.toBitVec_or, toBitVec_dotMask, BitVec.getLsbD_or,
      BitVec.getLsbD_twoPow, sameBit]
    by_cases same : place % 8 = x % 8 <;> simp [same]
  | false =>
    rw [if_neg Bool.false_ne_true, UInt8.toBitVec_and, UInt8.toBitVec_not, toBitVec_dotMask,
      BitVec.getLsbD_and, BitVec.getLsbD_not, BitVec.getLsbD_twoPow, sameBit]
    by_cases same : place % 8 = x % 8 <;> simp [same, inByte]

namespace ColoredDot

/-- The color that a list of dots gives a place, if it gives one. A later dot counts more. -/
def lastColor? (x y : Nat) : List ColoredDot → Option Bool
  | [] => none
  | dot :: rest =>
    (lastColor? x y rest).or (if x = dot.x ∧ y = dot.y then some dot.isBlack else none)

theorem lastColor?_append (x y : Nat) (front back : List ColoredDot) :
    lastColor? x y (front ++ back) = (lastColor? x y back).or (lastColor? x y front) := by
  induction front with
  | nil => rw [List.nil_append, lastColor?, Option.or_none]
  | cons dot front inductionHypothesis =>
    rw [List.cons_append, lastColor?, inductionHypothesis, Option.or_assoc]
    rfl

theorem lastColor?_eq_none {dots : List ColoredDot} {x y : Nat}
    (elsewhere : ∀ dot ∈ dots, ¬(dot.x = x ∧ dot.y = y)) : lastColor? x y dots = none := by
  induction dots with
  | nil => rfl
  | cons dot dots inductionHypothesis =>
    rw [List.forall_mem_cons] at elsewhere
    have notHere : ¬(x = dot.x ∧ y = dot.y) := fun here => elsewhere.1 ⟨here.1.symm, here.2.symm⟩
    rw [lastColor?, inductionHypothesis elsewhere.2, if_neg notHere, Option.none_or]

theorem lastColor?_of_last (front : List ColoredDot) {dot : ColoredDot} {back : List ColoredDot}
    (last : ∀ later ∈ back, ¬(later.x = dot.x ∧ later.y = dot.y)) :
    lastColor? dot.x dot.y (front ++ dot :: back) = some dot.isBlack := by
  rw [lastColor?_append, lastColor?, lastColor?_eq_none last, if_pos ⟨rfl, rfl⟩]
  rfl

theorem lastColor?_of_black {dots : List ColoredDot} (black : ∀ dot ∈ dots, dot.isBlack = true)
    (x y : Nat) : lastColor? x y dots = if ⟨x, y, true⟩ ∈ dots then some true else none := by
  induction dots with
  | nil => rfl
  | cons dot dots inductionHypothesis =>
    obtain ⟨column, row, isBlack⟩ := dot
    rw [List.forall_mem_cons] at black
    obtain ⟨rfl : isBlack = true, allBlack⟩ := black
    rw [lastColor?, inductionHypothesis allBlack]
    by_cases later : ⟨x, y, true⟩ ∈ dots
    · simp [later]
    · by_cases here : x = column ∧ y = row
      · obtain ⟨rfl, rfl⟩ := here
        simp [later]
      · simp [later, here]

end ColoredDot

namespace Bitmap

variable {bitmap other : Bitmap}

theorem exists_set? {x y : Nat} (inside : x < bitmap.width) (above : y < bitmap.height)
    (black : Bool) :
    ∃ changed, bitmap.set? x y black = some changed ∧
      changed.width = bitmap.width ∧ changed.height = bitmap.height ∧
      ∀ column row, column < 8 * bitmap.widthBytes →
        changed.get? column row =
          if column = x ∧ row = y then some black else bitmap.get? column row := by
  have wide := bitmap.width_le_eight_mul_widthBytes
  have byteInRow : x / 8 < bitmap.widthBytes := by omega
  have inData : bitmap.byteIndex x y < bitmap.data.size := place_lt_size byteInRow above
  refine ⟨_, dif_pos inData, rfl, rfl, ?_⟩
  intro column row inRow
  have columnInRow : column / 8 < bitmap.widthBytes := by omega
  change Option.map _ (Array.set _ _ _ inData)[bitmap.byteIndex column row]? = _
  rw [Array.getElem?_set inData]
  by_cases atByte : bitmap.byteIndex x y = bitmap.byteIndex column row
  · obtain ⟨places, rfl⟩ := eq_of_place_eq byteInRow columnInRow atByte
    have sameDot : column % 8 = x % 8 ↔ column = x := by omega
    have found : bitmap.get? column y =
        some (bitmap.data[bitmap.byteIndex x y] &&& dotMask column != 0) := by
      rw [get?, ← atByte, Array.getElem?_eq_getElem inData, Option.map_some]
    rw [if_pos atByte, Option.map_some, and_dotMask_changed, found]
    by_cases same : column = x <;> simp [same, sameDot]
  · have notSame : ¬(column = x ∧ row = y) := by
      rintro ⟨rfl, rfl⟩
      exact atByte rfl
    rw [if_neg atByte, if_neg notSame]
    rfl

theorem exists_setAll? {dots : List ColoredDot}
    (inside : ∀ dot ∈ dots, dot.x < bitmap.width ∧ dot.y < bitmap.height) :
    ∃ changed, bitmap.setAll? dots = some changed ∧
      changed.width = bitmap.width ∧ changed.height = bitmap.height ∧
      ∀ x y, x < 8 * bitmap.widthBytes →
        changed.get? x y = (ColoredDot.lastColor? x y dots).or (bitmap.get? x y) := by
  induction dots generalizing bitmap with
  | nil => exact ⟨bitmap, rfl, rfl, rfl, fun _ _ _ => rfl⟩
  | cons dot dots inductionHypothesis =>
    rw [List.forall_mem_cons] at inside
    obtain ⟨first, set, firstWidth, firstHeight, firstDots⟩ :=
      exists_set? inside.1.1 inside.1.2 dot.isBlack
    have sameBytes : first.widthBytes = bitmap.widthBytes := congrArg bytesPerRow firstWidth
    have restInside : ∀ dot ∈ dots, dot.x < first.width ∧ dot.y < first.height := by
      rw [firstWidth, firstHeight]
      exact inside.2
    obtain ⟨last, setRest, lastWidth, lastHeight, lastDots⟩ := inductionHypothesis restInside
    refine ⟨last, ?_, lastWidth.trans firstWidth, lastHeight.trans firstHeight, ?_⟩
    · rw [setAll?, List.foldlM_cons, set]
      exact setRest
    · intro x y inRow
      rw [lastDots x y (sameBytes ▸ inRow), firstDots x y inRow, ColoredDot.lastColor?,
        Option.or_assoc]
      congr 1
      by_cases atDot : x = dot.x ∧ y = dot.y <;> simp [atDot]

theorem get?_white (width height : Nat) {x y : Nat} (inRow : x < 8 * bytesPerRow width)
    (above : y < height) : (white width height).get? x y = some false := by
  have byteInRow : x / 8 < bytesPerRow width := by omega
  have inData : y * bytesPerRow width + x / 8 < bytesPerRow width * height := by
    rw [Nat.mul_comm (bytesPerRow width)]
    exact place_lt byteInRow above
  simp [get?, byteIndex, widthBytes, white, inData]

/-- Bitmaps are equal if they have one size and the same dots, those that fill up the rows
included. -/
theorem ext_dots (sameWidth : bitmap.width = other.width)
    (sameHeight : bitmap.height = other.height)
    (sameDots : ∀ x y, x < 8 * bitmap.widthBytes → y < bitmap.height →
      bitmap.get? x y = other.get? x y) : bitmap = other := by
  have sameBytes : bitmap.widthBytes = other.widthBytes := congrArg bytesPerRow sameWidth
  have sameSize : bitmap.data.size = other.data.size := by
    rw [bitmap.size_data, other.size_data, sameWidth, sameHeight]
  have sameData : bitmap.data = other.data := by
    apply Array.ext sameSize
    intro index inside otherInside
    have size : bitmap.data.size = bitmap.height * bitmap.widthBytes := by
      rw [bitmap.size_data, Nat.mul_comm]
      rfl
    have nonempty : 0 < bitmap.widthBytes :=
      Nat.pos_of_ne_zero fun empty => by simp [size, empty] at inside
    have above : index / bitmap.widthBytes < bitmap.height :=
      Nat.div_lt_of_lt_mul (by rwa [Nat.mul_comm, ← size])
    have inRow := Nat.mod_lt index nonempty
    rw [← UInt8.toBitVec_inj]
    apply BitVec.eq_of_getLsbD_eq
    intro bit inByte
    -- The dot that the bit stands for.
    have place : (index % bitmap.widthBytes * 8 + (7 - bit)) / 8 = index % bitmap.widthBytes := by
      omega
    have bitPlace : 7 - (index % bitmap.widthBytes * 8 + (7 - bit)) % 8 = bit := by omega
    have dot := sameDots (index % bitmap.widthBytes * 8 + (7 - bit)) (index / bitmap.widthBytes)
      (by omega) above
    simp only [get?, byteIndex, place, ← sameBytes, Nat.div_add_mod',
      Array.getElem?_eq_getElem inside, Array.getElem?_eq_getElem otherInside, Option.map_some,
      Option.some.injEq, and_dotMask_ne_zero, bitPlace] at dot
    exact dot
  cases bitmap
  cases other
  cases sameWidth
  cases sameHeight
  cases sameData
  rfl

end Bitmap

end ThermalPrint
