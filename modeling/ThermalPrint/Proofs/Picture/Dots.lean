import ThermalPrint.Bitmap

/-!
# Dots of packed rows

A bitmap built from a function shows that function: a dot inside a row is black where the function
says so, and the dots that fill up the last byte of a row are white.
-/

namespace ThermalPrint

theorem place_lt {width height x y : Nat} (inside : x < width) (above : y < height) :
    y * width + x < height * width := by
  have rows : (y + 1) * width ≤ height * width := Nat.mul_le_mul_right _ above
  rw [Nat.add_one_mul] at rows
  omega

theorem place_mod {width x : Nat} (inside : x < width) (y : Nat) : (y * width + x) % width = x := by
  rw [Nat.mul_add_mod_self_right, Nat.mod_eq_of_lt inside]

theorem place_div {width x : Nat} (inside : x < width) (y : Nat) : (y * width + x) / width = y := by
  rw [Nat.mul_comm, Nat.mul_add_div (Nat.zero_lt_of_lt inside), Nat.div_eq_of_lt inside,
    Nat.add_zero]

theorem eq_of_place_eq {width column row x y : Nat} (columnInside : column < width)
    (xInside : x < width) (same : row * width + column = y * width + x) :
    column = x ∧ row = y := by
  have remainders := congrArg (· % width) same
  have quotients := congrArg (· / width) same
  simp only [place_mod columnInside, place_mod xInside] at remainders
  simp only [place_div columnInside, place_div xInside] at quotients
  exact ⟨remainders, quotients⟩

/-- Packing puts each dot below the ones before it, so the latest dot is the lowest bit. -/
theorem getLsbD_packed (dot : Nat → Bool) (count index : Nat) (short : count ≤ 8) :
    ((List.range count).foldl
      (fun (byte : UInt8) place => byte <<< 1 ||| (if dot place then 1 else 0)) 0
        ).toBitVec.getLsbD index =
      (decide (index < count) && dot (count - 1 - index)) := by
  induction count generalizing index with
  | zero => simp
  | succ count inductionHypothesis =>
    have shorter : count ≤ 8 := by omega
    simp only [List.range_succ, List.foldl_append, List.foldl_cons, List.foldl_nil,
      UInt8.toBitVec_or, UInt8.toBitVec_shiftLeft, BitVec.getLsbD_or]
    cases index with
    | zero => by_cases black : dot count = true <;> simp [black]
    | succ index =>
      have lowest :
          (if dot count then (1 : UInt8) else 0).toBitVec.getLsbD (index + 1) = false := by
        by_cases black : dot count = true <;> simp [black]
      have place : count - (index + 1) = count - 1 - index := by omega
      simp [lowest, inductionHypothesis index shorter, place]
      omega

theorem toBitVec_dotMask (x : Nat) : (dotMask x).toBitVec = BitVec.twoPow 8 (7 - x % 8) := by
  have bounded : x % 8 < 8 := Nat.mod_lt x (by decide)
  unfold dotMask
  generalize x % 8 = place at bounded
  revert place
  decide

theorem and_dotMask_ne_zero (byte : UInt8) (x : Nat) :
    (byte &&& dotMask x != 0) = byte.toBitVec.getLsbD (7 - x % 8) := by
  have nonzero : ¬BitVec.twoPow 8 (7 - x % 8) = 0#8 := by
    intro zero
    have magnitude := congrArg BitVec.toNat zero
    rw [BitVec.toNat_twoPow_of_lt (by omega)] at magnitude
    simp at magnitude
  have selected : byte &&& dotMask x = 0 ↔ byte.toBitVec.getLsbD (7 - x % 8) = false := by
    rw [← UInt8.toBitVec_inj, UInt8.toBitVec_and, toBitVec_dotMask, BitVec.and_twoPow]
    cases byte.toBitVec.getLsbD (7 - x % 8) <;> simp [nonzero]
  cases black : byte.toBitVec.getLsbD (7 - x % 8) with
  | false => simp [selected.mpr black]
  | true =>
    rw [bne_iff_ne, ne_eq, selected, black]
    decide

theorem packByte_and_dotMask (dot : Nat → Bool) (x : Nat) :
    (packByte dot &&& dotMask x != 0) = dot (x % 8) := by
  have bounded : 7 - x % 8 < 8 := by omega
  have place : 8 - 1 - (7 - x % 8) = x % 8 := by omega
  rw [and_dotMask_ne_zero, packByte, getLsbD_packed dot 8 _ (Nat.le_refl 8), place]
  simp [bounded]

namespace Bitmap

theorem place_lt_size {bitmap : Bitmap} {place y : Nat} (inRow : place < bitmap.widthBytes)
    (above : y < bitmap.height) : y * bitmap.widthBytes + place < bitmap.data.size := by
  rw [bitmap.size_data, Nat.mul_comm (bytesPerRow bitmap.width)]
  exact place_lt inRow above

theorem width_le_eight_mul_widthBytes (bitmap : Bitmap) :
    bitmap.width ≤ 8 * bitmap.widthBytes := by
  unfold widthBytes bytesPerRow
  omega

/-- The data reaches as far as the last dot of the last row. -/
theorem get?_eq_some_get {bitmap : Bitmap} {x y : Nat} (inside : x < bitmap.width)
    (above : y < bitmap.height) : bitmap.get? x y = some (bitmap.get x y) := by
  have wide := bitmap.width_le_eight_mul_widthBytes
  have byteInRow : x / 8 < bitmap.widthBytes := by omega
  have inData : bitmap.byteIndex x y < bitmap.data.size := place_lt_size byteInRow above
  simp [get, get?, inData]

/-- The dot of a bitmap that a function describes: that of the function inside the width, and white
in the rest of the last byte of a row. -/
theorem get?_ofFn (width height : Nat) (isBlack : Nat → Nat → Bool) {x y : Nat}
    (inRow : x < 8 * bytesPerRow width) (above : y < height) :
    (ofFn width height isBlack).get? x y = some (decide (x < width) && isBlack x y) := by
  have byteInRow : x / 8 < bytesPerRow width := by omega
  have inside : y * bytesPerRow width + x / 8 < bytesPerRow width * height := by
    rw [Nat.mul_comm (bytesPerRow width) height]
    exact place_lt byteInRow above
  have column := place_mod byteInRow y
  have row := place_div byteInRow y
  have dot : x / 8 * 8 + x % 8 = x := by omega
  have lookup : (ofFn width height isBlack).data[y * bytesPerRow width + x / 8]? =
      some (packByte fun offset =>
        x / 8 * 8 + offset < width && isBlack (x / 8 * 8 + offset) y) := by
    simp [ofFn, inside, column, row]
  unfold get? byteIndex widthBytes
  rw [show (ofFn width height isBlack).width = width from rfl, lookup, Option.map_some,
    packByte_and_dotMask, dot]

/-- Only the dots inside count in a bitmap that a function describes. -/
theorem ofFn_congr {width height : Nat} {isBlack other : Nat → Nat → Bool}
    (same : ∀ x y, x < width → y < height → isBlack x y = other x y) :
    ofFn width height isBlack = ofFn width height other := by
  have sameDot (index : Fin (bytesPerRow width * height)) (offset : Nat) :
      (decide (index % bytesPerRow width * 8 + offset < width) &&
          isBlack (index % bytesPerRow width * 8 + offset) (index / bytesPerRow width)) =
        (decide (index % bytesPerRow width * 8 + offset < width) &&
          other (index % bytesPerRow width * 8 + offset) (index / bytesPerRow width)) := by
    have above : index / bytesPerRow width < height := Nat.div_lt_of_lt_mul index.isLt
    by_cases inside : index % bytesPerRow width * 8 + offset < width
    · rw [same _ _ inside above]
    · simp [inside]
  simp only [ofFn, sameDot]

end Bitmap

end ThermalPrint
