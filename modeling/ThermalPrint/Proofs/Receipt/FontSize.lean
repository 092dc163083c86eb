import Mathlib.Tactic.Linarith
import ThermalPrint.Proofs.Json.Literal
import ThermalPrint.Proofs.Number.Rounding
import ThermalPrint.Proofs.Receipt.Grammar

/-!
# Font sizes as numbers and as strings

A font size is given by an integer literal, on its own or in a string. In a string it has to fit 64
bits. On its own it may pass the bounds by as much as rounding takes back, and then stands for the
bound that it passes.
-/

namespace ThermalPrint

/-! ## Reals of long literals -/

namespace Json.Significand

/-- A significand is read with two roundings, and neither passes a number of the format. -/
theorem le_magnitude_of_real? {digits power least scale : Nat} {exponent : Int}
    {number : Binary64} (read : real? ⟨digits, power⟩ = some number)
    (digitsAtLeast : ∀ rounded, Binary64.ofNat? digits = some rounded →
      (least : ℚ) * 2 ^ exponent ≤ rounded.magnitude)
    (powerAtLeast : scale ≤ 10 ^ power) (positive : 0 < least)
    (fits : least * scale ≤ 2 ^ Binary64.precision) (normal : Binary64.leastExponent ≤ exponent) :
    ((least * scale : Nat) : ℚ) * 2 ^ exponent ≤ number.magnitude := by
  obtain ⟨rounded, isRounded, read⟩ := Option.bind_eq_some_iff.mp read
  have atLeast := digitsAtLeast rounded isRounded
  have notZero : rounded.mantissa ≠ 0 := by
    intro zero
    have smallest : (0 : ℚ) < least * 2 ^ exponent := by positivity
    simp only [Binary64.magnitude, zero, Nat.cast_zero, zero_mul] at atLeast
    linarith
  simp only [notZero, if_false] at read
  split at read
  · obtain ⟨factor, isFactor, product⟩ := Option.bind_eq_some_iff.mp read
    have scaleFits : scale ≤ 2 ^ Binary64.precision :=
      (Nat.le_mul_of_pos_left scale positive).trans fits
    have factorAtLeast : (scale : ℚ) * 2 ^ (0 : Int) ≤ factor.magnitude := by
      rw [powerOfTen, Binary64.ofNat?] at isFactor
      apply Binary64.le_magnitude_of_ofRatio? Nat.one_pos isFactor scaleFits (by decide)
      rw [Nat.cast_one, div_one, zpow_zero, mul_one]
      exact_mod_cast powerAtLeast
    apply Binary64.le_magnitude_of_mul? product fits normal
    calc ((least * scale : Nat) : ℚ) * 2 ^ exponent
        = (least * 2 ^ exponent) * (scale * 2 ^ (0 : Int)) := by
          push_cast
          ring
      _ ≤ rounded.magnitude * factor.magnitude :=
          mul_le_mul atLeast factorAtLeast (by positivity) rounded.magnitude_nonneg
  · cases read

end Json.Significand

/-! ## Sizes -/

namespace Loose

open Json

/-- The size that a number stands for as it is read, if it is read. -/
def sizeOfReading? : Except Json.Fault (Json.Number × List Char) → Option Int64
  | .ok (read, _) => sizeOfNumber? read
  | .error _ => none

theorem sizeOfReading?_endReal (negative : Bool) (significand : Significand) (rest : List Char) :
    sizeOfReading? (endReal negative significand rest) =
      significand.real?.bind fun magnitude => integerOfReal? { magnitude with negative } := by
  unfold endReal
  cases significand.real? <;> rfl

/-- A negative integer below all sizes counts as the least if it is rounded to -2^63. -/
theorem sizeOfReading?_endReal_of_great {whole : Nat} (great : 2 ^ 63 ≤ whole)
    (rest : List Char) : sizeOfReading? (endReal true ⟨whole, 0⟩ rest) =
      if whole ≤ 2 ^ 63 + 2 ^ 10 then some Int64.minValue else none := by
  rw [sizeOfReading?_endReal]
  by_cases near : whole ≤ 2 ^ 63 + 2 ^ 10
  · have nearest : Binary64.ofNat? whole = some ⟨false, 2 ^ 52, 11⟩ := by
      rw [Binary64.ofNat?, Binary64.ofRatio?_near false great (by omega), if_pos near]
    have real : Significand.real? ⟨whole, 0⟩ = some ⟨false, 2 ^ 52, 11⟩ := by
      simp only [Significand.real?, nearest]
      rfl
    rw [real, if_pos near]
    exact integerOfReal?_of_near true
  · rw [if_neg near, Option.bind_eq_none_iff]
    intro magnitude read
    have far := Significand.le_magnitude_of_real? read
      (fun rounded isRounded => Binary64.le_magnitude_of_far isRounded (Nat.not_le.mp near))
      (Nat.le_refl 1) (by decide) (by decide) (by decide)
    apply integerOfReal?_of_far true (le_trans _ far)
    norm_num

/-- A number of which digits are left over is out of range. -/
theorem sizeOfReading?_endReal_of_excess {gathered excess : Nat} (negative : Bool)
    (great : wordBound ≤ gathered * 10 + 9) (rest : List Char) :
    sizeOfReading? (endReal negative ⟨gathered, (excess + 1 : Nat)⟩ rest) = none := by
  rw [sizeOfReading?_endReal, Option.bind_eq_none_iff]
  intro magnitude read
  have digitsAtLeast : 2 ^ 60 ≤ gathered := by
    have bound : wordBound = 2 ^ 64 := rfl
    omega
  have roundedAtLeast : ∀ rounded, Binary64.ofNat? gathered = some rounded →
      ((1 : Nat) : ℚ) * 2 ^ (60 : Int) ≤ rounded.magnitude := by
    intro rounded isRounded
    apply Binary64.le_magnitude_of_ofRatio? Nat.one_pos isRounded (by decide) (by decide)
    rw [Nat.cast_one, one_mul, div_one]
    exact_mod_cast digitsAtLeast
  have far := Significand.le_magnitude_of_real? read roundedAtLeast
    (Nat.le_self_pow (Nat.succ_ne_zero excess) 10) Nat.one_pos (by decide) (by decide)
  apply integerOfReal?_of_far negative (le_trans _ far)
  norm_num

/-! ## Literals -/

section

variable (literal : IntegerLiteral)

theorem sizeOfReading?_of_inside {size : Int64} (inside : literal.value = size.toInt) :
    sizeOfReading? (readNumber literal.negative literal.digits) = some size := by
  have atLeast := size.le_toInt
  have below := size.toInt_lt
  have bound : wordBound = 2 ^ 64 := rfl
  have least : leastMagnitude = 2 ^ 63 := rfl
  have isSize : int64? literal.value = some size := int64?_eq_some_iff.mpr inside
  unfold IntegerLiteral.value at inside isSize
  have fits : literal.magnitude < wordBound := by
    split at inside <;> omega
  rw [literal.readNumber_of_fits fits]
  cases sign : literal.negative with
  | false =>
    rw [sign] at isSize
    exact sizeOfNumber?_whole_of_fits isSize
  | true =>
    rw [sign, if_pos rfl] at inside isSize
    by_cases zero : literal.magnitude = 0
    · -- Minus zero is read as a real, and its whole part is zero.
      rw [zero] at isSize ⊢
      rw [← isSize]
      rfl
    · have notReal : ¬(literal.magnitude = 0 ∨ leastMagnitude < literal.magnitude) := by omega
      rw [endWhole, if_pos rfl, if_neg notReal]
      exact sizeOfNumber?_whole_of_fits isSize

theorem sizeOfReading?_of_great (great : wordBound ≤ literal.magnitude) :
    sizeOfReading? (readNumber literal.negative literal.digits) = none := by
  obtain ⟨gathered, excess, bound, reads⟩ := literal.readNumber_of_great great
  rw [reads, sizeOfReading?_endReal_of_excess _ bound]

theorem sizeOfReading?_of_above (above : Int64.maxValue.toInt < literal.value) :
    sizeOfReading? (readNumber literal.negative literal.digits) =
      if literal.value ≤ 2 ^ 63 + 2 ^ 10 then some Int64.maxValue else none := by
  have greatest : Int64.maxValue.toInt = 2 ^ 63 - 1 := by decide
  have bound : wordBound = 2 ^ 64 := rfl
  obtain ⟨sign, isValue⟩ := literal.value_of_pos (by omega)
  rw [isValue] at above ⊢
  by_cases fits : literal.magnitude < wordBound
  · have great : 2 ^ 63 ≤ literal.magnitude := by omega
    rw [literal.readNumber_of_fits fits, sign]
    exact sizeOfNumber?_whole_of_above above
  · rw [sizeOfReading?_of_great literal (Nat.not_lt.mp fits), if_neg (by omega)]

theorem sizeOfReading?_of_below (below : literal.value < Int64.minValue.toInt) :
    sizeOfReading? (readNumber literal.negative literal.digits) =
      if -2 ^ 63 - 2 ^ 10 ≤ literal.value then some Int64.minValue else none := by
  have least : Int64.minValue.toInt = -2 ^ 63 := by decide
  have leastReal : leastMagnitude = 2 ^ 63 := rfl
  have bound : wordBound = 2 ^ 64 := rfl
  obtain ⟨sign, isValue⟩ := literal.value_of_neg (by omega)
  rw [isValue] at below ⊢
  by_cases fits : literal.magnitude < wordBound
  · have isReal : literal.magnitude = 0 ∨ leastMagnitude < literal.magnitude := by omega
    rw [literal.readNumber_of_fits fits, sign, endWhole, if_pos rfl, if_pos isReal,
      sizeOfReading?_endReal_of_great (by omega)]
    congr 1
    rw [eq_iff_iff]
    omega
  · rw [sizeOfReading?_of_great literal (Nat.not_lt.mp fits), if_neg (by omega)]

/-- A literal stands for itself, or for the bound that rounding takes it back to. -/
theorem sizeOfReading?_eq_some_iff {size : Int64} :
    sizeOfReading? (readNumber literal.negative literal.digits) = some size ↔
      literal.value = size.toInt ∨ IsJustAbove literal.value ∧ size = Int64.maxValue ∨
        IsJustBelow literal.value ∧ size = Int64.minValue := by
  apply reading_eq_some_iff
  · intro own inside
    exact sizeOfReading?_of_inside literal inside
  · exact sizeOfReading?_of_above literal
  · exact sizeOfReading?_of_below literal

/-- A literal on its own and in a string. -/
theorem fontSize_parse_iff {size : Int64} :
    (∃ value, parse literal.text = .ok value ∧ fontSize value = .ok size) ↔
      sizeOfReading? (readNumber literal.negative literal.digits) = some size := by
  simp only [literal.parse_eq_ok_iff]
  constructor
  · rintro ⟨value, ⟨number, rfl, read⟩, isSize⟩
    rw [read]
    exact fontSize_number_eq_ok_iff.mp isSize
  · intro isSize
    cases read : readNumber literal.negative literal.digits with
    | error fault =>
      rw [read] at isSize
      cases isSize
    | ok result =>
      obtain ⟨number, rest⟩ := result
      obtain rfl := literal.rest_of_readNumber read
      rw [read] at isSize
      exact ⟨_, ⟨number, rfl, rfl⟩, fontSize_number_eq_ok_iff.mpr isSize⟩

end

end Loose

/-- A font size written as an integer literal. In a string the literal stands for itself, if it fits
64 bits. On its own it does so as well, but it also stands for the greatest or the least size if it
lies beyond it by no more than rounding takes back. -/
theorem fontSize_of_literal (literal : Json.IntegerLiteral) (size : Int64) :
    (Loose.fontSize (.string literal.text) = .ok size ↔ literal.value = size.toInt) ∧
    ((∃ value, Json.parse literal.text = .ok value ∧ Loose.fontSize value = .ok size) ↔
      literal.value = size.toInt ∨
        Loose.IsJustAbove literal.value ∧ size = Int64.maxValue ∨
        Loose.IsJustBelow literal.value ∧ size = Int64.minValue) := by
  constructor
  · rw [Loose.fontSize_string_eq_ok_iff, Json.IntegerLiteral.text, String.toList_ofList,
      literal.integer?_characters, Option.some.injEq]
  · rw [Loose.fontSize_parse_iff, Loose.sizeOfReading?_eq_some_iff]

/-- The integer above the greatest size. -/
def firstAboveSizes : Json.IntegerLiteral where
  negative := false
  digits :=
    ['9', '2', '2', '3', '3', '7', '2', '0', '3', '6', '8', '5', '4', '7', '7', '5', '8', '0', '8']

/-- The integer above the greatest size is taken for the greatest size, but in a string it is no
size. -/
theorem firstAboveSizes_is_lowered : firstAboveSizes.text = "9223372036854775808" ∧
    firstAboveSizes.value = Int64.maxValue.toInt + 1 ∧
    (∃ value, Json.parse firstAboveSizes.text = .ok value ∧
      Loose.fontSize value = .ok Int64.maxValue) ∧
    Loose.fontSize (.string firstAboveSizes.text) =
      .error (.notIntegerText firstAboveSizes.text) := by
  refine ⟨rfl, by decide, ⟨.number (.whole (2 ^ 63)), ?_, rfl⟩, rfl⟩
  rw [Json.IntegerLiteral.parse_eq_ok_iff]
  exact ⟨_, rfl, rfl⟩

end ThermalPrint
