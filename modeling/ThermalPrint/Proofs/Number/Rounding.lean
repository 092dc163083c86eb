import Mathlib.Algebra.Order.Field.Power
import Mathlib.Algebra.Order.Field.Rat
import Mathlib.Tactic.Positivity
import Mathlib.Tactic.Ring
import ThermalPrint.Number.Binary64

/-!
# Rounding does not pass a number of the format

A quotient that is not below a number of the format is not rounded below it. The mantissa is found
on a grid: if the number lies on the grid, the whole number nearest to the scaled quotient is not
below it, and if it lies on a finer grid only, it is below all that a full mantissa can be.
-/

namespace ThermalPrint

theorem div_le_roundHalfEven (numerator denominator : Nat) :
    numerator / denominator ≤ roundHalfEven numerator denominator := by
  simp only [roundHalfEven]
  split
  · exact Nat.le_refl _
  · split <;> exact Nat.le_add_right _ _

theorem le_roundHalfEven {least numerator denominator : Nat} (positive : 0 < denominator)
    (atLeast : (least : ℚ) ≤ numerator / denominator) :
    least ≤ roundHalfEven numerator denominator := by
  apply Nat.le_trans ?_ (div_le_roundHalfEven numerator denominator)
  rw [Nat.le_div_iff_mul_le positive, ← Nat.cast_le (α := ℚ), Nat.cast_mul]
  rwa [le_div_iff₀ (Nat.cast_pos.mpr positive)] at atLeast

namespace Binary64

/-- The number without its sign. -/
def magnitude (number : Binary64) : ℚ :=
  number.mantissa * 2 ^ number.exponent

theorem magnitude_nonneg (number : Binary64) : 0 ≤ number.magnitude := by
  unfold magnitude
  positivity

theorem ratio_pos (number : Binary64) : 0 < number.ratio.2 := by
  unfold ratio
  split
  · exact Nat.one_pos
  · rw [Nat.one_shiftLeft]
    positivity

theorem ratio_eq_magnitude (number : Binary64) :
    (number.ratio.1 : ℚ) / number.ratio.2 = number.magnitude := by
  unfold ratio magnitude
  split
  · rename_i power isPower
    rw [isPower]
    simp [Nat.shiftLeft_eq]
  · rename_i power isPower
    rw [isPower]
    simp [Nat.shiftLeft_eq, zpow_negSucc, div_eq_mul_inv]

theorem le_wholeMagnitude_iff (number : Binary64) (least : Nat) :
    least ≤ number.wholeMagnitude ↔ (least : ℚ) ≤ number.magnitude := by
  rw [wholeMagnitude, Nat.le_div_iff_mul_le number.ratio_pos, ← ratio_eq_magnitude,
    le_div_iff₀ (Nat.cast_pos.mpr number.ratio_pos)]
  exact_mod_cast Iff.rfl

theorem scaleDown_pos {numerator denominator : Nat} (positive : 0 < denominator) (exponent : Int) :
    0 < (scaleDown numerator denominator exponent).2 := by
  cases exponent with
  | ofNat power =>
    rw [scaleDown, Nat.shiftLeft_eq]
    positivity
  | negSucc power => exact positive

theorem scaleDown_eq (numerator denominator : Nat) (exponent : Int) :
    ((scaleDown numerator denominator exponent).1 : ℚ) /
        (scaleDown numerator denominator exponent).2 =
      numerator / denominator / 2 ^ exponent := by
  cases exponent with
  | ofNat power => simp [scaleDown, Nat.shiftLeft_eq, div_div]
  | negSucc power =>
    simp [scaleDown, Nat.shiftLeft_eq, zpow_negSucc]
    ring

/-- A quotient is at least the power of two that the lengths of its numbers promise. -/
theorem two_zpow_le_div {numerator denominator : Nat} (numeratorPositive : 0 < numerator)
    (positive : 0 < denominator) :
    (2 : ℚ) ^ ((numerator.log2 : Int) - denominator.log2 - 1) ≤ numerator / denominator := by
  have least : (2 : ℚ) ^ numerator.log2 ≤ numerator := by
    exact_mod_cast Nat.log2_self_le numeratorPositive.ne'
  have greatest : (denominator : ℚ) ≤ 2 ^ (denominator.log2 + 1) := by
    exact_mod_cast Nat.lt_log2_self.le
  rw [le_div_iff₀ (Nat.cast_pos.mpr positive)]
  calc (2 : ℚ) ^ ((numerator.log2 : Int) - denominator.log2 - 1) * denominator
      ≤ 2 ^ ((numerator.log2 : Int) - denominator.log2 - 1) * 2 ^ (denominator.log2 + 1) := by
        gcongr
    _ = 2 ^ numerator.log2 := by
        rw [← zpow_natCast 2 (denominator.log2 + 1), ← zpow_add₀ two_ne_zero, ← zpow_natCast]
        congr 1
        push_cast
        ring
    _ ≤ numerator := least

/-- Above the least exponent mantissas are full. -/
theorem two_pow_le_div_exponentOf {numerator denominator : Nat} (numeratorPositive : 0 < numerator)
    (positive : 0 < denominator)
    (above : leastExponent < exponentOf numerator denominator) :
    (2 : ℚ) ^ (precision - 1) ≤
      numerator / denominator / 2 ^ exponentOf numerator denominator := by
  obtain ⟨estimate, isEstimate⟩ : ∃ estimate : Int,
      estimate = numerator.log2 - denominator.log2 - (precision - 1 : Nat) := ⟨_, rfl⟩
  obtain ⟨scaled, isScaled⟩ : ∃ scaled, scaled = scaleDown numerator denominator estimate :=
    ⟨_, rfl⟩
  have unfolded : exponentOf numerator denominator =
      max (if scaled.1 < scaled.2 <<< (precision - 1) then estimate - 1 else estimate)
        leastExponent := by
    rw [isScaled, isEstimate]
    rfl
  split at unfolded
  · -- The estimate was one too great, and the lengths of the numbers suffice for the one below.
    have exact : exponentOf numerator denominator = estimate - 1 := by omega
    have lengths := two_zpow_le_div numeratorPositive positive
    have sum : ((precision - 1 : Nat) : Int) + (estimate - 1) =
        numerator.log2 - denominator.log2 - 1 := by
      rw [isEstimate]
      ring
    rw [exact, le_div_iff₀ (by positivity), ← zpow_natCast, ← zpow_add₀ two_ne_zero, sum]
    exact lengths
  · rename_i full
    have exact : exponentOf numerator denominator = estimate := by omega
    have scaledPositive : 0 < scaled.2 := isScaled ▸ scaleDown_pos positive estimate
    rw [exact, ← scaleDown_eq, ← isScaled, le_div_iff₀ (Nat.cast_pos.mpr scaledPositive)]
    rw [not_lt, Nat.shiftLeft_eq, Nat.mul_comm] at full
    exact_mod_cast full

/-- The mantissa of a quotient, before it is carried into the exponent. -/
def mantissaOf (numerator denominator : Nat) : Nat :=
  roundHalfEven (scaleDown numerator denominator (exponentOf numerator denominator)).1
    (scaleDown numerator denominator (exponentOf numerator denominator)).2

theorem le_mantissaOf {numerator denominator least : Nat} (positive : 0 < denominator)
    (atLeast : (least : ℚ) ≤ numerator / denominator / 2 ^ exponentOf numerator denominator) :
    least ≤ mantissaOf numerator denominator := by
  rw [← scaleDown_eq] at atLeast
  rw [mantissaOf]
  exact le_roundHalfEven (scaleDown_pos positive _) atLeast

theorem magnitude_of_ofRatio? {negative : Bool} {numerator denominator : Nat} {number : Binary64}
    (numeratorPositive : 0 < numerator)
    (rounded : ofRatio? negative numerator denominator = some number) :
    number.magnitude =
      mantissaOf numerator denominator * 2 ^ exponentOf numerator denominator := by
  rw [mantissaOf]
  simp only [ofRatio?, if_neg numeratorPositive.ne'] at rounded
  generalize exponentOf numerator denominator = exponent at rounded ⊢
  generalize roundHalfEven _ _ = mantissa at rounded ⊢
  by_cases carried : mantissa = 1 <<< precision
  · simp only [carried, if_true] at rounded
    split at rounded
    · cases rounded
    · cases rounded
      rw [magnitude, carried, zpow_add_one₀ two_ne_zero, Nat.one_shiftLeft, Nat.one_shiftLeft]
      norm_num [precision]
      ring
  · simp only [carried, if_false] at rounded
    split at rounded
    · cases rounded
    · cases rounded
      rfl

/-- What lies on a finer grid is not above the least full mantissa. -/
theorem mul_two_zpow_le_of_lt {mantissa : Nat} {exponent greater : Int}
    (fits : mantissa ≤ 2 ^ precision) (finer : exponent < greater) :
    (mantissa : ℚ) * 2 ^ exponent ≤ 2 ^ (precision - 1) * 2 ^ greater := by
  have bound : (mantissa : ℚ) ≤ 2 ^ precision := by exact_mod_cast fits
  calc (mantissa : ℚ) * 2 ^ exponent ≤ 2 ^ precision * 2 ^ (greater - 1) := by
        gcongr
        · norm_num
        · omega
    _ = 2 ^ (precision - 1) * 2 ^ greater := by
        rw [zpow_sub_one₀ two_ne_zero]
        norm_num [precision]
        ring

/-- A quotient that is not below a number of the format is not rounded below it. -/
theorem le_magnitude_of_ofRatio? {negative : Bool} {numerator denominator : Nat}
    {number : Binary64} (positive : 0 < denominator)
    (rounded : ofRatio? negative numerator denominator = some number) {mantissa : Nat}
    {exponent : Int} (fits : mantissa ≤ 2 ^ precision) (normal : leastExponent ≤ exponent)
    (atLeast : (mantissa : ℚ) * 2 ^ exponent ≤ numerator / denominator) :
    (mantissa : ℚ) * 2 ^ exponent ≤ number.magnitude := by
  rcases Nat.eq_zero_or_pos numerator with rfl | numeratorPositive
  · rw [ofRatio?, if_pos rfl] at rounded
    cases rounded
    simpa [zero, magnitude] using atLeast
  have scale : (0 : ℚ) < 2 ^ exponentOf numerator denominator := by positivity
  rw [magnitude_of_ofRatio? numeratorPositive rounded]
  rcases le_or_gt (exponentOf numerator denominator) exponent with onGrid | finer
  · obtain ⟨power, rfl⟩ := Int.le.dest onGrid
    have whole : (mantissa : ℚ) * 2 ^ (exponentOf numerator denominator + power) =
        (mantissa * 2 ^ power : Nat) * 2 ^ exponentOf numerator denominator := by
      rw [zpow_add₀ two_ne_zero, zpow_natCast]
      push_cast
      ring
    rw [whole] at atLeast ⊢
    rw [← le_div_iff₀ scale] at atLeast
    gcongr
    exact le_mantissaOf positive atLeast
  · have full : 2 ^ (precision - 1) ≤ mantissaOf numerator denominator := by
      apply le_mantissaOf positive
      exact_mod_cast two_pow_le_div_exponentOf numeratorPositive positive (by omega)
    apply (mul_two_zpow_le_of_lt fits finer).trans
    apply mul_le_mul_of_nonneg_right _ scale.le
    exact_mod_cast full

/-- A product that is not below a number of the format is not rounded below it. -/
theorem le_magnitude_of_mul? {left right number : Binary64}
    (rounded : left.mul? right = some number) {mantissa : Nat} {exponent : Int}
    (fits : mantissa ≤ 2 ^ precision) (normal : leastExponent ≤ exponent)
    (atLeast : (mantissa : ℚ) * 2 ^ exponent ≤ left.magnitude * right.magnitude) :
    (mantissa : ℚ) * 2 ^ exponent ≤ number.magnitude := by
  rw [← ratio_eq_magnitude, ← ratio_eq_magnitude, div_mul_div_comm] at atLeast
  apply le_magnitude_of_ofRatio? (Nat.mul_pos left.ratio_pos right.ratio_pos) rounded fits normal
  exact_mod_cast atLeast

/-- Next to 2^63 the format holds the multiples of 2^11. -/
theorem ofRatio?_near {whole : Nat} (negative : Bool) (atLeast : 2 ^ 63 ≤ whole)
    (near : whole < 2 ^ 63 + 2 ^ 11) :
    ofRatio? negative whole 1 =
      some ⟨negative, if whole ≤ 2 ^ 63 + 2 ^ 10 then 2 ^ 52 else 2 ^ 52 + 1, 11⟩ := by
  have length : whole.log2 = 63 := by
    rw [Nat.log2_eq_iff (by omega)]
    omega
  have estimate : ((63 : Nat) : Int) - (1 : Nat).log2 - (precision - 1 : Nat) = .ofNat 11 := rfl
  have exponent : exponentOf whole 1 = 11 := by
    have full : ¬whole < 1 <<< 11 <<< (precision - 1) := by
      rw [not_lt]
      exact atLeast
    simp only [exponentOf, length, estimate, scaleDown, full, if_false]
    rfl
  have mantissa : roundHalfEven whole (2 ^ 11) =
      if whole ≤ 2 ^ 63 + 2 ^ 10 then 2 ^ 52 else 2 ^ 52 + 1 := by
    simp only [roundHalfEven]
    split
    · split <;> omega
    · split <;> split <;> omega
  rw [ofRatio?, if_neg (by omega), exponent]
  simp only [scaleDown, Nat.one_shiftLeft, mantissa]
  split <;> rfl

/-- Above the middle between 2^63 and the number after it nothing is rounded down to 2^63. -/
theorem le_magnitude_of_far {whole : Nat} {negative : Bool} {number : Binary64}
    (rounded : ofRatio? negative whole 1 = some number) (far : 2 ^ 63 + 2 ^ 10 < whole) :
    ((2 ^ 52 + 1 : Nat) : ℚ) * 2 ^ (11 : Int) ≤ number.magnitude := by
  by_cases near : whole < 2 ^ 63 + 2 ^ 11
  · rw [ofRatio?_near negative (by omega) near, if_neg (by omega)] at rounded
    cases rounded
    exact le_refl _
  · apply le_magnitude_of_ofRatio? Nat.one_pos rounded (by decide) (by decide)
    rw [not_lt, ← Nat.cast_le (α := ℚ)] at near
    norm_num at near ⊢
    exact near

end Binary64

end ThermalPrint
