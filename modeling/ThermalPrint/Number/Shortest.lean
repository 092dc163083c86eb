import ThermalPrint.Number.Binary64

/-!
The shortest decimal that reads back as a given binary64 number. Of the decimals with the fewest
digits that lie in the interval which rounds to the number, the nearest one is taken, and of two
equally near ones that with the even last digit.
-/

namespace ThermalPrint

/-- A positive decimal, `digits * 10 ^ exponent`. -/
structure Decimal where
  digits : Nat
  exponent : Int
  deriving DecidableEq, Repr

namespace Decimal

/-- The digits as characters, the first one not zero. -/
def characters (decimal : Decimal) : List Char :=
  Nat.toDigits 10 decimal.digits

def leadingExponent (decimal : Decimal) : Int :=
  decimal.exponent + decimal.characters.length - 1

/-- Moves the zeros at the end of the digits into the exponent, at most `bound` of them. -/
def dropZeros : (bound : Nat) → Decimal → Decimal
  | 0, decimal => decimal
  | bound + 1, decimal =>
    if decimal.digits ≠ 0 ∧ decimal.digits % 10 = 0 then
      dropZeros bound ⟨decimal.digits / 10, decimal.exponent + 1⟩
    else decimal

end Decimal

namespace Binary64

/-- The interval of magnitudes that round to a positive number: four times the magnitude and of
the two ends, as numerators over a common denominator, and whether the ends belong to it. -/
structure Neighbourhood where
  value : Nat
  lower : Nat
  upper : Nat
  denominator : Nat
  closed : Bool

def neighbourhood (number : Binary64) : Neighbourhood :=
  let below :=
    if number.mantissa = 1 <<< (precision - 1) ∧ leastExponent < number.exponent then 1 else 2
  let value := 4 * number.mantissa
  let closed := number.mantissa % 2 == 0
  match number.exponent - 2 with
  | .ofNat power =>
    ⟨value <<< power, (value - below) <<< power, (value + 2) <<< power, 1, closed⟩
  | .negSucc power => ⟨value, value - below, value + 2, 1 <<< (power + 1), closed⟩

def leadingPower (numerator denominator : Nat) : Int :=
  if denominator ≤ numerator then
    (Nat.toDigits 10 (numerator / denominator)).length - 1
  else
    -((Nat.toDigits 10 ((denominator - 1) / numerator)).length : Int)

/-- The nearest multiple of a power of ten that lies in the neighbourhood. -/
def onGrid? (around : Neighbourhood) (power : Int) : Option Decimal :=
  let step := around.denominator * Nat.pow 10 power.toNat
  let scale := Nat.pow 10 (-power).toNat
  let value := around.value * scale
  let lower := around.lower * scale
  let upper := around.upper * scale
  let isInside (point : Nat) : Bool :=
    if around.closed then lower ≤ point && point ≤ upper else lower < point && point < upper
  let low := value / step
  let lowInside := isInside (low * step)
  let highInside := isInside ((low + 1) * step)
  if lowInside && highInside then
    some ⟨roundHalfEven value step, power⟩
  else if lowInside then some ⟨low, power⟩
  else if highInside then some ⟨low + 1, power⟩
  else none

/-- The first grid, from coarse to fine, that has a point in the neighbourhood. -/
def firstGrid (around : Neighbourhood) (power : Int) : (digits : Nat) → Decimal
  | 0 => ⟨around.value / around.denominator, 0⟩
  | digits + 1 => (onGrid? around power).getD (firstGrid around (power - 1) digits)

/-- The shortest decimal that reads back as a positive number. -/
def shortest (number : Binary64) : Decimal :=
  let around := number.neighbourhood
  (firstGrid around (leadingPower around.value around.denominator) 17).dropZeros 17

end Binary64

end ThermalPrint
