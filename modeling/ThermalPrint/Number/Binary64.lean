/-!
Finite numbers of the binary64 format, with exact rounding in natural numbers. A number is read as
`mantissa * 2 ^ exponent`, negated if `negative` holds. Rounding goes to the nearest number of the
format, and a tie goes to the even mantissa.
-/

namespace ThermalPrint

/-- A finite number of the binary64 format. -/
structure Binary64 where
  negative : Bool
  mantissa : Nat
  exponent : Int
  deriving DecidableEq, Repr

/-- The whole number nearest to a quotient, the even one of two that are equally near. -/
def roundHalfEven (numerator denominator : Nat) : Nat :=
  let quotient := numerator / denominator
  let remainder := numerator % denominator
  if 2 * remainder < denominator then quotient
  else if denominator < 2 * remainder then quotient + 1
  else quotient + quotient % 2

namespace Binary64

/-- Mantissas have this many bits. -/
def precision : Nat := 53

/-- The least exponent, that of the subnormal numbers. -/
def leastExponent : Int := -1074

/-- The greatest exponent of a finite number. -/
def greatestExponent : Int := 971

def zero (negative : Bool) : Binary64 := ⟨negative, 0, leastExponent⟩

/-- A quotient divided by a power of two, as numerator and denominator. -/
def scaleDown (numerator denominator : Nat) : Int → Nat × Nat
  | .ofNat power => (numerator, denominator <<< power)
  | .negSucc power => (numerator <<< (power + 1), denominator)

/-- The exponent of the number nearest to a positive quotient, before rounding. -/
def exponentOf (numerator denominator : Nat) : Int :=
  let estimate : Int := numerator.log2 - denominator.log2 - (precision - 1 : Nat)
  let (top, bottom) := scaleDown numerator denominator estimate
  let exact := if top < bottom <<< (precision - 1) then estimate - 1 else estimate
  max exact leastExponent

/-- The number nearest to a quotient of naturals, and none if that is infinite. -/
def ofRatio? (negative : Bool) (numerator denominator : Nat) : Option Binary64 :=
  if numerator = 0 then some (zero negative)
  else
    let exponent := exponentOf numerator denominator
    let (top, bottom) := scaleDown numerator denominator exponent
    let mantissa := roundHalfEven top bottom
    let (mantissa, exponent) :=
      if mantissa = 1 <<< precision then (1 <<< (precision - 1), exponent + 1)
      else (mantissa, exponent)
    if greatestExponent < exponent then none else some ⟨negative, mantissa, exponent⟩

def ratio (number : Binary64) : Nat × Nat :=
  match number.exponent with
  | .ofNat power => (number.mantissa <<< power, 1)
  | .negSucc power => (number.mantissa, 1 <<< (power + 1))

def wholeMagnitude (number : Binary64) : Nat :=
  number.ratio.1 / number.ratio.2

/-- The number without its fraction. -/
def truncate (number : Binary64) : Int :=
  if number.negative then -(number.wholeMagnitude : Int) else number.wholeMagnitude

/-- The product, rounded once. -/
def mul? (left right : Binary64) : Option Binary64 :=
  ofRatio? (left.negative != right.negative)
    (left.ratio.1 * right.ratio.1) (left.ratio.2 * right.ratio.2)

/-- The quotient by a number other than zero, rounded once. -/
def div? (left right : Binary64) : Option Binary64 :=
  ofRatio? (left.negative != right.negative)
    (left.ratio.1 * right.ratio.2) (left.ratio.2 * right.ratio.1)

def ofNat? (value : Nat) : Option Binary64 :=
  ofRatio? false value 1

end Binary64

end ThermalPrint
