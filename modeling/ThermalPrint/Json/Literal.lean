/-!
Integers as JSON text writes them, with as many digits as they need.
-/

namespace ThermalPrint.Json

/-- An integer as JSON text writes it: decimal digits, with a minus sign in front of them if it is
negative. Only zero starts with the digit zero. -/
structure IntegerLiteral where
  negative : Bool
  digits : List Char
  areDigits : ∀ digit ∈ digits, digit.isDigit = true := by simp
  isWritten : digits ≠ [] := by simp
  isShortest : digits.head? = some '0' → digits = ['0'] := by simp

namespace IntegerLiteral

def characters (literal : IntegerLiteral) : List Char :=
  if literal.negative then '-' :: literal.digits else literal.digits

def text (literal : IntegerLiteral) : String :=
  String.ofList literal.characters

def magnitude (literal : IntegerLiteral) : Nat :=
  Nat.ofDigitChars 10 literal.digits 0

/-- The integer that is written. Minus zero is zero. -/
def value (literal : IntegerLiteral) : Int :=
  if literal.negative then -(literal.magnitude : Int) else literal.magnitude

end IntegerLiteral

end ThermalPrint.Json
