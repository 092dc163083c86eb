/-!
Integers written in decimal, with an optional sign.
-/

namespace ThermalPrint.Text

def valueOfDigits (digits : List Char) : Nat :=
  digits.foldl (fun value digit => value * 10 + (digit.toNat - '0'.toNat)) 0

def natural? (text : List Char) : Option Nat :=
  if text.isEmpty || !text.all Char.isDigit then none else some (valueOfDigits text)

/-- The integer that a text of decimal digits, after at most one sign, stands for. -/
def integer? : List Char → Option Int
  | '-' :: digits => (natural? digits).map fun magnitude => -(magnitude : Int)
  | '+' :: digits => (natural? digits).map Int.ofNat
  | digits => (natural? digits).map Int.ofNat

end ThermalPrint.Text

namespace ThermalPrint

/-- An integer as a 64-bit word, if it fits. -/
def int64? (value : Int) : Option Int64 :=
  if Int64.minValue.toInt ≤ value ∧ value ≤ Int64.maxValue.toInt then some (.ofInt value)
  else none

end ThermalPrint
