import ThermalPrint.Receipt.Refusal
import ThermalPrint.Text.Integer

/-!
Loose readings of a few fields. A font size may come as a number or spelled out in a string, and an
underline flag as a boolean or a string. Other fields are read strictly.
-/

namespace ThermalPrint.Loose

/-- The greatest magnitude of a real that counts as a 64-bit integer. -/
def realBound : Nat := 1 <<< 63

def clamp (value : Int) : Int64 :=
  .ofInt (max Int64.minValue.toInt (min Int64.maxValue.toInt value))

/-- The whole part of a real as a 64-bit integer. -/
def integerOfReal? (real : Binary64) : Option Int64 :=
  if real.wholeMagnitude ≤ realBound then some (clamp real.truncate) else none

/-- The font size that a number stands for. A whole number that does not fit 64 bits with a sign
counts as the nearest real, and a real loses its fraction. -/
def sizeOfNumber? : Json.Number → Option Int64
  | .whole value =>
    match int64? value with
    | some size => some size
    | none =>
      (Binary64.ofRatio? (decide (value < 0)) value.natAbs 1).bind integerOfReal?
  | .real value => integerOfReal? value

def fontSize : Json → Except Reason Int64
  | .number value =>
    match sizeOfNumber? value with
    | some size => .ok size
    | none => .error (.outOfRange value)
  | .string text =>
    match (Text.integer? text.toList).bind int64? with
    | some size => .ok size
    | none => .error (.notIntegerText text)
  | value => .error (.mistyped .numberOrString value.shape)

/-- Reads an underline flag. Of all strings, only `true` sets it. -/
def underline : Json → Except Reason Bool
  | .boolean value => .ok value
  | .string text => .ok (text == "true")
  | value => .error (.mistyped .booleanOrString value.shape)

def integer : Json → Except Reason Int64
  | .number (.whole value) =>
    match int64? value with
    | some size => .ok size
    | none => .error (.notInteger (.whole value))
  | .number value => .error (.notInteger value)
  | value => .error (.mistyped .integer value.shape)

def string : Json → Except Reason String
  | .string text => .ok text
  | value => .error (.mistyped .string value.shape)

end ThermalPrint.Loose
