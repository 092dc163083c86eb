import ThermalPrint.Json.Basic

/-!
The compact text of a JSON value: no blanks, members in their order, and only those characters of
a string escaped that have to be.
-/

namespace ThermalPrint

/-- The decimal digits of an integer, after a minus sign if it is negative. -/
def decimalOfInt : Int → List Char
  | .ofNat magnitude => Nat.toDigits 10 magnitude
  | .negSucc magnitude => '-' :: Nat.toDigits 10 (magnitude + 1)

namespace Json

structure RealLayout where
  /-- The least power of ten of the first digit that is written without exponent. -/
  leastPositional : Int
  /-- The greatest power of ten of the first digit that is written without exponent. -/
  greatestPositional : Int

/-- Numbers from 0.00001 to below 10^16 are written without exponent. -/
def realLayout : RealLayout := ⟨-5, 15⟩

/-- The text of a positive decimal: with a fraction if it has no exponent, and with a signed
exponent otherwise. -/
def RealLayout.text (layout : RealLayout) (decimal : Decimal) : List Char :=
  let digits := decimal.characters
  let leading := decimal.leadingExponent
  if layout.leastPositional ≤ leading ∧ leading ≤ layout.greatestPositional then
    if leading < 0 then
      '0' :: '.' :: List.replicate (-leading - 1).toNat '0' ++ digits
    else
      let wholeLength := leading.toNat + 1
      let fraction := digits.drop wholeLength
      digits.take wholeLength ++ List.replicate (wholeLength - digits.length) '0' ++
        '.' :: (if fraction.isEmpty then ['0'] else fraction)
  else
    let fraction := digits.drop 1
    let sign := if leading < 0 then '-' else '+'
    digits.take 1 ++ (if fraction.isEmpty then [] else '.' :: fraction) ++
      'e' :: sign :: Nat.toDigits 10 leading.natAbs

/-- The text of a binary64 number, from its shortest decimal. -/
def textOfReal (number : Binary64) : List Char :=
  let magnitude :=
    if number.mantissa = 0 then ['0', '.', '0'] else realLayout.text number.shortest
  if number.negative then '-' :: magnitude else magnitude

def Number.text : Number → List Char
  | .whole value => decimalOfInt value
  | .real value => textOfReal value

def hexDigit (digit : Nat) : Char :=
  Nat.digitChar digit

def escapeCharacter (character : Char) : List Char :=
  if character = '"' then ['\\', '"']
  else if character = '\\' then ['\\', '\\']
  else if character = '\x08' then ['\\', 'b']
  else if character = '\x0c' then ['\\', 'f']
  else if character = '\n' then ['\\', 'n']
  else if character = '\r' then ['\\', 'r']
  else if character = '\t' then ['\\', 't']
  else if character.toNat < 0x20 then
    ['\\', 'u', '0', '0', hexDigit (character.toNat / 16), hexDigit (character.toNat % 16)]
  else [character]

def printString (text : String) : List Char :=
  '"' :: text.toList.flatMap escapeCharacter ++ ['"']

mutual

def print : Json → List Char
  | .null => "null".toList
  | .boolean true => "true".toList
  | .boolean false => "false".toList
  | .number value => value.text
  | .string text => printString text
  | .list elements => '[' :: printElements elements ++ [']']
  | .object members => '\x7b' :: printMembers members ++ ['\x7d']

def printElements : List Json → List Char
  | [] => []
  | [element] => print element
  | element :: next :: rest => print element ++ ',' :: printElements (next :: rest)

def printMembers : List (String × Json) → List Char
  | [] => []
  | [(key, value)] => printString key ++ ':' :: print value
  | (key, value) :: next :: rest =>
    printString key ++ ':' :: print value ++ ',' :: printMembers (next :: rest)

end

def text (value : Json) : String :=
  String.ofList (print value)

end Json

end ThermalPrint
