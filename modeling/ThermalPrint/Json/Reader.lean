import ThermalPrint.Bytes
import ThermalPrint.Json.Basic

/-!
Reading JSON text. The reader takes values of up to 127 nested lists and objects. A text that is
not JSON is refused with the cause and the place of the first fault, counted in lines and in bytes
of the UTF-8 form.

Numbers with a point or an exponent, and whole numbers that do not fit 64 bits, are read with two
roundings: the leading digits that fit 64 bits form a natural number, which is rounded to binary64
and then multiplied or divided by a rounded power of ten.
-/

namespace ThermalPrint.Json

inductive Cause where
  | endInValue
  | endInList
  | endInObject
  | endInString
  | expectedWord
  | expectedValue
  | expectedColon
  | expectedListSeparator
  | expectedObjectSeparator
  | expectedKey
  | trailingComma
  | trailingCharacters
  | invalidNumber
  | numberOutOfRange
  | controlCharacter
  | invalidEscape
  | loneSurrogate
  | incompleteSurrogate
  | tooDeep
  deriving DecidableEq, Repr

def Cause.message : Cause → String
  | .endInValue => "EOF while parsing a value"
  | .endInList => "EOF while parsing a list"
  | .endInObject => "EOF while parsing an object"
  | .endInString => "EOF while parsing a string"
  | .expectedWord => "expected ident"
  | .expectedValue => "expected value"
  | .expectedColon => "expected `:`"
  | .expectedListSeparator => "expected `,` or `]`"
  | .expectedObjectSeparator => "expected `,` or `\x7d`"
  | .expectedKey => "key must be a string"
  | .trailingComma => "trailing comma"
  | .trailingCharacters => "trailing characters"
  | .invalidNumber => "invalid number"
  | .numberOutOfRange => "number out of range"
  | .controlCharacter =>
    "control character (\\u0000-\\u001F) found while parsing a string"
  | .invalidEscape => "invalid escape"
  | .loneSurrogate => "lone leading surrogate in hex escape"
  | .incompleteSurrogate => "unexpected end of hex escape"
  | .tooDeep => "recursion limit exceeded"

/-- A fault, placed by the number of bytes of the text that follow the place. -/
structure Fault where
  cause : Cause
  remaining : Nat
  deriving DecidableEq, Repr

/-- A fault before the unread rest of the text. -/
def Fault.before (cause : Cause) (rest : List Char) : Fault :=
  ⟨cause, Bytes.lengthOfText rest⟩

/-- A fault some bytes into the unread rest of the text, or at its end if it is shorter. -/
def Fault.within (cause : Cause) (count : Nat) (rest : List Char) : Fault :=
  ⟨cause, Bytes.lengthOfText rest - count⟩

/-- A fault just past the first byte of the unread rest. -/
def Fault.past (cause : Cause) (rest : List Char) : Fault :=
  Fault.within cause 1 rest

/-- A reader takes what it reads off the front of a text. -/
abbrev Reader (α : Type) := List Char → Except Fault (α × List Char)

def isSpace (character : Char) : Bool :=
  character == ' ' || character == '\n' || character == '\t' || character == '\r'

def skipSpaces (text : List Char) : List Char :=
  text.dropWhile isSpace

/-- Reads the rest of a word whose first letter has been taken. -/
def readWord (value : Json) : (letters : List Char) → Reader Json
  | [], text => .ok (value, text)
  | _ :: _, [] => .error (.before .endInValue [])
  | letter :: letters, character :: rest =>
    if character = letter then readWord value letters rest
    else .error (.past .expectedWord (character :: rest))

/-! ### Numbers -/

def digitValue (character : Char) : Nat :=
  character.toNat - '0'.toNat

/-- The bound of the naturals that fit 64 bits. -/
def wordBound : Nat := UInt64.size

/-- Reads digits as long as they extend a natural that fits 64 bits. -/
def gatherDigits (value : Nat) : List Char → Nat × List Char
  | [] => (value, [])
  | character :: rest =>
    if character.isDigit && value * 10 + digitValue character < wordBound then
      gatherDigits (value * 10 + digitValue character) rest
    else (value, character :: rest)

/-- Leading digits of a number, and the power of ten that they are to be multiplied with. -/
structure Significand where
  digits : Nat
  power : Int
  deriving DecidableEq, Repr

/-- The nearest binary64 number to a power of ten up to 10^308. -/
def powerOfTen (power : Nat) : Option Binary64 :=
  Binary64.ofNat? (Nat.pow 10 power)

/-- Divides by a power of ten, by at most 10^308 at a time. -/
def divideByPower (dividend : Binary64) (power : Nat) : Option Binary64 :=
  if dividend.mantissa = 0 then some dividend
  else if _bounded : power ≤ 308 then (powerOfTen power).bind dividend.div?
  else do
    let divisor ← powerOfTen 308
    let quotient ← dividend.div? divisor
    divideByPower quotient (power - 308)
termination_by power
decreasing_by omega

/-- The binary64 number of a significand, and none if it is too large. -/
def Significand.real? (significand : Significand) : Option Binary64 := do
  let rounded ← Binary64.ofNat? significand.digits
  match significand.power with
  | .ofNat power =>
    if rounded.mantissa = 0 then some rounded
    else if power ≤ 308 then (powerOfTen power).bind rounded.mul?
    else none
  | .negSucc power => divideByPower rounded (power + 1)

def signed (negative : Bool) (magnitude : Binary64) : Number :=
  .real { magnitude with negative := negative }

/-- Ends a number that has a point or an exponent, or does not fit 64 bits. -/
def endReal (negative : Bool) (significand : Significand) (rest : List Char) :
    Except Fault (Number × List Char) :=
  match significand.real? with
  | some magnitude => .ok (signed negative magnitude, rest)
  | none => .error (.before .numberOutOfRange rest)

/-- The magnitude of the least integer that fits 64 bits. -/
def leastMagnitude : Nat := 1 <<< 63

/-- Ends a number that has neither point nor exponent and fits 64 bits. Minus zero and negative
numbers below -2^63 are reals. -/
def endWhole (negative : Bool) (digits : Nat) (rest : List Char) :
    Except Fault (Number × List Char) :=
  if negative then
    if digits = 0 ∨ leastMagnitude < digits then endReal true ⟨digits, 0⟩ rest
    else .ok (.whole (-(digits : Int)), rest)
  else .ok (.whole digits, rest)

/-- The bound of the exponents that are told apart. -/
def exponentBound : Nat := 1 <<< 31

/-- Reads the digits of an exponent up to the first that makes it too large, if there is one. -/
def gatherExponent (value : Nat) : List Char → Nat × Bool × List Char
  | [] => (value, true, [])
  | character :: rest =>
    if character.isDigit then
      if value * 10 + digitValue character < exponentBound then
        gatherExponent (value * 10 + digitValue character) rest
      else (value, false, rest)
    else (value, true, character :: rest)

/-- Reads an exponent, whose letter has been taken. -/
def readExponent (negative : Bool) (significand : Significand) : Reader Number
  | [] => .error (.before .endInValue [])
  | character :: rest =>
    let (downward, text) :=
      if character = '+' then (false, rest)
      else if character = '-' then (true, rest)
      else (false, character :: rest)
    match text with
    | [] => .error (.before .endInValue [])
    | first :: rest =>
      if first.isDigit then
        match gatherExponent (digitValue first) rest with
        | (exponent, true, rest) =>
          let change : Int := if downward then -exponent else exponent
          endReal negative { significand with power := significand.power + change } rest
        | (_, false, rest) =>
          if significand.digits ≠ 0 ∧ downward = false then
            .error (.before .numberOutOfRange rest)
          else .ok (signed negative (.zero false), rest.dropWhile Char.isDigit)
      else .error (.past .invalidNumber (first :: rest))

def readOptionalExponent (negative : Bool) (significand : Significand) : Reader Number
  | 'e' :: rest | 'E' :: rest => readExponent negative significand rest
  | text => endReal negative significand text

/-- Reads a fraction, whose point has been taken. Digits that do not fit are dropped. -/
def readFraction (negative : Bool) (significand : Significand) : Reader Number
  | [] => .error (.before .endInValue [])
  | character :: rest =>
    if character.isDigit then
      let (digits, rest') := gatherDigits significand.digits (character :: rest)
      let taken := (character :: rest).length - rest'.length
      readOptionalExponent negative ⟨digits, significand.power - taken⟩
        (rest'.dropWhile Char.isDigit)
    else .error (.past .invalidNumber (character :: rest))

def readAfterWhole (negative : Bool) (digits excess : Nat) : Reader Number
  | '.' :: rest => readFraction negative ⟨digits, excess⟩ rest
  | 'e' :: rest | 'E' :: rest => readExponent negative ⟨digits, excess⟩ rest
  | text =>
    if excess = 0 then endWhole negative digits text
    else endReal negative ⟨digits, excess⟩ text

/-- Reads a number, whose minus sign has been taken. -/
def readNumber (negative : Bool) : Reader Number
  | [] => .error (.before .endInValue [])
  | character :: rest =>
    if character = '0' then
      match rest with
      | next :: _ =>
        if next.isDigit then .error (.past .invalidNumber rest)
        else readAfterWhole negative 0 0 rest
      | [] => readAfterWhole negative 0 0 rest
    else if character.isDigit then
      let (digits, rest) := gatherDigits (digitValue character) rest
      readAfterWhole negative digits (rest.takeWhile Char.isDigit).length
        (rest.dropWhile Char.isDigit)
    else .error (.past .invalidNumber (character :: rest))

/-! ### Strings -/

def hexValue? (character : Char) : Option Nat :=
  if character.isDigit then some (character.toNat - '0'.toNat)
  else if 'a' ≤ character ∧ character ≤ 'f' then some (character.toNat - 'a'.toNat + 10)
  else if 'A' ≤ character ∧ character ≤ 'F' then some (character.toNat - 'A'.toNat + 10)
  else none

/-- Reads four digits in base sixteen. -/
def readUnit (text : List Char) : Except Fault Nat :=
  match text with
  | a :: b :: c :: d :: _ =>
    match hexValue? a, hexValue? b, hexValue? c, hexValue? d with
    | some a, some b, some c, some d => .ok (((a * 16 + b) * 16 + c) * 16 + d)
    | _, _, _, _ => .error (.within .invalidEscape 4 text)
  | _ =>
    if Bytes.lengthOfText text < 4 then .error ⟨.endInString, 0⟩
    else .error (.within .invalidEscape 4 text)

def isTrailingUnit (value : Nat) : Bool :=
  0xDC00 ≤ value && value ≤ 0xDFFF

def isLeadingUnit (value : Nat) : Bool :=
  0xD800 ≤ value && value ≤ 0xDBFF

/-- The character of a pair of units. -/
def characterOfPair (leading trailing : Nat) : Char :=
  Char.ofNat (0x10000 + (leading - 0xD800) * 0x400 + (trailing - 0xDC00))

/-- Reads the second unit of a pair, with its escape. -/
def readTrailingUnit : List Char → Except Fault Nat
  | [] => .error (.before .endInString [])
  | '\\' :: rest =>
    match rest with
    | [] => .error (.before .endInString [])
    | 'u' :: rest =>
      match readUnit rest with
      | .error fault => .error fault
      | .ok trailing =>
        if isTrailingUnit trailing then .ok trailing
        else .error (.before .loneSurrogate (rest.drop 4))
    | _ => .error (.past .incompleteSurrogate rest)
  | text => .error (.past .incompleteSurrogate text)

/-- Reads an escape, whose backslash has been taken: the character, and how many characters its
escape has. -/
def readEscape : List Char → Except Fault (Char × Nat)
  | [] => .error (.before .endInString [])
  | '"' :: _ => .ok ('"', 1)
  | '\\' :: _ => .ok ('\\', 1)
  | '/' :: _ => .ok ('/', 1)
  | 'b' :: _ => .ok ('\x08', 1)
  | 'f' :: _ => .ok ('\x0c', 1)
  | 'n' :: _ => .ok ('\n', 1)
  | 'r' :: _ => .ok ('\r', 1)
  | 't' :: _ => .ok ('\t', 1)
  | 'u' :: rest =>
    match readUnit rest with
    | .error fault => .error fault
    | .ok unit =>
      if isTrailingUnit unit then .error (.before .loneSurrogate (rest.drop 4))
      else if isLeadingUnit unit then
        match readTrailingUnit (rest.drop 4) with
        | .error fault => .error fault
        | .ok trailing => .ok (characterOfPair unit trailing, 11)
      else .ok (Char.ofNat unit, 5)
  | text => .error (.past .invalidEscape text)

/-- Reads the rest of a string, whose opening quotation mark has been taken. -/
def readCharacters (text : List Char) : Except Fault (List Char × List Char) :=
  match text with
  | [] => .error (.before .endInString [])
  | character :: rest =>
    if character = '"' then .ok ([], rest)
    else if character = '\\' then
      match readEscape rest with
      | .error fault => .error fault
      | .ok (escaped, count) =>
        match readCharacters (rest.drop count) with
        | .error fault => .error fault
        | .ok (characters, rest) => .ok (escaped :: characters, rest)
    else if character.toNat < 0x20 then .error (.past .controlCharacter text)
    else
      match readCharacters rest with
      | .error fault => .error fault
      | .ok (characters, rest) => .ok (character :: characters, rest)
termination_by text.length
decreasing_by
  all_goals simp only [List.length_cons, List.length_drop]
  all_goals omega

def readString (text : List Char) : Except Fault (String × List Char) :=
  match readCharacters text with
  | .error fault => .error fault
  | .ok (characters, rest) => .ok (String.ofList characters, rest)

/-! ### Lists and objects -/

/-- Reads the elements after the first one, and the closing bracket. Each element takes up some
text, so a bound greater than the length of the text is never reached. -/
def readMoreElements (readElement : Reader Json) : (bound : Nat) → Reader (List Json)
  | 0, text => .error (.past .expectedListSeparator text)
  | bound + 1, text =>
    match skipSpaces text with
    | [] => .error (.before .endInList [])
    | ']' :: rest => .ok ([], rest)
    | ',' :: rest =>
      match skipSpaces rest with
      | [] => .error (.before .endInValue [])
      | ']' :: rest => .error (.past .trailingComma (']' :: rest))
      | text => do
        let (element, rest) ← readElement text
        let (elements, rest) ← readMoreElements readElement bound rest
        return (element :: elements, rest)
    | text => .error (.past .expectedListSeparator text)

/-- Reads a list, whose opening bracket has been taken. -/
def readElements (readElement : Reader Json) (bound : Nat) : Reader (List Json) := fun text =>
  match skipSpaces text with
  | [] => .error (.before .endInList [])
  | ']' :: rest => .ok ([], rest)
  | text => do
    let (element, rest) ← readElement text
    let (elements, rest) ← readMoreElements readElement bound rest
    return (element :: elements, rest)

/-- Reads a member, whose key starts the text. -/
def readMember (readElement : Reader Json) : Reader (String × Json)
  | '"' :: rest => do
    let (key, rest) ← readString rest
    match skipSpaces rest with
    | [] => .error (.before .endInObject [])
    | ':' :: rest =>
      let (value, rest) ← readElement rest
      return ((key, value), rest)
    | text => .error (.past .expectedColon text)
  | text => .error (.past .expectedKey text)

def readMoreMembers (readElement : Reader Json) : (bound : Nat) → Reader (List (String × Json))
  | 0, text => .error (.past .expectedObjectSeparator text)
  | bound + 1, text =>
    match skipSpaces text with
    | [] => .error (.before .endInObject [])
    | '\x7d' :: rest => .ok ([], rest)
    | ',' :: rest =>
      match skipSpaces rest with
      | [] => .error (.before .endInValue [])
      | '\x7d' :: rest => .error (.past .trailingComma ('\x7d' :: rest))
      | text => do
        let (member, rest) ← readMember readElement text
        let (members, rest) ← readMoreMembers readElement bound rest
        return (member :: members, rest)
    | text => .error (.past .expectedObjectSeparator text)

/-- Reads an object, whose opening brace has been taken. -/
def readMembers (readElement : Reader Json) (bound : Nat) : Reader (List (String × Json)) :=
  fun text =>
  match skipSpaces text with
  | [] => .error (.before .endInObject [])
  | '\x7d' :: rest => .ok ([], rest)
  | text => do
    let (member, rest) ← readMember readElement text
    let (members, rest) ← readMoreMembers readElement bound rest
    return (member :: members, rest)

/-! ### Values -/

/-- Reads a value of at most the given nesting. The bound is greater than the length of the text. -/
def readValue (bound : Nat) : (depth : Nat) → Reader Json
  | depth, text =>
    match skipSpaces text with
    | [] => .error (.before .endInValue [])
    | character :: rest =>
      if character = 'n' then readWord .null "ull".toList rest
      else if character = 't' then readWord (.boolean true) "rue".toList rest
      else if character = 'f' then readWord (.boolean false) "alse".toList rest
      else if character = '"' then do
        let (text, rest) ← readString rest
        return (.string text, rest)
      else if character = '-' then do
        let (value, rest) ← readNumber true rest
        return (.number value, rest)
      else if character.isDigit then do
        let (value, rest) ← readNumber false (character :: rest)
        return (.number value, rest)
      else if character = '[' then
        match depth with
        | 0 => .error (.past .tooDeep (character :: rest))
        | depth + 1 => do
          let (elements, rest) ← readElements (readValue bound depth) bound rest
          return (.list elements, rest)
      else if character = '\x7b' then
        match depth with
        | 0 => .error (.past .tooDeep (character :: rest))
        | depth + 1 => do
          let (members, rest) ← readMembers (readValue bound depth) bound rest
          return (.object members, rest)
      else .error (.past .expectedValue (character :: rest))

def greatestDepth : Nat := 127

def readText (text : List Char) : Except Fault Json := do
  let (value, rest) ← readValue (text.length + 1) greatestDepth text
  match skipSpaces rest with
  | [] => return value
  | rest => throw (.past .trailingCharacters rest)

/-! ### Places -/

/-- A fault with its place in lines and bytes. -/
structure SyntaxError where
  cause : Cause
  line : Nat
  column : Nat
  deriving DecidableEq, Repr

def SyntaxError.message (error : SyntaxError) : String :=
  s!"{error.cause.message} at line {error.line} column {error.column}"

/-- The line of a place after some bytes, and how many bytes of the line precede it. -/
def placeAfter : (line column : Nat) → Bytes → Nat × Nat
  | line, column, [] => (line, column)
  | line, column, byte :: rest =>
    if byte = 10 then placeAfter (line + 1) 0 rest else placeAfter line (column + 1) rest

def Fault.inText (fault : Fault) (text : String) : SyntaxError :=
  let bytes := Bytes.ofText text
  let (line, column) := placeAfter 1 0 (bytes.take (bytes.length - fault.remaining))
  ⟨fault.cause, line, column⟩

def parse (text : String) : Except SyntaxError Json :=
  (readText text.toList).mapError fun fault => fault.inText text

end ThermalPrint.Json
