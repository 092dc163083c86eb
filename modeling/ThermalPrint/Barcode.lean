import ThermalPrint.Bytes
import ThermalPrint.Choice

/-!
Barcode symbologies and the codes they accept. The payload of an accepted code is what a printer
needs to draw the bars, and has 1 to 255 bytes.
-/

namespace ThermalPrint

inductive Symbology where
  | upcA
  | upcE
  | ean13
  | ean8
  | code39
  | code128
  deriving DecidableEq, Repr

instance : Choice Symbology where
  all := [.upcA, .upcE, .ean13, .ean8, .code39, .code128]
  name
    | .upcA => "UPCA"
    | .upcE => "UPCE"
    | .ean13 => "EAN13"
    | .ean8 => "EAN8"
    | .code39 => "CODE39"
    | .code128 => "CODE128"

namespace Symbology

def code : Symbology → UInt8
  | .upcA => 65
  | .upcE => 66
  | .ean13 => 67
  | .ean8 => 68
  | .code39 => 69
  | .code128 => 73

inductive Flaw where
  | notDigits
  | wrongDigitCount
  | wrongLength
  | notInAlphabet
  | notPrintable
  | tooLongOrEmpty
  deriving DecidableEq, Repr

def Flaw.message : Flaw → String
  | .notDigits => "only digits are allowed"
  | .wrongDigitCount => "wrong number of digits"
  | .wrongLength => "length must be between 1 and 255"
  | .notInAlphabet => "only 0-9, A-Z, space and $%*+-./ are allowed"
  | .notPrintable => "only printable ascii is allowed"
  | .tooLongOrEmpty => "length must be between 1 and 253"

def isDigit (byte : UInt8) : Bool :=
  0x30 ≤ byte && byte ≤ 0x39

def isInAlphabet39 (byte : UInt8) : Bool :=
  isDigit byte || (0x41 ≤ byte && byte ≤ 0x5A) ||
    [0x20, 0x24, 0x25, 0x2A, 0x2B, 0x2D, 0x2E, 0x2F].contains byte

def isPrintable (byte : UInt8) : Bool :=
  0x20 ≤ byte && byte < 0x7F

/-- The opening brace, which starts a command to the bar writer. -/
def brace : UInt8 := 0x7B

/-- Writes each opening brace twice, so that it stands for itself. -/
def doubleBraces (bytes : Bytes) : Bytes :=
  bytes.flatMap fun byte => if byte = brace then [brace, brace] else [byte]

def digitPayload (allowed : List Nat) (bytes : Bytes) : Except Flaw Bytes :=
  if bytes.isEmpty || !bytes.all isDigit then .error .notDigits
  else if !allowed.contains bytes.length then .error .wrongDigitCount
  else .ok bytes

def payload39 (bytes : Bytes) : Except Flaw Bytes :=
  if bytes.isEmpty || 255 < bytes.length then .error .wrongLength
  else if !bytes.all isInAlphabet39 then .error .notInAlphabet
  else .ok bytes

/-- The payload of a Code 128 code, which starts by choosing code set B. -/
def payload128 (bytes : Bytes) : Except Flaw Bytes :=
  if !bytes.all isPrintable then .error .notPrintable
  else
    let payload := brace :: 0x42 :: doubleBraces bytes
    if bytes.isEmpty || 255 < payload.length then .error .tooLongOrEmpty
    else .ok payload

def payload (symbology : Symbology) (code : String) : Except Flaw Bytes :=
  let bytes := Bytes.ofText code
  match symbology with
  | .upcA => digitPayload [11, 12] bytes
  | .upcE => digitPayload [6, 7, 8, 11, 12] bytes
  | .ean13 => digitPayload [12, 13] bytes
  | .ean8 => digitPayload [7, 8] bytes
  | .code39 => payload39 bytes
  | .code128 => payload128 bytes

end Symbology

end ThermalPrint
