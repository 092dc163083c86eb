import ThermalPrint.Text.Printable

/-!
Texts in quotation marks, as they appear in messages. A quoted text holds printable characters
only: every other character is written as an escape.
-/

namespace ThermalPrint.Text

/-- The digits of a code point in base sixteen, without leading zeros. -/
def hexadecimal (code : Nat) : List Char :=
  Nat.toDigits 16 code

/-- A character as it is written between quotation marks. -/
def escapeQuoted (character : Char) : List Char :=
  match character with
  | '"' => ['\\', '"']
  | '\\' => ['\\', '\\']
  | '\n' => ['\\', 'n']
  | '\r' => ['\\', 'r']
  | '\t' => ['\\', 't']
  | '\x00' => ['\\', '0']
  | _ =>
    if isPrintable character then [character]
    else '\\' :: 'u' :: '\x7b' :: hexadecimal character.toNat ++ ['\x7d']

def quoted (text : String) : String :=
  String.ofList ('"' :: text.toList.flatMap escapeQuoted ++ ['"'])

end ThermalPrint.Text
