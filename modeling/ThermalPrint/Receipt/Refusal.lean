import ThermalPrint.Json.Printer
import ThermalPrint.Json.Reader
import ThermalPrint.Text.Quoted

/-!
Why a receipt is refused. A refusal names the item, the type that was read from it, the field, and
the reason.
-/

namespace ThermalPrint

inductive Field where
  | receipt
  | type
  | content
  | fontSize
  | font
  | alignment
  | underline
  | lines
  | code
  | barcodeType
  | size
  | data
  | ditherMode
  deriving DecidableEq, Repr

namespace Field

def name : Field → String
  | .receipt => "receipt"
  | .type => "type"
  | .content => "content"
  | .fontSize => "font-size"
  | .font => "font"
  | .alignment => "alignment"
  | .underline => "underline"
  | .lines => "lines"
  | .code => "code"
  | .barcodeType => "barcode-type"
  | .size => "size"
  | .data => "data"
  | .ditherMode => "dither-mode"

/-- The key that stands in for an absent one. -/
def alias? : Field → Option String
  | .fontSize => some "font_size"
  | .barcodeType => some "barcode_type"
  | .ditherMode => some "dither_mode"
  | _ => none

end Field

inductive Wanted where
  | object
  | string
  | integer
  | numberOrString
  | booleanOrString
  deriving DecidableEq, Repr

def Wanted.description : Wanted → String
  | .object => "an object"
  | .string => "a string"
  | .integer => "an integer"
  | .numberOrString => "a number or a string"
  | .booleanOrString => "a boolean or a string"

inductive Reason where
  | invalidJson (error : Json.SyntaxError)
  | missing
  | notList
  | mistyped (wanted : Wanted) (found : Json.Shape)
  | outOfRange (number : Json.Number)
  | notInteger (number : Json.Number)
  | notIntegerText (text : String)
  | badLineCount (count : Int)
  | unknownName (name : String) (choices : List String)
  | unknownType (name : String)
  deriving DecidableEq, Repr

def Reason.message : Reason → String
  | .invalidJson error => "invalid json, " ++ error.message
  | .missing => "missing"
  | .notList => "must be a list"
  | .mistyped wanted found =>
    "expected " ++ wanted.description ++ ", found " ++ found.description
  | .outOfRange number => String.ofList number.text ++ " is out of range"
  | .notInteger number => String.ofList number.text ++ " is not an integer"
  | .notIntegerText text => Text.quoted text ++ " is not an integer"
  | .badLineCount count =>
    String.ofList (decimalOfInt count) ++ " is not a valid number of lines"
  | .unknownName name choices =>
    Text.quoted name ++ " is not one of " ++ ", ".intercalate choices
  | .unknownType name => "unknown receipt item type " ++ Text.quoted name

structure Refusal where
  /-- The position of the item, if an item is at fault. -/
  index : Option Nat
  /-- The type that was read from the item. -/
  kind : Option String
  field : Field
  reason : Reason
  deriving DecidableEq, Repr

def Refusal.place (refusal : Refusal) : String :=
  match refusal.index, refusal.kind with
  | some index, some kind => s!"item {index} ({kind}), "
  | some index, none => s!"item {index}, "
  | none, _ => ""

def Refusal.message (refusal : Refusal) : String :=
  refusal.place ++ "field \"" ++ refusal.field.name ++ "\": " ++ refusal.reason.message

end ThermalPrint
