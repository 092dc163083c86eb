import Mathlib.Algebra.Group.Int.Defs
import ThermalPrint.Receipt.Item
import ThermalPrint.Receipt.Refusal

/-!
The grammar of the items of a receipt, apart from the way in which they are decoded: how names and
keys are spelled, what a value stands for, which values a field admits, and which fields the object
of an item has to have.
-/

namespace ThermalPrint

/-! ### Names and keys -/

/-- The names of the members of a type in a receipt. -/
class Spelling (α : Type) where
  table : List (String × α)

def Spells {α : Type} [Spelling α] (text : String) (member : α) : Prop :=
  (text, member) ∈ Spelling.table

instance {α : Type} [Spelling α] [DecidableEq α] (text : String) (member : α) :
    Decidable (Spells text member) :=
  inferInstanceAs (Decidable (_ ∈ _))

instance : Spelling Kind where
  table :=
    [("line", .line), ("text", .text), ("feed", .feed), ("barcode", .barcode), ("qr", .qr),
      ("image", .picture)]

instance : Spelling Font where
  table := [("A", .a), ("B", .b), ("C", .c)]

instance : Spelling Alignment where
  table := [("left", .left), ("right", .right), ("center", .center)]

instance : Spelling Symbology where
  table :=
    [("UPCA", .upcA), ("UPCE", .upcE), ("EAN13", .ean13), ("EAN8", .ean8), ("CODE39", .code39),
      ("CODE128", .code128)]

instance : Spelling Dithering where
  table := [("none", .none), ("floydsteinberg", .floydSteinberg)]

namespace Field

def keys : List (String × Field) :=
  [("receipt", .receipt), ("type", .type), ("content", .content), ("font-size", .fontSize),
    ("font", .font), ("alignment", .alignment), ("underline", .underline), ("lines", .lines),
    ("code", .code), ("barcode-type", .barcodeType), ("size", .size), ("data", .data),
    ("dither-mode", .ditherMode)]

def aliases : List (String × Field) :=
  [("font_size", .fontSize), ("barcode_type", .barcodeType), ("dither_mode", .ditherMode)]

/-- The key of a field. -/
def IsKey (field : Field) (key : String) : Prop :=
  (key, field) ∈ keys

/-- The key that stands in for the absent key of a field. -/
def IsAlias (field : Field) (key : String) : Prop :=
  (key, field) ∈ aliases

instance (field : Field) (key : String) : Decidable (field.IsKey key) :=
  inferInstanceAs (Decidable (_ ∈ _))

instance (field : Field) (key : String) : Decidable (field.IsAlias key) :=
  inferInstanceAs (Decidable (_ ∈ _))

end Field

/-! ### Values -/

namespace Text

/-- Decimal digits, the ones last. -/
inductive SpellsNatural : List Char → Nat → Prop where
  | digit {digit : Char} : digit.isDigit = true → SpellsNatural [digit] (digit.toNat - 48)
  | more {digits : List Char} {value : Nat} {digit : Char} :
      SpellsNatural digits value → digit.isDigit = true →
      SpellsNatural (digits ++ [digit]) (10 * value + (digit.toNat - 48))

inductive SpellsInteger : List Char → Int → Prop where
  | unsigned {digits : List Char} {value : Nat} :
      SpellsNatural digits value → SpellsInteger digits value
  | positive {digits : List Char} {value : Nat} :
      SpellsNatural digits value → SpellsInteger ('+' :: digits) value
  | negative {digits : List Char} {value : Nat} :
      SpellsNatural digits value → SpellsInteger ('-' :: digits) (-value)

end Text

namespace Loose

/-- Integers too great for a size that are rounded to 2^63. -/
def IsJustAbove (value : Int) : Prop :=
  Int64.maxValue.toInt < value ∧ value ≤ 2 ^ 63 + 2 ^ 10

/-- Integers too small for a size that are rounded to -2^63. -/
def IsJustBelow (value : Int) : Prop :=
  -2 ^ 63 - 2 ^ 10 ≤ value ∧ value < Int64.minValue.toInt

end Loose

/-- A real stands for its whole part. A whole part that is too great by one stands for the greatest
size. -/
def Binary64.StandsForSize (real : Binary64) (size : Int64) : Prop :=
  Int64.minValue.toInt ≤ real.truncate ∧ real.truncate ≤ Int64.maxValue.toInt + 1 ∧
    size.toInt = min real.truncate Int64.maxValue.toInt

namespace Json

inductive StandsForText : Json → String → Prop where
  | string (text : String) : StandsForText (.string text) text

inductive StandsForName {α : Type} [Spelling α] : Json → α → Prop where
  | string {text : String} {member : α} :
      Spells text member → StandsForName (.string text) member

inductive StandsForInteger : Json → Int64 → Prop where
  | whole (value : Int64) : StandsForInteger (.number (.whole value.toInt)) value

inductive StandsForLineCount : Json → UInt32 → Prop where
  | whole (lines : UInt32) : StandsForLineCount (.number (.whole lines.toNat)) lines

inductive StandsForFlag : Json → Bool → Prop where
  | boolean (flag : Bool) : StandsForFlag (.boolean flag) flag
  | string (text : String) : StandsForFlag (.string text) (text == "true")

inductive StandsForSize : Json → Int64 → Prop where
  | whole (size : Int64) : StandsForSize (.number (.whole size.toInt)) size
  | real {real : Binary64} {size : Int64} :
      real.StandsForSize size → StandsForSize (.number (.real real)) size
  /-- A whole number that does not fit 64 bits with a sign counts as the nearest real, so one just
  beyond the sizes is taken back to the greatest or the least of them. -/
  | above {value : Int} : Loose.IsJustAbove value →
      StandsForSize (.number (.whole value)) Int64.maxValue
  | below {value : Int} : Loose.IsJustBelow value →
      StandsForSize (.number (.whole value)) Int64.minValue
  | text {text : String} {size : Int64} :
      Text.SpellsInteger text.toList size.toInt → StandsForSize (.string text) size

end Json

/-! ### Fields -/

namespace Field

variable (members : List (String × Json))

/-- The members of an object have a value for a field: that of its key, and that of its alias only
if the key is absent. -/
inductive HasValue : Field → Json → Prop where
  | byKey {field : Field} {key : String} {value : Json} :
      field.IsKey key → Json.member? key members = some value → HasValue field value
  | byAlias {field : Field} {key standIn : String} {value : Json} :
      field.IsKey key → Json.member? key members = none → field.IsAlias standIn →
      Json.member? standIn members = some value → HasValue field value

/-- A value is valid for a field: it stands for something that the field can carry. -/
def Admits (value : Json) : Field → Prop
  | .receipt => ∃ elements, value = .list elements
  | .type => ∃ kind : Kind, value.StandsForName kind
  | .content | .code | .data => ∃ text, value.StandsForText text
  | .fontSize => ∃ size, value.StandsForSize size
  | .font => ∃ font : Font, value.StandsForName font
  | .alignment => ∃ alignment : Alignment, value.StandsForName alignment
  | .underline => ∃ flag, value.StandsForFlag flag
  | .lines => ∃ lines, value.StandsForLineCount lines
  | .barcodeType => ∃ symbology : Symbology, value.StandsForName symbology
  | .size => ∃ size, value.StandsForInteger size
  | .ditherMode => ∃ dithering : Dithering, value.StandsForName dithering

def IsValid (field : Field) : Prop :=
  ∃ value, HasValue members field value ∧ Admits value field

/-- The first field of a list that is not valid. -/
def IsFirstInvalid (fields : List Field) (field : Field) : Prop :=
  ∃ front rest, fields = front ++ field :: rest ∧
    (∀ earlier ∈ front, IsValid members earlier) ∧ ¬IsValid members field

end Field

/-! ### Items -/

/-- The fields that an item of a kind needs, in the order in which they are looked at. -/
def Kind.fields : Kind → List Field
  | .line | .text => [.content, .fontSize, .font, .alignment, .underline]
  | .feed => [.lines]
  | .barcode => [.code, .barcodeType]
  | .qr => [.code, .size]
  | .picture => [.data, .alignment, .ditherMode]

section

variable (members : List (String × Json))

/-- The value of a field stands for what the item carries in it. -/
def Field.Carries (field : Field) (stands : Json → Prop) : Prop :=
  ∃ value, field.HasValue members value ∧ stands value

structure Style.IsGiven (style : Style) : Prop where
  size : Field.fontSize.Carries members (·.StandsForSize style.size)
  font : Field.font.Carries members (·.StandsForName style.font)
  alignment : Field.alignment.Carries members (·.StandsForName style.alignment)
  underline : Field.underline.Carries members (·.StandsForFlag style.underline)

/-- The fields of an object give what an item carries. -/
inductive Item.IsGiven : Item → Prop where
  | line {content : String} {style : Style} :
      Field.content.Carries members (·.StandsForText content) → style.IsGiven members →
      IsGiven (.line content style)
  | text {content : String} {style : Style} :
      Field.content.Carries members (·.StandsForText content) → style.IsGiven members →
      IsGiven (.text content style)
  | feed {lines : UInt32} :
      Field.lines.Carries members (·.StandsForLineCount lines) → IsGiven (.feed lines)
  | barcode {code : String} {symbology : Symbology} :
      Field.code.Carries members (·.StandsForText code) →
      Field.barcodeType.Carries members (·.StandsForName symbology) →
      IsGiven (.barcode code symbology)
  | qr {code : String} {size : Int64} :
      Field.code.Carries members (·.StandsForText code) →
      Field.size.Carries members (·.StandsForInteger size) → IsGiven (.qr code size)
  | picture {data : String} {alignment : Alignment} {dithering : Dithering} :
      Field.data.Carries members (·.StandsForText data) →
      Field.alignment.Carries members (·.StandsForName alignment) →
      Field.ditherMode.Carries members (·.StandsForName dithering) →
      IsGiven (.picture data alignment dithering)

end

namespace Json

/-- A value is an object with a type. -/
def HasType (value : Json) (members : List (String × Json)) (type : String) : Prop :=
  value = .object members ∧ member? "type" members = some (.string type)

/-- An object stands for an item: its type names the kind, and its fields give the rest. -/
def StandsForItem (value : Json) (item : Item) : Prop :=
  ∃ members type, value.HasType members type ∧ Spells type item.kind ∧ item.IsGiven members

/-- An object is valid: its type is known, and so is each field that an item of this type needs. -/
def IsValidItem (value : Json) : Prop :=
  ∃ (members : List (String × Json)) (type : String) (kind : Kind),
    value.HasType members type ∧ Spells type kind ∧ ∀ field ∈ kind.fields, field.IsValid members

/-- What a refusal of an item blames: that there is no type, a type that is not known, or the first
field that is not valid. -/
inductive Blames (index : Nat) (value : Json) : Refusal → Prop where
  | noType {reason : Reason} : (∀ members type, ¬value.HasType members type) →
      Blames index value ⟨some index, none, .type, reason⟩
  | unknownType {members : List (String × Json)} {type : String} {reason : Reason} :
      value.HasType members type → (∀ kind : Kind, ¬Spells type kind) →
      Blames index value ⟨some index, some type, .type, reason⟩
  | invalid {members : List (String × Json)} {type : String} {kind : Kind} {field : Field}
      {reason : Reason} : value.HasType members type → Spells type kind →
      Field.IsFirstInvalid members kind.fields field →
      Blames index value ⟨some index, some type, field, reason⟩

end Json

end ThermalPrint
