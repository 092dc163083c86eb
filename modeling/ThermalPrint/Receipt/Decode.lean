import ThermalPrint.Receipt.Item
import ThermalPrint.Receipt.Loose

/-!
Decoding receipts. A receipt is decoded as a whole or not at all: the first item that is refused
refuses the receipt.
-/

namespace ThermalPrint

/-- An object of a receipt whose type has been read. -/
structure RawItem where
  index : Nat
  kind : String
  object : Json

namespace RawItem

def refuse {α : Type} (item : RawItem) (field : Field) (reason : Reason) : Except Refusal α :=
  .error ⟨some item.index, some item.kind, field, reason⟩

/-- The value of a field: that of its key, and that of its alias if the key is absent. -/
def value? (item : RawItem) (field : Field) : Option Json :=
  match item.object.get? field.name with
  | some value => some value
  | none => field.alias?.bind fun key => item.object.get? key

def read {α : Type} (item : RawItem) (field : Field) (convert : Json → Except Reason α) :
    Except Refusal α :=
  match item.value? field with
  | none => item.refuse field .missing
  | some value =>
    match convert value with
    | .ok result => .ok result
    | .error reason => item.refuse field reason

def choose (α : Type) [Choice α] (value : Json) : Except Reason α := do
  let text ← Loose.string value
  match Choice.ofName? text with
  | some member => .ok member
  | none => .error (.unknownName text (Choice.names α))

def lineCount (value : Json) : Except Reason UInt32 := do
  let count ← Loose.integer value
  if 0 ≤ count.toInt ∧ count.toInt < UInt32.size then .ok (.ofNat count.toInt.toNat)
  else .error (.badLineCount count.toInt)

def readText (item : RawItem) : Except Refusal (String × Style) := do
  let content ← item.read .content Loose.string
  let size ← item.read .fontSize Loose.fontSize
  let font ← item.read .font (choose Font)
  let alignment ← item.read .alignment (choose Alignment)
  let underline ← item.read .underline Loose.underline
  return (content, ⟨size, font, alignment, underline⟩)

def readItem (item : RawItem) : Kind → Except Refusal Item
  | .line => do
    let (content, style) ← item.readText
    return .line content style
  | .text => do
    let (content, style) ← item.readText
    return .text content style
  | .feed => do
    let lines ← item.read .lines lineCount
    return .feed lines
  | .barcode => do
    let code ← item.read .code Loose.string
    let symbology ← item.read .barcodeType (choose Symbology)
    return .barcode code symbology
  | .qr => do
    let code ← item.read .code Loose.string
    let size ← item.read .size Loose.integer
    return .qr code size
  | .picture => do
    let data ← item.read .data Loose.string
    let alignment ← item.read .alignment (choose Alignment)
    let dithering ← item.read .ditherMode (choose Dithering)
    return .picture data alignment dithering

end RawItem

def Item.decode (index : Nat) (value : Json) : Except Refusal Item :=
  match value with
  | .object members =>
    match Json.member? Field.type.name members with
    | some (.string kind) =>
      let raw : RawItem := ⟨index, kind, value⟩
      match Choice.ofName? kind with
      | some known => raw.readItem known
      | none => raw.refuse .type (.unknownType kind)
    | some other => .error ⟨some index, none, .type, .mistyped .string other.shape⟩
    | none => .error ⟨some index, none, .type, .missing⟩
  | _ => .error ⟨some index, none, .type, .mistyped .object value.shape⟩

def Item.decodeFrom (index : Nat) : List Json → Except Refusal (List Item)
  | [] => .ok []
  | value :: rest => do
    let item ← Item.decode index value
    let items ← Item.decodeFrom (index + 1) rest
    return item :: items

def Item.decodeAll (values : List Json) : Except Refusal (List Item) :=
  Item.decodeFrom 0 values

def Receipt.decode (value : Json) : Except Refusal Receipt :=
  match value.get? Field.receipt.name with
  | none => .error ⟨none, none, .receipt, .missing⟩
  | some (.list values) => (Item.decodeAll values).map Receipt.mk
  | some _ => .error ⟨none, none, .receipt, .notList⟩

def Receipt.parse (text : String) : Except Refusal Receipt :=
  match Json.parse text with
  | .error error => .error ⟨none, none, .receipt, .invalidJson error⟩
  | .ok value => Receipt.decode value

end ThermalPrint
