import Mathlib.Algebra.Group.Int.Defs
import Mathlib.Data.List.Forall2
import ThermalPrint.Proofs.Json.RoundTrip
import ThermalPrint.Receipt.Decode
import ThermalPrint.Receipt.Encode

/-!
# Receipts in JSON

Decoding the text of a receipt gives the receipt again. Each reading of a field undoes the way in
which the field is written, and the keys of an item are told apart.
-/

namespace ThermalPrint

/-! ## Fields -/

/-- A choice whose members are read back from their names. -/
class LawfulChoice (α : Type) [Choice α] : Prop where
  ofName?_name (member : α) : Choice.ofName? (Choice.name member) = some member

instance : LawfulChoice Kind where
  ofName?_name member := by cases member <;> decide

instance : LawfulChoice Font where
  ofName?_name member := by cases member <;> decide

instance : LawfulChoice Alignment where
  ofName?_name member := by cases member <;> decide

instance : LawfulChoice Symbology where
  ofName?_name member := by cases member <;> decide

instance : LawfulChoice Dithering where
  ofName?_name member := by cases member <;> decide

theorem RawItem.choose_toJson {α : Type} [Choice α] [LawfulChoice α] (member : α) :
    RawItem.choose α (Choice.toJson member) = .ok member := by
  simp [choose, Choice.toJson, Loose.string, LawfulChoice.ofName?_name member, bind, Except.bind]

theorem int64?_toInt (value : Int64) : int64? value.toInt = some value := by
  have atLeast : Int64.minValue.toInt ≤ value.toInt := value.minValue_le_toInt
  have atMost : value.toInt ≤ Int64.maxValue.toInt := value.toInt_le
  rw [int64?, if_pos ⟨atLeast, atMost⟩, Int64.ofInt_toInt]

theorem Loose.integer_toInt (value : Int64) :
    Loose.integer (.integer value.toInt) = .ok value := by
  simp [Loose.integer, Json.integer, int64?_toInt]

theorem Loose.fontSize_toInt (size : Int64) :
    Loose.fontSize (.integer size.toInt) = .ok size := by
  simp [Loose.fontSize, Loose.sizeOfNumber?, Json.integer, int64?_toInt]

theorem RawItem.lineCount_toNat (lines : UInt32) :
    RawItem.lineCount (.integer lines.toNat) = .ok lines := by
  have small : lines.toNat < 2 ^ 32 := lines.toNat_lt
  have back : (Int64.ofInt lines.toNat).toInt = lines.toNat :=
    Int64.toInt_ofInt_of_le (by omega) (by omega)
  have fits : int64? lines.toNat = some (.ofInt lines.toNat) := by
    rw [← back, int64?_toInt, back]
  have inRange : 0 ≤ (lines.toNat : Int) ∧ (lines.toNat : Int) < (UInt32.size : Nat) :=
    ⟨Int.natCast_nonneg _, Int.ofNat_lt.mpr lines.toNat_lt⟩
  simp only [lineCount, Loose.integer, Json.integer, fits, bind, Except.bind, back, if_pos inRange]
  simp

theorem RawItem.read_of_value {α : Type} {item : RawItem} {field : Field} {value : Json}
    {convert : Json → Except Reason α} {result : α}
    (found : item.object.get? field.name = some value) (converted : convert value = .ok result) :
    item.read field convert = .ok result := by
  simp [read, value?, found, converted]

/-! ## Items -/

theorem RawItem.readText_members {item : RawItem} {type : Json} {content : String} {style : Style}
    (object : item.object = .object (("type", type) :: style.members content)) :
    item.readText = .ok (content, style) := by
  have read : item.read .content Loose.string = .ok content :=
    read_of_value (by rw [object]; rfl) rfl
  have size : item.read .fontSize Loose.fontSize = .ok style.size :=
    read_of_value (by rw [object]; rfl) (Loose.fontSize_toInt style.size)
  have font : item.read .font (choose Font) = .ok style.font :=
    read_of_value (by rw [object]; rfl) (choose_toJson style.font)
  have alignment : item.read .alignment (choose Alignment) = .ok style.alignment :=
    read_of_value (by rw [object]; rfl) (choose_toJson style.alignment)
  have underline : item.read .underline Loose.underline = .ok style.underline :=
    read_of_value (by rw [object]; rfl) rfl
  simp [readText, read, size, font, alignment, underline, bind, Except.bind, pure, Except.pure]

theorem RawItem.readItem_kind (item : Item) (index : Nat) (kind : String) :
    (RawItem.mk index kind item.toJson).readItem item.kind = .ok item := by
  cases item with
  | line content style =>
    have text : (mk index kind (Item.line content style).toJson).readText = .ok (content, style) :=
      readText_members rfl
    simp [readItem, Item.kind, text, bind, Except.bind, pure, Except.pure]
  | text content style =>
    have text : (mk index kind (Item.text content style).toJson).readText = .ok (content, style) :=
      readText_members rfl
    simp [readItem, Item.kind, text, bind, Except.bind, pure, Except.pure]
  | feed lines =>
    have read : (mk index kind (Item.feed lines).toJson).read .lines lineCount = .ok lines :=
      read_of_value rfl (lineCount_toNat lines)
    simp [readItem, Item.kind, read, bind, Except.bind, pure, Except.pure]
  | barcode code symbology =>
    have content : (mk index kind (Item.barcode code symbology).toJson).read .code Loose.string =
        .ok code := read_of_value rfl rfl
    have drawn : (mk index kind (Item.barcode code symbology).toJson).read .barcodeType
        (choose Symbology) = .ok symbology := read_of_value rfl (choose_toJson symbology)
    simp [readItem, Item.kind, content, drawn, bind, Except.bind, pure, Except.pure]
  | qr code size =>
    have content : (mk index kind (Item.qr code size).toJson).read .code Loose.string =
        .ok code := read_of_value rfl rfl
    have dots : (mk index kind (Item.qr code size).toJson).read .size Loose.integer =
        .ok size := read_of_value rfl (Loose.integer_toInt size)
    simp [readItem, Item.kind, content, dots, bind, Except.bind, pure, Except.pure]
  | picture data alignment dithering =>
    have content : (mk index kind (Item.picture data alignment dithering).toJson).read .data
        Loose.string = .ok data := read_of_value rfl rfl
    have place : (mk index kind (Item.picture data alignment dithering).toJson).read .alignment
        (choose Alignment) = .ok alignment := read_of_value rfl (choose_toJson alignment)
    have shades : (mk index kind (Item.picture data alignment dithering).toJson).read .ditherMode
        (choose Dithering) = .ok dithering := read_of_value rfl (choose_toJson dithering)
    simp [readItem, Item.kind, content, place, shades, bind, Except.bind, pure, Except.pure]

/-- The type that is written for an item is the name of its kind. -/
theorem Item.type_toJson (item : Item) :
    item.toJson.get? Field.type.name = some (.string (Choice.name item.kind)) := by
  cases item <;> rfl

theorem Item.decode_toJson (index : Nat) (item : Item) :
    Item.decode index item.toJson = .ok item := by
  have type := item.type_toJson
  have known := LawfulChoice.ofName?_name item.kind
  have read := RawItem.readItem_kind item index (Choice.name item.kind)
  unfold toJson at type read ⊢
  simp only [Json.get?] at type
  simp only [decode, type, known, read]

/-! ## Receipts -/

theorem Item.decodeFrom_toJson (index : Nat) (items : List Item) :
    Item.decodeFrom index (items.map Item.toJson) = .ok items := by
  induction items generalizing index with
  | nil => rfl
  | cons item items inductionHypothesis =>
    simp [decodeFrom, decode_toJson index item, inductionHypothesis (index + 1), bind, Except.bind,
      pure, Except.pure]

theorem Receipt.decode_toJson (receipt : Receipt) :
    Receipt.decode receipt.toJson = .ok receipt := by
  have items := Item.decodeFrom_toJson 0 receipt.items
  have found : receipt.toJson.get? Field.receipt.name =
      some (.list (receipt.items.map Item.toJson)) := rfl
  simp [decode, found, Item.decodeAll, items, Except.map]

theorem Json.isReadable_integer {value : Int} (atLeast : -2 ^ 63 ≤ value) (below : value < 2 ^ 63)
    (depth : Nat) : IsReadable depth (.integer value) := by
  apply IsReadable.whole
  · have least : (leastMagnitude : Int) = 2 ^ 63 := by decide
    omega
  · have bound : (wordBound : Int) = 2 ^ 64 := by decide
    omega

theorem Item.isReadable_members (item : Item) (depth : Nat) :
    ∀ member ∈ item.members, Json.IsReadable depth member.2 := by
  have whole : ∀ value : Int64, Json.IsReadable depth (.integer value.toInt) := fun value =>
    Json.isReadable_integer value.le_toInt value.toInt_lt depth
  have styled : ∀ content style, ∀ member ∈ Style.members content style,
      Json.IsReadable depth member.2 := by
    intro content style
    simp only [Style.members, List.forall_mem_cons]
    exact ⟨.string _, whole style.size, .string _, .string _, .boolean _, by simp⟩
  cases item with
  | line content style => exact styled content style
  | text content style => exact styled content style
  | feed lines =>
    have small : lines.toNat < 2 ^ 32 := lines.toNat_lt
    simp only [members, List.forall_mem_cons]
    exact ⟨Json.isReadable_integer (by omega) (by omega) depth, by simp⟩
  | barcode code symbology =>
    simp only [members, List.forall_mem_cons]
    exact ⟨.string _, .string _, by simp⟩
  | qr code size =>
    simp only [members, List.forall_mem_cons]
    exact ⟨.string _, whole size, by simp⟩
  | picture data alignment dithering =>
    simp only [members, List.forall_mem_cons]
    exact ⟨.string _, .string _, .string _, by simp⟩

theorem Item.isReadable_toJson (item : Item) (depth : Nat) :
    Json.IsReadable (depth + 1) item.toJson := by
  apply Json.IsReadable.object
  rw [List.forall_mem_cons]
  exact ⟨.string _, item.isReadable_members depth⟩

/-- A receipt nests three deep: the object around the list, the list, and the items. -/
theorem Receipt.isReadable_toJson (receipt : Receipt) (depth : Nat) :
    Json.IsReadable (depth + 3) receipt.toJson := by
  apply Json.IsReadable.object
  rw [List.forall_mem_singleton]
  apply Json.IsReadable.list
  intro value isItem
  obtain ⟨item, _, rfl⟩ := List.mem_map.mp isItem
  exact item.isReadable_toJson depth

theorem Receipt.parse_toJson (receipt : Receipt) :
    Receipt.parse receipt.toJson.text = .ok receipt := by
  rw [parse, Json.parse_text (receipt.isReadable_toJson 124)]
  exact receipt.decode_toJson

/-- Decoding the compact text of a receipt gives the receipt again. What the text holds is a list
with an object for each item, whose type is the name of the kind of the item. -/
theorem Receipt.parse_text_toJson (receipt : Receipt) :
    Receipt.parse receipt.toJson.text = .ok receipt ∧
      ∃ written : List Json,
        Json.parse receipt.toJson.text = .ok (.object [(Field.receipt.name, .list written)]) ∧
          List.Forall₂ (fun item object =>
            object.get? Field.type.name = some (.string (Choice.name item.kind)))
            receipt.items written := by
  have read : Json.parse receipt.toJson.text = .ok receipt.toJson :=
    Json.parse_text (receipt.isReadable_toJson 124)
  refine ⟨receipt.parse_toJson, receipt.items.map Item.toJson, read, ?_⟩
  rw [List.forall₂_map_right_iff, List.forall₂_same]
  intro item _
  exact item.type_toJson

end ThermalPrint
