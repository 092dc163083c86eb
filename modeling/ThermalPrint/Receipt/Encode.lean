import ThermalPrint.Json.Printer
import ThermalPrint.Receipt.Item

/-!
Receipts as JSON. This is the canonical form: decoding it gives the same receipt again.
-/

namespace ThermalPrint

def Json.integer (value : Int) : Json :=
  .number (.whole value)

def Style.members (content : String) (style : Style) : List (String × Json) :=
  [("content", .string content),
   ("font-size", .integer style.size.toInt),
   ("font", Choice.toJson style.font),
   ("alignment", Choice.toJson style.alignment),
   ("underline", .boolean style.underline)]

def Item.members : Item → List (String × Json)
  | .line content style | .text content style => style.members content
  | .feed lines => [("lines", .integer lines.toNat)]
  | .barcode code symbology =>
    [("code", .string code), ("barcode-type", Choice.toJson symbology)]
  | .qr code size => [("code", .string code), ("size", .integer size.toInt)]
  | .picture data alignment dithering =>
    [("data", .string data), ("alignment", Choice.toJson alignment),
     ("dither-mode", Choice.toJson dithering)]

def Item.toJson (item : Item) : Json :=
  .object (("type", Choice.toJson item.kind) :: item.members)

def Receipt.toJson (receipt : Receipt) : Json :=
  .object [("receipt", .list (receipt.items.map Item.toJson))]

end ThermalPrint
