import ThermalPrint.Barcode
import ThermalPrint.Printer.Setting

/-!
Receipts. A receipt is a list of items, and each item carries all of its own formatting.
-/

namespace ThermalPrint

inductive Dithering where
  /-- Each dot for itself, by a threshold. -/
  | none
  /-- By error diffusion. -/
  | floydSteinberg
  deriving DecidableEq, Repr

instance : Choice Dithering where
  all := [.none, .floydSteinberg]
  name
    | .none => "none"
    | .floydSteinberg => "floydsteinberg"

structure Style where
  size : Int64
  font : Font
  alignment : Alignment
  underline : Bool
  deriving DecidableEq, Repr

inductive Item where
  /-- A line of text, which ends with a line feed. -/
  | line (content : String) (style : Style)
  /-- Text without a line feed of its own. -/
  | text (content : String) (style : Style)
  | feed (lines : UInt32)
  /-- A barcode, always centered. -/
  | barcode (code : String) (symbology : Symbology)
  /-- A QR code, always centered, with the size of its modules in dots. -/
  | qr (code : String) (size : Int64)
  /-- A picture, as the base64 form of a PNG file. -/
  | picture (data : String) (alignment : Alignment) (dithering : Dithering)
  deriving DecidableEq, Repr

inductive Kind where
  | line
  | text
  | feed
  | barcode
  | qr
  | picture
  deriving DecidableEq, Repr

instance : Choice Kind where
  all := [.line, .text, .feed, .barcode, .qr, .picture]
  name
    | .line => "line"
    | .text => "text"
    | .feed => "feed"
    | .barcode => "barcode"
    | .qr => "qr"
    | .picture => "image"

def Item.kind : Item → Kind
  | .line .. => .line
  | .text .. => .text
  | .feed .. => .feed
  | .barcode .. => .barcode
  | .qr .. => .qr
  | .picture .. => .picture

/-- The style of text of the usual size, not underlined. -/
def Style.plain (font : Font) (alignment : Alignment) : Style :=
  ⟨1, font, alignment, false⟩

/-- The items of one print, in order. -/
structure Receipt where
  items : List Item
  deriving DecidableEq, Repr

def Receipt.length (receipt : Receipt) : Nat :=
  receipt.items.length

end ThermalPrint
