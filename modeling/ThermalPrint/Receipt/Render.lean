import ThermalPrint.Picture.Artwork
import ThermalPrint.Printer.Profile
import ThermalPrint.Qr.Drawing
import ThermalPrint.Text.CodePage

/-!
Rendering: the bytes that print an item. Text sets all of its formatting each time. Barcodes and QR
codes are always centered.
-/

namespace ThermalPrint

def clampToByte (value : Int64) (limit : Nat) : UInt8 :=
  .ofNat (min (max value.toInt 1).toNat limit)

def Style.commands (style : Style) : List Command :=
  let size := clampToByte style.size 8
  [.selectFont style.font, .selectAlignment style.alignment, .characterSize size size,
    if style.underline then .underlineOn else .underlineOff]

def Command.bytesOfAll (commands : List Command) : Bytes :=
  commands.flatMap Command.bytes

def renderText (content : String) (style : Style) : Except Error Bytes :=
  match CodePage.encode? content with
  | some bytes => .ok (Command.bytesOfAll style.commands ++ bytes)
  | none => .error (.encoding content)

/-- The most lines that one command feeds. -/
def greatestFeed : Nat := 255

def feedCommands (lines : Nat) : List Command :=
  List.replicate (lines / greatestFeed) (.feed (.ofNat greatestFeed)) ++
    if lines % greatestFeed = 0 then [] else [.feed (.ofNat (lines % greatestFeed))]

def renderBarcode (code : String) (symbology : Symbology) : Except Error Bytes :=
  match symbology.payload code with
  | .ok payload =>
    .ok (Command.bytesOfAll
      [.selectAlignment .center, .barcodeTextBelow, .barcode symbology payload])
  | .error flaw => .error (.barcode symbology code flaw)

/-- The longest content of a QR code that a printer draws itself: version 40, stored as bytes. -/
def greatestQrLength : Nat := 2331

/-- The commands by which a printer draws a QR code itself. -/
def qrCommands (data : Bytes) (size : UInt8) : List Command :=
  [.qrModel, .qrModuleSize size, .qrErrorCorrection, .qrStore data, .qrPrint]

def renderQr (profile : Profile) (code : String) (size : Int64) : Except Error Bytes :=
  let size := clampToByte size 16
  let centered := (Command.selectAlignment .center).bytes
  if profile.nativeQr then
    let data := Bytes.ofText code
    if data.isEmpty || greatestQrLength < data.length then .error .qrTooLong
    else .ok (centered ++ Command.bytesOfAll (qrCommands data size))
  else
    match Qr.bitmap? code size.toNat profile.width.toNat with
    | some bitmap => .ok (centered ++ bitmap.send profile.imageMode)
    | none => .error .qrTooLong

def renderPicture (profile : Profile) (data : String) (alignment : Alignment)
    (dithering : Dithering) : Except Failure Bytes :=
  match Artwork.ofText data dithering profile.width with
  | .ok artwork =>
    .ok ((Command.selectAlignment alignment).bytes ++ artwork.send profile.imageMode)
  | .error failure => .error failure

def Item.render (profile : Profile) : Item → Except Failure Bytes
  | .line content style => ((renderText content style).map (· ++ [lineFeed])).mapError .error
  | .text content style => (renderText content style).mapError .error
  | .feed lines => .ok (Command.bytesOfAll (feedCommands lines.toNat))
  | .barcode code symbology => (renderBarcode code symbology).mapError .error
  | .qr code size => (renderQr profile code size).mapError .error
  | .picture data alignment dithering => renderPicture profile data alignment dithering

end ThermalPrint
