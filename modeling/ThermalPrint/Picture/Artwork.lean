import ThermalPrint.Error
import ThermalPrint.Picture.Reduction
import ThermalPrint.Picture.Scale
import ThermalPrint.Png.Decode
import ThermalPrint.Printer.Bands
import ThermalPrint.Text.Blank

/-!
Pictures that are ready for paper of some width: laid over white, shrunk if they are too wide, and
with the way to make them black and white. Receipts bring their pictures as PNG files in base64,
and possibly as a data URL.
-/

namespace ThermalPrint

structure Artwork where
  gray : GrayPicture
  dithering : Dithering

namespace Artwork

def ofPicture (picture : Picture) (dithering : Dithering) (paperWidth : UInt16) : Artwork :=
  ⟨picture.flatten.fit paperWidth.toNat, dithering⟩

/-- The data of a data URL, which follows its first comma, and any other text as it is. -/
def dataOfUrl (text : List Char) : List Char :=
  if "data:".toList.isPrefixOf text && text.contains ',' then
    (text.dropWhile (· ≠ ',')).drop 1
  else text

def ofText (text : String) (dithering : Dithering) (paperWidth : UInt16) :
    Except Failure Artwork :=
  let symbols := Text.trimBlanks (dataOfUrl text.toList)
  match Base64.decode (Bytes.ofText (String.ofList symbols)) with
  | .error fault => .error (.error (.base64 fault))
  | .ok file =>
    match Png.decode file with
    | .ok picture => .ok (ofPicture picture dithering paperWidth)
    | .error .malformed => .error (.error .picture)
    | .error .badPalette => .error .panic

def bitmap (artwork : Artwork) : Bitmap :=
  artwork.dithering.reduce artwork.gray

def send (artwork : Artwork) (mode : ImageMode) : Bytes :=
  artwork.bitmap.send mode

end Artwork

end ThermalPrint
