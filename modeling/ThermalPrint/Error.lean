import ThermalPrint.Base64
import ThermalPrint.Receipt.Item
import ThermalPrint.Text.Quoted

/-!
What can go wrong while a receipt is rendered or sent to a device.
-/

namespace ThermalPrint

inductive UsbFault where
  | noDevice
  | timeout
  deriving DecidableEq, Repr

def UsbFault.message : UsbFault → String
  | .noDevice => "No such device (it may have been disconnected)"
  | .timeout => "Operation timed out"

inductive FileFault where
  | timedOut
  | brokenPipe
  | notFound
  | isDirectory
  | noSpace
  /-- Any other fault, in the words of the system. -/
  | other (message : String)
  deriving DecidableEq, Repr

def FileFault.message : FileFault → String
  | .timedOut => "timed out"
  | .brokenPipe => "broken pipe"
  | .notFound => "No such file or directory (os error 2)"
  | .isDirectory => "Is a directory (os error 21)"
  | .noSpace => "No space left on device (os error 28)"
  | .other message => message

inductive Error where
  | usb (fault : UsbFault)
  | file (fault : FileFault)
  | picture
  | base64 (fault : Base64.Fault)
  /-- The content does not fit a QR code, or the QR code does not fit the paper. -/
  | qrTooLong
  | barcode (symbology : Symbology) (code : String) (flaw : Symbology.Flaw)
  /-- The text has a character that is not in the code page. -/
  | encoding (content : String)
  | noBulkEndpoint
  | shortWrite (written expected : Nat)
  /-- A setting does not apply to the way the printer is connected. -/
  | unsupported
  | render (index : Nat) (kind : Kind) (source : Error)
  deriving DecidableEq, Inhabited, Repr

def Error.message : Error → String
  | .usb fault => "rusb error: " ++ fault.message
  | .file fault => "I/O error: " ++ fault.message
  | .picture => "Image error:"
  | .base64 fault => "Image data is not valid base64: " ++ fault.message
  | .qrTooLong => "QR code error: data too long"
  | .barcode symbology code flaw =>
    s!"Invalid {Choice.name symbology} barcode {Text.quoted code}: {flaw.message}"
  | .encoding content => "Text cannot be encoded in code page 437: " ++ Text.quoted content
  | .noBulkEndpoint => "No bulk endpoint could be found"
  | .shortWrite written expected => s!"The device accepted {written} of {expected} bytes"
  | .unsupported => "The called method does not work with the current printer connection"
  | .render index kind source =>
    s!"Cannot render item {index} ({Choice.name kind}): {source.message}"

inductive Failure where
  | error (error : Error)
  /-- The rendering panics, and whoever asked for it gets no answer. -/
  | panic
  deriving DecidableEq, Inhabited, Repr

/-- The failure of a receipt when that of one of its items is given. A panic says nothing of the
item. -/
def Failure.ofItem (index : Nat) (kind : Kind) : Failure → Failure
  | error source => error (.render index kind source)
  | panic => panic

end ThermalPrint
