import ThermalPrint.Error
import ThermalPrint.Printer.Setting
import ThermalPrint.Text.Quoted

/-!
Profiles: how a printer is reached and what it can do.
-/

namespace ThermalPrint

/-- How a printer is reached. The timeout is in milliseconds. -/
inductive Connection where
  /-- By bulk transfers to an endpoint, which is looked for if it is not given. -/
  | usb (vendor product : UInt16) (endpoint : Option UInt8) (timeout : Nat)
  | file (path : String) (timeout : Nat)
  deriving DecidableEq, Repr

structure Profile where
  connection : Connection
  width : UInt16
  imageMode : ImageMode
  nativeQr : Bool
  deriving DecidableEq, Repr

namespace Profile

/-- Writes may take two seconds if nothing else is said. -/
def usualTimeout : Nat := 2000

def usual (connection : Connection) : Profile :=
  ⟨connection, 384, .raster, true⟩

def ofUsb (vendor product : UInt16) : Profile :=
  usual (.usb vendor product none usualTimeout)

def ofFile (path : String) : Profile :=
  usual (.file path usualTimeout)

/-- Sets the endpoint, which only a USB connection has. -/
def withEndpoint (profile : Profile) (endpoint : UInt8) : Except Error Profile :=
  match profile.connection with
  | .usb vendor product _ timeout =>
    .ok { profile with connection := .usb vendor product (some endpoint) timeout }
  | .file .. => .error .unsupported

def withTimeout (profile : Profile) (timeout : Nat) : Profile :=
  match profile.connection with
  | .usb vendor product endpoint _ =>
    { profile with connection := .usb vendor product endpoint timeout }
  | .file path _ => { profile with connection := .file path timeout }

end Profile

inductive Model where
  /-- A printer for narrow paper that cannot draw QR codes. -/
  | zkTeco
  | tmT20
  deriving DecidableEq, Repr

instance : Choice Model where
  all := [.zkTeco, .tmT20]
  name
    | .zkTeco => "ZKTeco"
    | .tmT20 => "TMT20"

namespace Model

def usbNumbers : Model → UInt16 × UInt16
  | .zkTeco => (0x6868, 0x0200)
  | .tmT20 => (0x04B8, 0x0E15)

def profile (model : Model) : Profile :=
  let (vendor, product) := model.usbNumbers
  let reached (endpoint : UInt8) := Connection.usb vendor product (some endpoint) 2000
  match model with
  | .zkTeco => ⟨reached 2, 384, .columns, false⟩
  | .tmT20 => ⟨reached 1, 576, .raster, true⟩

end Model

end ThermalPrint
