import ThermalPrint.Printer.Profile

/-!
Descriptions of printers, for those who look for faults.
-/

namespace ThermalPrint

/-- The decimal places of a number of thousandths, without zeros at the end. -/
def thousandths (value : Nat) : List Char :=
  let digits := [value / 100 % 10, value / 10 % 10, value % 10]
  ((digits.reverse.dropWhile (· = 0)).reverse).map Nat.digitChar

/-- A length of time in milliseconds, in the largest unit of which it has at least one. -/
def durationText (milliseconds : Nat) : String :=
  if milliseconds = 0 then "0ns"
  else if milliseconds < 1000 then s!"{milliseconds}ms"
  else
    let places := thousandths (milliseconds % 1000)
    let fraction := if places.isEmpty then "" else "." ++ String.ofList places
    s!"{milliseconds / 1000}{fraction}s"

def structureText (name : String) (fields : List (String × String)) : String :=
  name ++ " \x7b " ++ ", ".intercalate (fields.map fun (field, value) => field ++ ": " ++ value) ++
    " \x7d"

def Connection.description : Connection → String
  | .usb vendor product endpoint timeout =>
    let endpointText :=
      match endpoint with
      | some endpoint => s!"Some({endpoint.toNat})"
      | none => "None"
    structureText "Usb"
      [("vendor_id", toString vendor.toNat), ("product_id", toString product.toNat),
        ("endpoint", endpointText), ("timeout", durationText timeout)]
  | .file path timeout =>
    structureText "File" [("path", Text.quoted path), ("timeout", durationText timeout)]

def Profile.description (profile : Profile) : String :=
  structureText "PrinterProfile"
    [("printer_connection_data", profile.connection.description),
      ("width", toString profile.width.toNat),
      ("image_mode", Choice.name profile.imageMode),
      ("native_qr", if profile.nativeQr then "true" else "false")]

def guardDescription (profile : Profile) : String :=
  "PrinterGuard(" ++ structureText "Printer" [("printer_profile", profile.description)] ++ ")"

end ThermalPrint
