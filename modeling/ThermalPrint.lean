import ThermalPrint.Picture.Plane
import ThermalPrint.Printer.Description
import ThermalPrint.Printer.Stream
import ThermalPrint.Printing.DeviceFile
import ThermalPrint.Printing.Session
import ThermalPrint.Receipt.Encode
import ThermalPrint.Proofs.Picture.Diffusion
import ThermalPrint.Proofs.Picture.Dots
import ThermalPrint.Proofs.Picture.Plane
import ThermalPrint.Proofs.Printer.Tokens
import ThermalPrint.Proofs.Printer.Bands
import ThermalPrint.Proofs.Printing.Calls
import ThermalPrint.Proofs.Printing.Writes
import ThermalPrint.Proofs.Printing.Execution
import ThermalPrint.Proofs.Printing.Access
import ThermalPrint.Proofs.Json.RoundTrip
import ThermalPrint.Proofs.Receipt.RoundTrip
import ThermalPrint.Proofs.Picture.Width
import ThermalPrint.Proofs.Receipt.Stream
import ThermalPrint.Printer.Format
import ThermalPrint.Proofs.Receipt.Style
import ThermalPrint.Printer.Paper
import ThermalPrint.Proofs.Printer.Paper
import ThermalPrint.Printer.BandStream
import ThermalPrint.Proofs.Receipt.Picture
import ThermalPrint.Proofs.Printing.Outcomes
import ThermalPrint.Receipt.Grammar
import ThermalPrint.Proofs.Receipt.Grammar
import ThermalPrint.Proofs.Receipt.Whole
import ThermalPrint.Proofs.Printing.Mark
import ThermalPrint.Proofs.Printing.DeviceFile
import ThermalPrint.Proofs.Printer.BandStream
import ThermalPrint.Picture.DiffusionMachine
import ThermalPrint.Proofs.Picture.Range
import ThermalPrint.Proofs.Picture.Brightness
import ThermalPrint.Json.Literal
import ThermalPrint.Proofs.Picture.Causality
import ThermalPrint.Proofs.Picture.BlackWhite
import ThermalPrint.Proofs.Number.Rounding
import ThermalPrint.Proofs.Json.Literal
import ThermalPrint.Proofs.Receipt.FontSize
import ThermalPrint.Proofs.Receipt.Keys
import ThermalPrint.Proofs.Picture.SetDots
import ThermalPrint.Proofs.Qr.Drawing
import ThermalPrint.Proofs.Text.Ascii
import ThermalPrint.Proofs.Printer.Barcode
import ThermalPrint.Proofs.Picture.Fit
import ThermalPrint.Proofs.Printing.WriteLoop
import ThermalPrint.Proofs.Printing.OneByOne
import ThermalPrint.Proofs.Printing.Log
import ThermalPrint.Proofs.Picture.Transparency
import ThermalPrint.Proofs.Text.CodePage
import ThermalPrint.Proofs.Receipt.Text
import ThermalPrint.Proofs.Receipt.Feed
import ThermalPrint.Proofs.Picture.Rows
import ThermalPrint.Receipt.FeedMachine
