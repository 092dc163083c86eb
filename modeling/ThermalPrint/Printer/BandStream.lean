import ThermalPrint.Printer.Paper

/-!
Bands as they are found in a stream that holds one picture. A band of rows is a single command. A
band of columns is a command and the line feed behind it; the bands of columns of a picture stand
between the commands for the space between lines.
-/

namespace ThermalPrint

/-- A band of packed rows. -/
structure RowBand where
  widthBytes : Nat
  height : Nat
  data : Bytes
  deriving DecidableEq, Repr

namespace RowBand

/-- The scale at which a printer draws a band of rows: one dot for each bit. -/
def plainScale : Bytes := [0x30, 0x00]

def ofToken? : Token → Option RowBand
  | .character _ => none
  | .command introducer function parameters data =>
    if Paper.isRows introducer function ∧ parameters.take 2 = plainScale then
      some ⟨Frame.lengthAt 2 parameters, Frame.lengthAt 4 parameters, data⟩
    else none

/-- The bands of a stream that holds nothing but bands of rows. -/
def readAll? (stream : Bytes) : Option (List RowBand) :=
  (Token.readAll? stream).bind fun tokens => tokens.mapM ofToken?

end RowBand

/-- A band of columns, each of 24 dots in three bytes. -/
structure ColumnBand where
  width : Nat
  data : Bytes
  deriving DecidableEq, Repr

namespace ColumnBand

/-- Whether a dot of a band is black, by its column and its row in the band. The top dot of a byte
is the most significant one. -/
def isBlack (band : ColumnBand) (x row : Nat) : Bool :=
  Paper.isBlackIn band.data (x * 3 + row / 8) row

/-- The bands up to the command for the usual space between lines, which ends the picture. -/
def ofTokens? : List Token → Option (List ColumnBand)
  | [last] => if last = .command 0x1B 0x32 [] [] then some [] else none
  | .command introducer function parameters data :: .character byte :: rest =>
    if Paper.isColumns introducer function parameters ∧ byte = 0x0A then
      (ofTokens? rest).map (⟨Frame.lengthAt 1 parameters, data⟩ :: ·)
    else none
  | _ => none

/-- The bands of a stream that takes the space between lines away, holds nothing but bands of
columns, and then gives the usual space back. -/
def readAll? (stream : Bytes) : Option (List ColumnBand) :=
  match Token.readAll? stream with
  | some (first :: rest) =>
    if first = .command 0x1B 0x33 [0] [] then ofTokens? rest else none
  | _ => none

end ColumnBand

end ThermalPrint
