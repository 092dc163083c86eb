import ThermalPrint.Choice

/-!
Settings of a printer that receipts and profiles choose from.
-/

namespace ThermalPrint

inductive Font where
  | a
  | b
  | c
  deriving DecidableEq, Repr

inductive Alignment where
  | left
  | center
  | right
  deriving DecidableEq, Repr

inductive ImageMode where
  /-- Rows of packed dots. -/
  | raster
  /-- Columns of bands that are 24 dots high. -/
  | columns
  deriving DecidableEq, Repr

inductive CodeTable where
  | page437
  deriving DecidableEq, Repr

instance : Choice Font where
  all := [.a, .b, .c]
  name
    | .a => "A"
    | .b => "B"
    | .c => "C"

instance : Choice Alignment where
  all := [.left, .right, .center]
  name
    | .left => "left"
    | .center => "center"
    | .right => "right"

instance : Choice ImageMode where
  all := [.raster, .columns]
  name
    | .raster => "Raster"
    | .columns => "TwentyfourDotDoubleDensity"

instance : Choice CodeTable where
  all := [.page437]
  name
    | .page437 => "Pc437"

def Font.code : Font → UInt8
  | .a => 0
  | .b => 1
  | .c => 2

def Alignment.code : Alignment → UInt8
  | .left => 0
  | .center => 1
  | .right => 2

def ImageMode.code : ImageMode → UInt8
  | .raster => 0x00
  | .columns => 0x21

def CodeTable.code : CodeTable → UInt8
  | .page437 => 0x00

end ThermalPrint
