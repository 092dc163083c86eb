import ThermalPrint.Printer.Stream

/-!
Characters as a printer prints them. The font, the alignment, the size and the underline that
commands choose hold for all characters that follow, until a command chooses anew.
-/

namespace ThermalPrint

/-- The choices that hold. The font and the alignment are known by their codes, and the underline
by its thickness. -/
structure Format where
  font : UInt8
  alignment : UInt8
  width : Nat
  height : Nat
  underline : UInt8
  deriving DecidableEq, Repr

/-- A character on paper. -/
structure Glyph where
  byte : UInt8
  format : Format
  deriving DecidableEq, Repr

namespace Format

def after (format : Format) : Token → Format
  | .character _ => format
  | .command introducer function parameters _ =>
    let value := parameters.getD 0 0
    if introducer = 0x1B then
      if function = 0x4D then { format with font := value }
      else if function = 0x61 then { format with alignment := value }
      else if function = 0x2D then { format with underline := value }
      else format
    else if introducer = 0x1D ∧ function = 0x21 then
      { format with width := value.toNat / 16 + 1, height := value.toNat % 16 + 1 }
    else format

def afterAll (format : Format) (tokens : List Token) : Format :=
  tokens.foldl after format

def glyphs (format : Format) : List Token → List Glyph
  | [] => []
  | .character byte :: rest => ⟨byte, format⟩ :: format.glyphs rest
  | .command introducer function parameters data :: rest =>
    (format.after (.command introducer function parameters data)).glyphs rest

end Format

/-- The whole tokens at the start of a stream, up to where a reader no longer knows what follows. -/
def Token.leading (stream : Bytes) : List Token :=
  match _taking : next? stream with
  | none => []
  | some (token, rest) => token :: leading rest
termination_by stream.length
decreasing_by exact length_lt_of_next? _taking

def Format.print (format : Format) (stream : Bytes) : List Glyph :=
  format.glyphs (Token.leading stream)

end ThermalPrint
