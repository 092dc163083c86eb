import ThermalPrint.Printer.Stream

/-!
Dots as a printer draws them. A band of rows is drawn at once and moves the paper by its height. A
band of columns belongs to a line; the line feed behind it moves the paper by the height of the
line, or by the space between lines if that is more.
-/

namespace ThermalPrint

/-- Where a printer draws, in dots. -/
structure Paper where
  /-- The row at which the next band starts. -/
  top : Nat
  /-- Lines are at least so far apart. -/
  spacing : Nat
  /-- The height of what is in the line so far. -/
  lineHeight : Nat

namespace Paper

def usualSpacing : Nat := 30

def fresh : Paper := ⟨0, usualSpacing, 0⟩

/-- Whether a command announces packed rows. -/
def isRows (introducer function : UInt8) : Prop :=
  introducer = 0x1D ∧ function = 0x76

/-- Whether a command announces columns of a band that is 24 dots high. -/
def isColumns (introducer function : UInt8) (parameters : Bytes) : Prop :=
  introducer = 0x1B ∧ function = 0x2A ∧ parameters.head? = some 0x21

instance (introducer function : UInt8) : Decidable (isRows introducer function) :=
  inferInstanceAs (Decidable (_ ∧ _))

instance (introducer function : UInt8) (parameters : Bytes) :
    Decidable (isColumns introducer function parameters) :=
  inferInstanceAs (Decidable (_ ∧ _))

/-- Whether a dot of packed data is black, by the place of its byte. The first dot of a byte is its
most significant bit. -/
def isBlackIn (data : Bytes) (place bit : Nat) : Bool :=
  data.getD place 0 &&& 0x80 >>> UInt8.ofNat (bit % 8) != 0

/-- Whether a token draws a black dot at a place. All dots of the data count, those that fill up
rows or bands included. -/
def draws (paper : Paper) (x y : Nat) : Token → Bool
  | .character _ => false
  | .command introducer function parameters data =>
    let row := y - paper.top
    if isRows introducer function then
      let widthBytes := Frame.lengthAt 2 parameters
      paper.top ≤ y && row < Frame.lengthAt 4 parameters && x < 8 * widthBytes &&
        isBlackIn data (row * widthBytes + x / 8) x
    else if isColumns introducer function parameters then
      paper.top ≤ y && row < 24 && x < Frame.lengthAt 1 parameters &&
        isBlackIn data (x * 3 + row / 8) row
    else false

def after (paper : Paper) : Token → Paper
  | .character byte =>
    if byte = 0x0A then
      { paper with top := paper.top + max paper.spacing paper.lineHeight, lineHeight := 0 }
    else paper
  | .command introducer function parameters _ =>
    if isRows introducer function then
      { paper with top := paper.top + Frame.lengthAt 4 parameters }
    else if isColumns introducer function parameters then
      { paper with lineHeight := max paper.lineHeight 24 }
    else if introducer = 0x1B ∧ function = 0x33 then
      { paper with spacing := (parameters.getD 0 0).toNat }
    else if introducer = 0x1B ∧ function = 0x32 then
      { paper with spacing := usualSpacing }
    else paper

def afterAll (paper : Paper) (tokens : List Token) : Paper :=
  tokens.foldl after paper

/-- Whether tokens draw a black dot at a place. -/
def shows (paper : Paper) : List Token → Nat → Nat → Bool
  | [], _, _ => false
  | token :: rest, x, y => paper.draws x y token || (paper.after token).shows rest x y

end Paper

end ThermalPrint
