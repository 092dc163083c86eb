/-!
Streams of bits, and the canonical prefix codes that deflate reads from them. A code is given by
the lengths of its words: shorter words come first, and words of one length are in the order of
their symbols.
-/

namespace ThermalPrint.Deflate

inductive Halt where
  /-- More of the stream has to come. -/
  | starved
  | full
  | finished
  /-- What has been read makes no sense, whatever follows. -/
  | corrupt
  deriving DecidableEq, Repr

/-- The bits of a stream that have come and are not yet read. -/
abbrev Bits := List Bool

/-- The bits of bytes, the least significant bit of each byte first. -/
def bitsOfBytes (bytes : List UInt8) : Bits :=
  bytes.flatMap fun byte => (List.range 8).map fun index => byte.toNat.testBit index

def hasBits (count : Nat) (bits : Bits) : Bool :=
  (bits.take count).length == count

/-- Reads a number, its least significant bit first. -/
def readNumber : (count : Nat) → Bits → Except Halt (Nat × Bits)
  | 0, bits => .ok (0, bits)
  | _ + 1, [] => .error .starved
  | count + 1, bit :: bits => do
    let (rest, bits) ← readNumber count bits
    return (2 * rest + bit.toNat, bits)

def greatestLength : Nat := 15

structure Code where
  /-- How many words there are of each length, from length one on. -/
  counts : List Nat
  symbols : Array Nat

/-- The word that comes next in a stream. Bits that have not come are taken to be zeros. -/
structure Word where
  symbol : Nat
  length : Nat
  rest : Bits
  isWhole : Bool

namespace Code

def symbolsOfLength (lengths : List Nat) (length : Nat) : List Nat :=
  lengths.zipIdx.filterMap fun (other, symbol) => if other = length then some symbol else none

/-- The code of some lengths, of which zero stands for a symbol without a word. -/
def ofLengths (lengths : List Nat) : Code :=
  let groups := (List.range greatestLength).map fun index =>
    symbolsOfLength lengths (index + 1)
  ⟨groups.map List.length, groups.flatten.toArray⟩

/-- The words of the greatest length that are left over after words of given counts, if the words
do not overlap. -/
def spare? : (space : Nat) → (counts : List Nat) → Option Nat
  | space, [] => some space
  | space, count :: counts =>
    if count ≤ 2 * space then spare? (2 * space - count) counts else none

def isComplete (code : Code) : Bool :=
  spare? 1 code.counts == some 0

/-- Whether the code has no word at all, or one of length one. -/
def isTrivial (code : Code) : Bool :=
  code.symbols.isEmpty || (code.symbols.size == 1 && code.counts.head? == some 1)

/-- The next word of more bits than the given length. `value` is the word so far, `first` the first
word of the length, and `index` the place of the first symbol of a longer word. -/
def nextWordFrom? (symbols : Array Nat) :
    (counts : List Nat) → (length value first index : Nat) → Bits → Option Word
  | [], _, _, _, _, _ => none
  | count :: counts, length, value, first, index, bits =>
    let value := 2 * value + (bits.headD false).toNat
    let first := 2 * first
    if value < first + count then
      symbols[index + (value - first)]?.map fun symbol =>
        ⟨symbol, length + 1, bits.tail, !bits.isEmpty⟩
    else nextWordFrom? symbols counts (length + 1) value (first + count) (index + count) bits.tail

def nextWord? (code : Code) (bits : Bits) : Option Word :=
  nextWordFrom? code.symbols code.counts 0 0 0 0 bits

def nextShortWord? (code : Code) (greatest : Nat) (bits : Bits) : Option Word :=
  nextWordFrom? code.symbols (code.counts.take greatest) 0 0 0 0 bits

end Code

end ThermalPrint.Deflate
