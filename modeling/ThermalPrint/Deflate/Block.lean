import ThermalPrint.Deflate.Huffman

/-!
The blocks of a deflate stream: their heads, the codes that they bring, and what their symbols ask
for. Nothing is taken off a stream before all of it has come, but what makes no sense is refused as
soon as it can be seen.
-/

namespace ThermalPrint.Deflate

/-- The two codes of a block: for literals and lengths, and for distances. -/
structure BlockCodes where
  literals : Code
  distances : Code
  /-- Whether the block brings the codes itself. -/
  areOwn : Bool

/-! ### Tokens -/

/-- What a symbol asks for, or two literals that are read together. -/
inductive Token where
  | literals (bytes : List UInt8)
  /-- To repeat output that stands some distance back. -/
  | copy (length distance : Nat)
  | blockEnd

def endSymbol : Nat := 256

def greatestLengthSymbol : Nat := 285

/-- The base of a length symbol, and how many more bits it has. -/
def lengthBase? (symbol : Nat) : Option (Nat × Nat) :=
  if symbol ≤ endSymbol then none
  else
    [(3, 0), (4, 0), (5, 0), (6, 0), (7, 0), (8, 0), (9, 0), (10, 0), (11, 1), (13, 1), (15, 1),
      (17, 1), (19, 2), (23, 2), (27, 2), (31, 2), (35, 3), (43, 3), (51, 3), (59, 3), (67, 4),
      (83, 4), (99, 4), (115, 4), (131, 5), (163, 5), (195, 5), (227, 5),
      (258, 0)][symbol - endSymbol - 1]?

def distanceBase? (symbol : Nat) : Option (Nat × Nat) :=
  if symbol < 4 then some (symbol + 1, 0)
  else if symbol < 30 then
    let extra := symbol / 2 - 1
    some ((2 + symbol % 2) <<< extra + 1, extra)
  else none

def readAmount (base extra : Nat) (bits : Bits) : Except Halt (Nat × Bits) := do
  let (more, bits) ← readNumber extra bits
  return (base + more, bits)

/-- How many bits have to be there before a distance is refused that no word stands for. -/
def distanceRefusalBits : Nat := 10

def readDistance (distances : Code) (bits : Bits) : Except Halt (Nat × Bits) :=
  let word? := distances.nextWord? bits
  match word?, word?.bind fun word => distanceBase? word.symbol with
  | some word, some (base, extra) =>
    if word.isWhole then readAmount base extra word.rest else .error .starved
  | _, _ => .error (if hasBits distanceRefusalBits bits then .corrupt else .starved)

/-- The longest word, and the longest two words together, that are found by one look at the bits. -/
def greatestShortLength : Nat := 12

/-- The literal that is read together with the one before it. Only codes that a block brings are
made for this. -/
def secondLiteral? (codes : BlockCodes) (first : Word) : Option Word :=
  if codes.areOwn ∧ first.length < greatestShortLength then
    match codes.literals.nextShortWord? (greatestShortLength - first.length) first.rest with
    | some second => if second.symbol < endSymbol ∧ 2 ≤ second.length then some second else none
    | none => none
  else none

/-- Reads a token, given how much output there is. The symbols after the last length, which only
blocks without codes of their own have, end a block too. -/
def readToken (codes : BlockCodes) (size : Nat) (bits : Bits) : Except Halt (Token × Bits) :=
  match codes.literals.nextWord? bits with
  | none => .error .corrupt
  | some word =>
    if word.symbol < endSymbol then
      match secondLiteral? codes word with
      | some second =>
        if second.isWhole then
          .ok (.literals [.ofNat word.symbol, .ofNat second.symbol], second.rest)
        else .error .starved
      | none =>
        if word.isWhole then .ok (.literals [.ofNat word.symbol], word.rest)
        else .error .starved
    else if !word.isWhole then .error .starved
    else
      match lengthBase? word.symbol with
      | some (base, extra) => do
        let (length, bits) ← readAmount base extra word.rest
        let (distance, bits) ← readDistance codes.distances bits
        if distance ≤ size then return (.copy length distance, bits) else .error .corrupt
      | none => .ok (.blockEnd, word.rest)

/-- What comes after the end of the block, if the end comes next and this is clear from some
bits. -/
def restAfterEnd? (codes : BlockCodes) (count : Nat) (bits : Bits) : Option Bits :=
  match codes.literals.nextWord? bits with
  | some word => if word.symbol = endSymbol ∧ hasBits count bits then some word.rest else none
  | none => none

/-! ### Codes of blocks -/

def fixedCodes : BlockCodes where
  literals := .ofLengths (List.replicate 144 8 ++ List.replicate 112 9 ++ List.replicate 24 7 ++
    List.replicate 8 8)
  distances := .ofLengths (List.replicate 32 5)
  areOwn := false

/-- The order in which the lengths of the code for lengths are given. -/
def lengthOrder : List Nat :=
  [16, 17, 18, 0, 8, 7, 9, 6, 10, 5, 11, 4, 12, 3, 13, 2, 14, 1, 15]

def readTriples : (count : Nat) → Bits → Except Halt (List Nat × Bits)
  | 0, bits => .ok ([], bits)
  | count + 1, bits => do
    let (value, bits) ← readNumber 3 bits
    let (values, bits) ← readTriples count bits
    return (value :: values, bits)

/-- The longest word of a code for lengths. So many bits have to be there even for a shorter
word. -/
def greatestLengthOfLength : Nat := 7

/-- Reads one code length, or some that repeat a length or zero. The lengths so far are in
reverse. -/
def readRepetition (code : Code) (lengths : List Nat) (bits : Bits) :
    Except Halt (List Nat × Bits) :=
  if !hasBits greatestLengthOfLength bits then .error .starved
  else
    match code.nextWord? bits with
    | none => .error .corrupt
    | some word =>
      if word.symbol < 16 then .ok (word.symbol :: lengths, word.rest)
      else if word.symbol = 16 then do
        let (count, bits) ← readAmount 3 2 word.rest
        match lengths with
        | last :: _ => return (List.replicate count last ++ lengths, bits)
        | [] => .error .corrupt
      else do
        let (count, bits) ←
          if word.symbol = 17 then readAmount 3 3 word.rest else readAmount 11 7 word.rest
        return (List.replicate count 0 ++ lengths, bits)

/-- Reads code lengths until there are enough. Each time there is at least one more, so a bound
above the number of lengths is never reached. -/
def readLengths (code : Code) (wanted : Nat) :
    (bound : Nat) → (lengths : List Nat) → Bits → Except Halt (List Nat × Bits)
  | 0, _, _ => .error .corrupt
  | bound + 1, lengths, bits =>
    if wanted = lengths.length then .ok (lengths.reverse, bits)
    else if wanted < lengths.length then .error .corrupt
    else do
      let (lengths, bits) ← readRepetition code lengths bits
      readLengths code wanted bound lengths bits

def codesOfLengths? (literals distances : List Nat) : Option BlockCodes :=
  let codes : BlockCodes := ⟨.ofLengths literals, .ofLengths distances, true⟩
  if literals[endSymbol]? ≠ some 0 ∧ codes.literals.isComplete ∧
      (codes.distances.isComplete ∨ codes.distances.isTrivial) then
    some codes
  else none

def readCodes (bits : Bits) : Except Halt (BlockCodes × Bits) := do
  let (literalCount, bits) ← readAmount 257 5 bits
  let (distanceCount, bits) ← readAmount 1 5 bits
  let (lengthCount, bits) ← readAmount 4 4 bits
  if greatestLengthSymbol + 1 < literalCount ∨ 30 < distanceCount then .error .corrupt
  else
    let (triples, bits) ← readTriples lengthCount bits
    let lengthCode := Code.ofLengths ((List.range 19).map fun symbol =>
      ((lengthOrder.zip triples).lookup symbol).getD 0)
    if !lengthCode.isComplete then .error .corrupt
    else
      let wanted := literalCount + distanceCount
      let (lengths, bits) ← readLengths lengthCode wanted (wanted + 1) [] bits
      match codesOfLengths? (lengths.take literalCount) (lengths.drop literalCount) with
      | some codes => return (codes, bits)
      | none => .error .corrupt

/-! ### Heads of blocks -/

inductive Block where
  | empty
  /-- Bytes that are not compressed: one, and some more. -/
  | stored (more : Nat)
  | compressed (codes : BlockCodes)

def alignToByte (bits : Bits) : Bits :=
  bits.drop (bits.length % 8)

/-- Reads the length of a block that is not compressed. Its complement has to follow it. -/
def readStoredLength (bits : Bits) : Except Halt (Nat × Bits) := do
  let (length, bits) ← readNumber 16 (alignToByte bits)
  let (complement, bits) ← readNumber 16 bits
  if length + complement = 65535 then return (length, bits) else .error .corrupt

/-- The word for the end of a block among the fixed codes has so many bits. -/
def fixedEndLength : Nat := 7

/-- Reads the head of a block, and tells whether the block is the last one. -/
def readBlock (bits : Bits) : Except Halt (Bool × Block × Bits) := do
  let (last, bits) ← readNumber 1 bits
  let (kind, bits) ← readNumber 2 bits
  let isLast := last = 1
  match kind with
  | 0 => do
    let (length, bits) ← readStoredLength bits
    match length with
    | 0 => return (isLast, .empty, bits)
    | more + 1 => return (isLast, .stored more, bits)
  | 1 =>
    match restAfterEnd? fixedCodes fixedEndLength bits with
    | some bits => return (isLast, .empty, bits)
    | none => return (isLast, .compressed fixedCodes, bits)
  | 2 => do
    let (codes, bits) ← readCodes bits
    return (isLast, .compressed codes, bits)
  | _ => .error .corrupt

end ThermalPrint.Deflate
