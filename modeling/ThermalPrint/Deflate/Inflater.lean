import ThermalPrint.Deflate.Block

/-!
Inflating: reading back what deflate and its zlib wrapper have compressed. A stream may come piece
by piece, and the output may be limited. Inflating goes on until it needs more of the stream, more
room for output, or nothing more at all.
-/

namespace ThermalPrint.Deflate

inductive Stage where
  | wrapper
  | blockHead
  /-- Bytes of a block that is not compressed: one, and some more. -/
  | stored (more : Nat)
  | compressed (codes : BlockCodes)
  /-- The checksum after the blocks. -/
  | checksum
  | done

structure Inflater where
  stage : Stage
  isLast : Bool
  bits : Bits
  /-- The output. What is beyond the limit has been read but waits for room. -/
  output : Array UInt8
  /-- What was left to read when the stream was last looked at, if it has been looked at since
  something came. -/
  seen : Option Bits

namespace Inflater

def start : Inflater where
  stage := .wrapper
  isLast := false
  bits := []
  output := #[]
  seen := none

/-- Adds a piece of the stream. What comes after the end of the stream is ignored. -/
def feed (piece : List UInt8) (inflater : Inflater) : Inflater :=
  match inflater.stage with
  | .done => inflater
  | _ =>
    if piece.isEmpty then inflater
    else { inflater with bits := inflater.bits ++ bitsOfBytes piece, seen := none }

def isFull (limit : Option Nat) (inflater : Inflater) : Bool :=
  limit.any fun limit => limit ≤ inflater.output.size

/-- Whether output waits for room. -/
def isOverfull (limit : Option Nat) (inflater : Inflater) : Bool :=
  limit.any fun limit => limit < inflater.output.size

/-- As many bits as are taken in by one look at a stream. -/
def greatestLook : Nat := 63

def hasTakenInAll (inflater : Inflater) : Bool :=
  inflater.bits.isEmpty || inflater.seen.any fun bits => !hasBits (greatestLook + 1) bits

def endBlock (inflater : Inflater) : Inflater :=
  { inflater with stage := if inflater.isLast then .checksum else .blockHead }

/-- Whether two bytes start a zlib stream: deflate with a window of at most 32768 bytes, a header
that is a multiple of 31, and no preset dictionary. -/
def isWrapper (method flags : Nat) : Bool :=
  method % 16 == 8 && method / 16 ≤ 7 && (method * 256 + flags) % 31 == 0 && !flags.testBit 5

def readWrapper (bits : Bits) : Except Halt Bits := do
  let (method, bits) ← readNumber 8 bits
  let (flags, bits) ← readNumber 8 bits
  if isWrapper method flags then return bits else .error .corrupt

/-- Appends bytes that stand some distance back. -/
def copyBack (output : Array UInt8) (distance length : Nat) : Array UInt8 :=
  length.fold (fun _ _ output => output.push (output[output.size - distance]?.getD 0)) output

def append (output : Array UInt8) : Token → Array UInt8
  | .literals bytes => bytes.foldl Array.push output
  | .copy length distance => copyBack output distance length
  | .blockEnd => output

/-- Whether a token is the literal of a short word. -/
def isShortLiteral (token : Token) (length : Nat) : Bool :=
  match token with
  | .literals [_] => length ≤ greatestShortLength
  | _ => false

/-- Goes on behind a token. The stream is looked at in front of each token, and also behind one
that takes the last room, unless there is not enough room for it or it is a short literal. -/
def take (limit : Option Nat) (token : Token) (rest : Bits) (inflater : Inflater) : Inflater :=
  let before := inflater.bits
  let inflater := { inflater with output := append inflater.output token, bits := rest }
  if inflater.isFull limit then
    let isLastLook := inflater.isOverfull limit ||
      isShortLiteral token (before.length - rest.length)
    { inflater with seen := some (if isLastLook then before else rest) }
  else { inflater with seen := some rest }

/-- So many bits have to be there before the end of a block is read without room for output. -/
def endWithoutRoomBits : Nat := 15

/-- Goes on by one head, token, byte or checksum, or tells why not. Without room for output, only
the end of a block is read, and what follows it. -/
def step (limit : Option Nat) (inflater : Inflater) : Option Halt × Inflater :=
  match inflater.stage with
  | .wrapper =>
    match readWrapper inflater.bits with
    | .error halt => (some halt, inflater)
    | .ok rest => (none, { inflater with stage := .blockHead, bits := rest })
  | .blockHead =>
    match readBlock inflater.bits with
    | .error halt => (some halt, inflater)
    | .ok (isLast, .empty, rest) => (none, { inflater with isLast, bits := rest }.endBlock)
    | .ok (isLast, .stored more, rest) =>
      (none, { inflater with
        stage := .stored more, isLast, bits := rest, seen := some inflater.bits })
    | .ok (isLast, .compressed codes, rest) =>
      (none, { inflater with stage := .compressed codes, isLast, bits := rest, seen := some rest })
  | .stored more =>
    if inflater.isFull limit then (some .full, inflater)
    else
      match readNumber 8 inflater.bits with
      | .error halt => (some halt, inflater)
      | .ok (byte, rest) =>
        let inflater :=
          { inflater with output := inflater.output.push (.ofNat byte), bits := rest }
        match more with
        | 0 => (none, inflater.endBlock)
        | more + 1 => (none, { inflater with stage := .stored more })
  | .compressed codes =>
    if inflater.isOverfull limit then (some .full, inflater)
    else if inflater.isFull limit then
      match restAfterEnd? codes endWithoutRoomBits inflater.bits with
      | some rest => (none, { inflater with bits := rest }.endBlock)
      | none => (some .full, inflater)
    else
      match readToken codes inflater.output.size inflater.bits with
      | .error halt => (some halt, inflater)
      | .ok (.blockEnd, rest) => (none, { inflater with bits := rest }.endBlock)
      | .ok (token, rest) => (none, inflater.take limit token rest)
  | .checksum =>
    match readNumber 32 (alignToByte inflater.bits) with
    | .error halt => (some halt, inflater)
    | .ok (_, rest) => (none, { inflater with stage := .done, bits := rest })
  | .done => (some .finished, inflater)

/-- Goes on by some steps, and tells why no further. Each step takes at least one bit, so a bound
above the number of bits is never reached. -/
def steps (limit : Option Nat) : (bound : Nat) → Inflater → Halt × Inflater
  | 0, inflater => (.starved, inflater)
  | bound + 1, inflater =>
    match inflater.step limit with
    | (some halt, inflater) => (halt, inflater)
    | (none, inflater) => steps limit bound inflater

/-- Looks at the stream before tokens are read, unless output waits for room. -/
def look (limit : Option Nat) (inflater : Inflater) : Inflater :=
  match inflater.stage with
  | .compressed _ =>
    if inflater.isOverfull limit then inflater
    else { inflater with seen := some inflater.bits }
  | _ => inflater

def run (limit : Option Nat) (inflater : Inflater) : Halt × Inflater :=
  steps limit (inflater.bits.length + 1) (inflater.look limit)

end Inflater

/-- The data of a zlib stream. The checksum after the data has to be there but is not compared, and
what follows it is ignored. -/
def unwrap? (stream : List UInt8) : Option (Array UInt8) :=
  match (Inflater.start.feed stream).run none with
  | (.finished, inflater) => some inflater.output
  | _ => none

end ThermalPrint.Deflate
