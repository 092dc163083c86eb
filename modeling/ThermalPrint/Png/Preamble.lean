import ThermalPrint.Png.Header

/-!
What the chunks before the image data say. Chunks without data say nothing at all, and of the
chunks that matter most may come only once. An animation announces the first of its frames here,
and the image data is then that of the frame.
-/

namespace ThermalPrint.Png

structure Frame where
  width : Nat
  height : Nat
  deriving DecidableEq, Repr

/-- What the chunks before the image data say. -/
structure Preamble where
  header : Header
  palette : Option Bytes
  transparency : Option Bytes
  /-- The types of the chunks of which there may be one and has been one. -/
  seen : List ChunkType
  frameCount : Option Nat
  frame : Option Frame
  /-- The number that the next chunk of the animation bears. -/
  nextNumber : Nat

namespace Preamble

def ofHeader (header : Header) : Preamble :=
  ⟨header, none, none, [], none, none, 0⟩

def acceptsTransparency (preamble : Preamble) (data : Bytes) : Bool :=
  match preamble.header.color with
  | .gray => 2 ≤ data.length
  | .rgb => 6 ≤ data.length
  | .indexed => preamble.palette.isSome
  | .grayAlpha | .rgba => false

/-- Takes note of a chunk that may come once, if it is valid. -/
def addOnce? (preamble : Preamble) (type : ChunkType) (isValid : Bool) : Option Preamble :=
  if isValid && !preamble.seen.contains type then
    some { preamble with seen := type :: preamble.seen }
  else none

def fits (start length edge : Nat) : Bool :=
  length ≠ 0 && start + length ≤ edge

/-- Whether the data of a chunk announces a frame that may come next: it bears the next number, lies
within the picture, and leaves and enters the picture in known ways. -/
def acceptsFrame (preamble : Preamble) (data : Bytes) : Bool :=
  let field (place : Nat) : Nat := bigEndian ((data.drop place).take 4)
  match data.drop 24 with
  | disposal :: blending :: _ =>
    field 0 = preamble.nextNumber && fits (field 12) (field 4) preamble.header.width &&
      fits (field 16) (field 8) preamble.header.height && disposal ≤ 2 && blending ≤ 1
  | _ => false

def addData? (preamble : Preamble) (type : ChunkType) (data : Bytes) : Option Preamble :=
  match type with
  | .palette =>
    if preamble.palette.isSome then none else some { preamble with palette := some data }
  | .transparency =>
    if preamble.transparency.isSome || !preamble.acceptsTransparency data then none
    else some { preamble with transparency := some data }
  | .gamma => preamble.addOnce? type (4 ≤ data.length)
  | .chromaticities => preamble.addOnce? type (32 ≤ data.length)
  | .renderingIntent => preamble.addOnce? type (data.head?.any (· ≤ 3))
  | .pixelSize => preamble.addOnce? type ((data.drop 8).head?.any (· ≤ 1))
  | .animation =>
    if data.length < 8 then none
    else some { preamble with frameCount := some (bigEndian (data.take 4)) }
  | .frame =>
    if preamble.acceptsFrame data then
      some { preamble with
        frame := some ⟨bigEndian ((data.drop 4).take 4), bigEndian ((data.drop 8).take 4)⟩
        nextNumber := preamble.nextNumber + 1 }
    else none
  | .other _ => some preamble
  | .header | .imageData | .frameData | .fileEnd => none

def add? (preamble : Preamble) (chunk : Chunk) : Option Preamble :=
  if !chunk.isSound then none
  else if chunk.data.isEmpty then some preamble
  else preamble.addData? chunk.type chunk.data

def imageHeader (preamble : Preamble) : Header :=
  match preamble.frame with
  | some frame => { preamble.header with width := frame.width, height := frame.height }
  | none => preamble.header

/-- Whether there is a picture to show: an animation that announces a frame has to have one. -/
def hasPicture (preamble : Preamble) : Bool :=
  preamble.frame.isNone || preamble.frameCount ≠ some 0

end Preamble

/-- Takes the header off a file. Chunks without data may precede it if they bear its name. Each
chunk takes some bytes, so a bound of the length of the file is never reached. -/
def readHeader : (bound : Nat) → Bytes → Option (Header × Bytes)
  | 0, _ => none
  | bound + 1, file => do
    let (chunk, rest) ← nextChunk? file
    if chunk.type ≠ .header ∨ !chunk.isSound then none
    else if chunk.data.isEmpty then readHeader bound rest
    else
      let header ← Header.ofData? chunk.data
      return (header, rest)

/-- Reads chunks up to the image data. Each chunk takes some bytes, so a bound of the length of the
file is never reached. -/
def readPreamble (preamble : Preamble) : (bound : Nat) → Bytes → Option (Preamble × Bytes)
  | 0, _ => none
  | bound + 1, file =>
    match firstType file with
    | .imageData | .frameData => some (preamble, file)
    | .fileEnd => none
    | _ => do
      let (chunk, rest) ← nextChunk? file
      let preamble ← preamble.add? chunk
      readPreamble preamble bound rest

end ThermalPrint.Png
