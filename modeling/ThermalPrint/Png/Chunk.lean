import ThermalPrint.Bytes

/-!
PNG files as sequences of chunks. Each chunk has a type of four letters, some data, and a checksum.
-/

namespace ThermalPrint.Png

def signature : Bytes :=
  [0x89, 0x50, 0x4E, 0x47, 0x0D, 0x0A, 0x1A, 0x0A]

/-- The number that some bytes stand for, the most significant byte first. -/
def bigEndian (bytes : Bytes) : Nat :=
  bytes.foldl (fun value byte => value * 256 + byte.toNat) 0

def checksumBit (remainder : UInt32) : UInt32 :=
  if remainder &&& 1 = 1 then (remainder >>> 1) ^^^ 0xEDB88320 else remainder >>> 1

def checksumByte (remainder : UInt32) (byte : UInt8) : UInt32 :=
  Nat.fold 8 (fun _ _ remainder => checksumBit remainder) (remainder ^^^ byte.toUInt32)

def checksum (bytes : Bytes) : UInt32 :=
  bytes.foldl checksumByte 0xFFFFFFFF ^^^ 0xFFFFFFFF

inductive ChunkType where
  | header
  | palette
  | transparency
  | gamma
  | chromaticities
  | renderingIntent
  | pixelSize
  | animation
  | frame
  | imageData
  | frameData
  | fileEnd
  /-- Any other type, and whether readers must know it. -/
  | other (isCritical : Bool)
  deriving DecidableEq, Repr

namespace ChunkType

def names : List (String × ChunkType) :=
  [("IHDR", header), ("PLTE", palette), ("tRNS", transparency), ("gAMA", gamma),
    ("cHRM", chromaticities), ("sRGB", renderingIntent), ("pHYs", pixelSize), ("acTL", animation),
    ("fcTL", frame), ("IDAT", imageData), ("fdAT", frameData), ("IEND", fileEnd)]

/-- The type that four letters name. A capital first letter marks a type that readers must know. -/
def ofLetters (letters : Bytes) : ChunkType :=
  let name := String.ofList (letters.map fun letter => Char.ofNat letter.toNat)
  (names.lookup name).getD (other (letters.headD 0 &&& 0x20 == 0))

/-- Whether a wrong checksum spoils the file. -/
def isCritical : ChunkType → Bool
  | header | palette | imageData | fileEnd => true
  | other isCritical => isCritical
  | _ => false

end ChunkType

def firstType (file : Bytes) : ChunkType :=
  .ofLetters ((file.drop 4).take 4)

structure Chunk where
  type : ChunkType
  data : Bytes
  isIntact : Bool

/-- Whether the file can be read on after the chunk. -/
def Chunk.isSound (chunk : Chunk) : Bool :=
  chunk.isIntact || !chunk.type.isCritical

/-- Takes the first chunk off a file, if it is complete. -/
def nextChunk? (file : Bytes) : Option (Chunk × Bytes) :=
  let length := bigEndian (file.take 4)
  let letters := (file.drop 4).take 4
  let rest := file.drop 8
  let data := rest.take length
  let sum := (rest.drop length).take 4
  if data.length = length ∧ sum.length = 4 then
    some (⟨.ofLetters letters, data, (checksum (letters ++ data)).toNat = bigEndian sum⟩,
      rest.drop (length + 4))
  else none

end ThermalPrint.Png
