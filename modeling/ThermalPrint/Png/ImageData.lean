import ThermalPrint.Deflate.Unpacker
import ThermalPrint.Png.Pass

/-!
The image data of a PNG file: one compressed stream in the data of consecutive chunks of one type.
Chunks of frame data bear numbers in front of their part of the stream.
-/

namespace ThermalPrint.Png

structure ImageData where
  /-- The pieces of the stream, up to the first chunk that is not as it has to be. -/
  pieces : List Bytes
  /-- Whether all chunks are as they have to be, and the head of another chunk follows. -/
  isSound : Bool

namespace ImageData

/-- Files are read through windows of so many bytes, one behind the other. -/
def window : Nat := 32768

def cut (place : Nat) (data : Bytes) : List Bytes :=
  let count := window - place % window
  if data.length ≤ count then [data]
  else data.take count :: cut (place + count) (data.drop count)
termination_by data.length
decreasing_by
  have := Nat.mod_lt place (show 0 < window by decide)
  simp only [List.length_drop]
  omega

/-- What a chunk brings for the stream, given the place of its data and the number that it has to
bear if chunks bear any. Numbers start with a frame, so the first number is never one of image
data. -/
def piecesOf? (type : ChunkType) (number place : Nat) (data : Bytes) : Option (List Bytes) :=
  if type ≠ .frameData then some (cut place data)
  else if 4 ≤ data.length ∧ number ≠ 0 ∧ bigEndian (data.take 4) = number then
    some (cut (place + 4) (data.drop 4))
  else none

/-- Reads chunks of a type from a place in the file on. The last chunk may be cut off; what there is
of its data counts. Each chunk takes some bytes, so a bound of the length of the file is never
reached. -/
def read (type : ChunkType) : (bound number place : Nat) → Bytes → ImageData
  | 0, _, _, _ => ⟨[], false⟩
  | bound + 1, number, place, file =>
    if (file.drop 7).isEmpty then ⟨[], false⟩
    else if firstType file ≠ type then ⟨[], true⟩
    else
      let length := bigEndian (file.take 4)
      match piecesOf? type number (place + 8) ((file.drop 8).take length) with
      | none => ⟨[], false⟩
      | some pieces =>
        match nextChunk? file with
        | none => ⟨pieces, false⟩
        | some (chunk, rest) =>
          if chunk.isSound then
            let following := read type bound (number + 1) (place + length + 12) rest
            ⟨pieces ++ following.pieces, following.isSound⟩
          else ⟨pieces, false⟩

def unpack? (imageData : ImageData) : Option (Array UInt8) :=
  if imageData.isSound then Deflate.unwrap? imageData.pieces.flatten else none

def greatestRoom (header : Header) : Nat :=
  let passes := if header.interlaced then 2 else 1
  header.height * (header.rowBytes header.width + 1) * passes

/-- Whether the first of the filtered rows comes out of the stream before anything is found to be
wrong. -/
def firstRowArrives (header : Header) (greatest : Option Nat) (imageData : ImageData) : Bool :=
  match Deflate.Unpacker.unpack? (firstRowLength header) imageData.isSound imageData.pieces
      (.start greatest) with
  | some output => (output[0]?.bind Filter.ofCode?).isSome
  | none => false

end ImageData

end ThermalPrint.Png
