import ThermalPrint.Qr.Segment

/-!
The codewords of a QR code: the bits of its segments, padded to the capacity of the version, split
into blocks, and interleaved with the error correction of each block.
-/

namespace ThermalPrint.Qr

/-! ### Bits -/

def bitsOf (count value : Nat) : List Bool :=
  (List.range count).map fun index => value.testBit (count - 1 - index)

def alphanumericValue (byte : UInt8) : Nat :=
  let code := byte.toNat
  if 0x30 ≤ code ∧ code ≤ 0x39 then code - 0x30
  else if 0x41 ≤ code ∧ code ≤ 0x5A then code - 0x41 + 10
  else 36 + [0x20, 0x24, 0x25, 0x2A, 0x2B, 0x2D, 0x2E, 0x2F, 0x3A].idxOf code

def numericBits : Bytes → List Bool
  | a :: b :: c :: rest =>
    bitsOf 10 ((a.toNat - 0x30) * 100 + (b.toNat - 0x30) * 10 + (c.toNat - 0x30)) ++
      numericBits rest
  | [a, b] => bitsOf 7 ((a.toNat - 0x30) * 10 + (b.toNat - 0x30))
  | [a] => bitsOf 4 (a.toNat - 0x30)
  | [] => []

def alphanumericBits : Bytes → List Bool
  | a :: b :: rest =>
    bitsOf 11 (alphanumericValue a * 45 + alphanumericValue b) ++ alphanumericBits rest
  | [a] => bitsOf 6 (alphanumericValue a)
  | [] => []

def kanjiBits : Bytes → List Bool
  | first :: second :: rest =>
    let code := first.toNat * 256 + second.toNat
    let offset := if code < 0xE040 then code - 0x8140 else code - 0xC140
    bitsOf 13 (offset / 256 * 0xC0 + offset % 256) ++ kanjiBits rest
  | _ => []

def Mode.code : Mode → Nat
  | .numeric => 1
  | .alphanumeric => 2
  | .byte => 4
  | .kanji => 8

def Mode.encode : Mode → Bytes → List Bool
  | .numeric => numericBits
  | .alphanumeric => alphanumericBits
  | .byte => fun bytes => bytes.flatMap fun byte => bitsOf 8 byte.toNat
  | .kanji => kanjiBits

def encodeSegments (versions : VersionClass) : List Segment → Bytes → List Bool
  | [], _ => []
  | segment :: rest, content =>
    bitsOf 4 segment.mode.code ++ bitsOf (versions.lengthBits segment.mode) segment.count ++
      segment.mode.encode (content.take segment.size) ++
      encodeSegments versions rest (content.drop segment.size)

def byteOfBits (bits : List Bool) : UInt8 :=
  bits.foldl (fun byte bit => byte <<< 1 ||| (if bit then 1 else 0)) 0

def bytesOfBits : (count : Nat) → List Bool → Bytes
  | 0, _ => []
  | count + 1, bits => byteOfBits (bits.take 8) :: bytesOfBits count (bits.drop 8)

def fillers (count : Nat) : Bytes :=
  (List.range count).map fun index => if index % 2 = 0 then 0xEC else 0x11

/-- The data codewords of a layout. The bits end with four zeros if there is room for them. -/
def Layout.dataCodewords (layout : Layout) : Bytes :=
  let versions := VersionClass.of layout.version
  let bits := encodeSegments versions layout.segments layout.content
  let capacity := dataBits layout.version
  let terminated := bits ++ List.replicate (min 4 (capacity - bits.length)) false
  let bytes := (terminated.length + 7) / 8
  let padded := terminated ++ List.replicate (bytes * 8 - terminated.length) false
  bytesOfBits bytes padded ++ fillers (capacity / 8 - bytes)

/-! ### Error correction -/

def double (value : UInt8) : UInt8 :=
  if value < 0x80 then value <<< 1 else (value <<< 1) ^^^ 0x1D

def times (left right : UInt8) : UInt8 :=
  (bitsOf 8 right.toNat).foldl
    (fun product bit => double product ^^^ (if bit then left else 0)) 0

/-- Multiplies a polynomial, whose leading coefficient one is left out, by a linear one. -/
def timesLinear (root : UInt8) (coefficients : Bytes) : Bytes :=
  List.zipWith (fun high low => times high root ^^^ low) (1 :: coefficients)
    (coefficients ++ [0])

/-- The polynomial that has the first powers of two as roots, without its leading coefficient. -/
def generator (degree : Nat) : Bytes :=
  (degree.fold (fun _ _ (roots : UInt8 × Bytes) =>
    (double roots.1, timesLinear roots.1 roots.2)) (1, [])).2

/-- The remainder of a polynomial by the generator, after one more coefficient. -/
def remainderStep (generator remainder : Bytes) (coefficient : UInt8) : Bytes :=
  match remainder with
  | [] => []
  | first :: rest =>
    let factor := coefficient ^^^ first
    List.zipWith (fun low term => low ^^^ times term factor) (rest ++ [0]) generator

def correction (generator data : Bytes) : Bytes :=
  data.foldl (remainderStep generator) (List.replicate generator.length 0)

/-! ### Blocks -/

/-- Splits data into blocks. The last blocks have one codeword more if they cannot all be equal. -/
def splitBlocks (capacity : Capacity) (data : Bytes) : List Bytes :=
  let short := capacity.dataCodewords / capacity.blocks
  let shortBlocks := capacity.blocks - capacity.dataCodewords % capacity.blocks
  (List.range capacity.blocks).map fun index =>
    let start := index * short + (index - shortBlocks)
    (data.drop start).take (if index < shortBlocks then short else short + 1)

/-- Takes the first codeword of each block, then the second, and so on. -/
def interleave (blocks : List Bytes) : Bytes :=
  let longest := (blocks.map List.length).foldl max 0
  (List.range longest).flatMap fun index => blocks.filterMap fun block => block[index]?

def Layout.codewords (layout : Layout) : Bytes :=
  let capacity := capacity layout.version
  let blocks := splitBlocks capacity layout.dataCodewords
  let generator := generator capacity.correction
  interleave blocks ++ interleave (blocks.map (correction generator))

end ThermalPrint.Qr
