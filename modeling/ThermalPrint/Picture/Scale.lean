import ThermalPrint.Picture.Gray

/-!
Shrinking pictures to the width of the paper. A shade of the result is the mean of the shades
around its place in the source, weighted by a triangle that is as wide as two dots of the result.
Rows are combined first and columns after them; in between the shades are not rounded.
-/

namespace ThermalPrint

/-- The part of a line of dots that goes into one dot of the result. -/
structure Taps where
  first : Nat
  weights : List Float32

namespace Taps

/-- A triangle of height one that reaches one to either side of zero. -/
def triangle (distance : Float32) : Float32 :=
  if distance.abs < 1 then 1 - distance.abs else 0

/-- The natural that is nearest to a whole number. -/
def wholeNatural (value : Float32) : Nat :=
  if value ≤ 0 then 0 else value.toUInt64.toNat

/-- The dots of a line of some length that go into a dot of a line of another length. -/
def ofIndex (source target index : Nat) : Taps :=
  let ratio := Float32.ofNat source / Float32.ofNat target
  let support := if ratio < 1 then 1 else ratio
  let center := (Float32.ofNat index + 0.5) * ratio
  let first := min (wholeNatural (center - support).floor) (source - 1)
  let last := min (max (wholeNatural (center + support).ceil) (first + 1)) source
  let center := center - 0.5
  let weights := (List.range (last - first)).map fun offset =>
    triangle ((Float32.ofNat (first + offset) - center) / support)
  let total := weights.foldl (· + ·) 0
  ⟨first, weights.map (· / total)⟩

def sumFrom (value : Nat → Float32) (sum : Float32) (place : Nat) : List Float32 → Float32
  | [] => sum
  | weight :: rest => sumFrom value (sum + value place * weight) (place + 1) rest

def sum (taps : Taps) (value : Nat → Float32) : Float32 :=
  sumFrom value 0 taps.first taps.weights

end Taps

/-- A mean as a shade; a half is rounded up. -/
def shadeOfMean (mean : Float32) : UInt8 :=
  let bounded := if mean < 0 then 0 else if 255 < mean then 255 else mean
  bounded.round.toUInt8

namespace GrayPicture

def scale (picture : GrayPicture) (width height : Nat) : GrayPicture :=
  let rows := Array.ofFn fun y : Fin height => Taps.ofIndex picture.height height y
  let columns := Array.ofFn fun x : Fin width => Taps.ofIndex picture.width width x
  let combined := Array.ofFn fun index : Fin (picture.width * height) =>
    let x := index.val % picture.width
    match rows[index.val / picture.width]? with
    | some taps => taps.sum fun y => Float32.ofNat (picture.shade x y).toNat
    | none => 0
  .ofFn width height fun x y =>
    match columns[x]? with
    | some taps =>
      shadeOfMean (taps.sum fun column => combined[y * picture.width + column]?.getD 0)
    | none => 255

/-- The width and the height of a picture on paper of some width. Wider pictures keep their
proportions, and others keep their size. -/
def fittedSize (width height paperWidth : Nat) : Nat × Nat :=
  let paperWidth := max paperWidth 1
  if paperWidth < width then (paperWidth, max (height * paperWidth / width) 1)
  else (width, height)

/-- The fitted size in registers. The height is multiplied and divided in 64 bits, and then cut to
32 bits. -/
def fittedWords (width height : UInt32) (paperWidth : UInt16) : UInt32 × UInt32 :=
  let paperWidth := (max paperWidth 1).toUInt32
  if paperWidth < width then
    let scaled := height.toUInt64 * paperWidth.toUInt64 / width.toUInt64
    (paperWidth, (max scaled 1).toUInt32)
  else (width, height)

def fit (picture : GrayPicture) (paperWidth : Nat) : GrayPicture :=
  let (width, height) := fittedSize picture.width picture.height paperWidth
  if width < picture.width then picture.scale width height else picture

end GrayPicture

end ThermalPrint
