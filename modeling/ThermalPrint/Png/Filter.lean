import ThermalPrint.Png.Header

/-!
Filters of PNG rows. A filtered row holds differences from a prediction, which is made from the
byte to the left, the byte above, and the byte above the one to the left.
-/

namespace ThermalPrint.Png

inductive Filter where
  | none
  | left
  | above
  | average
  | paeth
  deriving DecidableEq, Repr

namespace Filter

def ofCode? : UInt8 → Option Filter
  | 0 => some none
  | 1 => some left
  | 2 => some above
  | 3 => some average
  | 4 => some paeth
  | _ => Option.none

/-- The neighbour that is nearest to left plus above minus corner; left before above before corner
if some are equally near. -/
def nearest (left above corner : Nat) : Nat :=
  let estimate : Int := left + above - corner
  let toLeft := (estimate - left).natAbs
  let toAbove := (estimate - above).natAbs
  let toCorner := (estimate - corner).natAbs
  if toLeft ≤ toAbove ∧ toLeft ≤ toCorner then left
  else if toAbove ≤ toCorner then above
  else corner

def predict (filter : Filter) (left above corner : UInt8) : UInt8 :=
  match filter with
  | none => 0
  | .left => left
  | .above => above
  | average => .ofNat ((left.toNat + above.toNat) / 2)
  | paeth => .ofNat (nearest left.toNat above.toNat corner.toNat)

def byteAt (row : Array UInt8) (place : Nat) : UInt8 :=
  row[place]?.getD 0

def byteBefore (row : Array UInt8) (distance place : Nat) : UInt8 :=
  if distance ≤ place then byteAt row (place - distance) else 0

/-- Undoes a filter, given the row above. -/
def undo (filter : Filter) (distance : Nat) (previous row : Array UInt8) : Array UInt8 :=
  row.size.fold (fun place _ result =>
    let predicted := filter.predict (byteBefore result distance place)
      (byteAt previous place) (byteBefore previous distance place)
    result.push (byteAt row place + predicted)) #[]

end Filter

/-- The rows of a picture or of a pass over it. -/
abbrev Rows := List (Array UInt8)

/-- Reads rows of some bytes from a place in the data on, each after the number of its filter. -/
def readRows (data : Array UInt8) (distance length : Nat) :
    (count place : Nat) → (previous : Array UInt8) → Option Rows
  | 0, _, _ => some []
  | count + 1, place, previous => do
    let code ← data[place]?
    let filter ← Filter.ofCode? code
    if place + 1 + length ≤ data.size then
      let row := filter.undo distance previous (data.extract (place + 1) (place + 1 + length))
      let rows ← readRows data distance length count (place + 1 + length) row
      return row :: rows
    else none

end ThermalPrint.Png
