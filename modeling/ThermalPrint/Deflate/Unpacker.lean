import ThermalPrint.Deflate.Inflater

/-!
Unpacking a zlib stream that comes in pieces, just until there is enough output. The room for output
grows step by step. An error that comes up before there is enough output is noticed, and one after
it is not.
-/

namespace ThermalPrint.Deflate

/-- The room for output. -/
structure Room where
  /-- The bytes that are kept have so many places. -/
  size : Nat
  /-- So many bytes at the start of the output are no longer kept. -/
  dropped : Nat
  /-- There are never more places than this, until they are taken. -/
  greatest : Option Nat

namespace Room

/-- Matches reach back so far, and there is room for so much more whenever it grows. -/
def window : Nat := 32768

/-- When more bytes are kept, only the last ones stay. -/
def greatestKept : Nat := 4 * window

def limit (room : Room) : Nat :=
  room.dropped + room.size

def bounded (greatest : Option Nat) (size : Nat) : Nat :=
  greatest.elim size (min size)

/-- The room for the next bytes, after some output. It at least doubles whenever it grows. -/
def grow (room : Room) (written : Nat) : Room :=
  let kept := written - room.dropped
  let greatest := room.greatest.filter fun greatest => kept < greatest
  let size :=
    if room.size < bounded greatest (kept + window) then
      bounded greatest (room.size + max window room.size)
    else room.size
  { room with size, greatest }

/-- Lets go of output that is not needed any more. -/
def settle (room : Room) (written : Nat) : Room :=
  if greatestKept < written - room.dropped then { room with dropped := written - window }
  else room

end Room

structure Unpacker where
  inflater : Inflater
  room : Room
  written : Nat

namespace Unpacker

def start (greatest : Option Nat) : Unpacker where
  inflater := .start
  room := ⟨0, 0, greatest⟩
  written := 0

def advance (unpacker : Unpacker) : Halt × Unpacker :=
  let room := unpacker.room.grow unpacker.written
  let (halt, inflater) := unpacker.inflater.run (some room.limit)
  let written := min inflater.output.size room.limit
  (halt, ⟨inflater, room.settle written, written⟩)

/-- Advances until there is enough output or all that has come of the stream is taken in. While the
room is filled each time, there is at least one byte more, so a bound of the length is enough. -/
def advanceTo? (length : Nat) : (bound : Nat) → Unpacker → Option Unpacker
  | 0, unpacker => some unpacker
  | bound + 1, unpacker =>
    let (halt, unpacker) := unpacker.advance
    if halt = .corrupt then none
    else if length ≤ unpacker.written ∨ halt ≠ .full ∨ unpacker.inflater.hasTakenInAll then
      some unpacker
    else advanceTo? length bound unpacker

/-- Unpacks the rest of the stream, of which nothing more comes. -/
def finish? (length : Nat) (unpacker : Unpacker) : Option (Array UInt8) :=
  match unpacker.inflater.run none with
  | (.finished, inflater) => if length ≤ inflater.output.size then some inflater.output else none
  | _ => none

/-- The output when there is enough of it. The pieces are taken one after the other. -/
def unpack? (length : Nat) (isWhole : Bool) :
    (pieces : List (List UInt8)) → Unpacker → Option (Array UInt8)
  | [], unpacker => if isWhole then unpacker.finish? length else none
  | piece :: pieces, unpacker => do
    let unpacker ← advanceTo? length length { unpacker with
      inflater := unpacker.inflater.feed piece }
    if length ≤ unpacker.written then return unpacker.inflater.output
    else unpack? length isWhole pieces unpacker

end Unpacker

end ThermalPrint.Deflate
