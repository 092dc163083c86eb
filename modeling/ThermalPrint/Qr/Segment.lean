import ThermalPrint.Bytes
import ThermalPrint.Qr.Version

/-!
Segments of QR content. Bytes are grouped by the narrowest mode that can hold them; neighbouring
segments are then joined where that does not cost bits.
-/

namespace ThermalPrint.Qr

inductive Mode where
  | numeric
  | alphanumeric
  | byte
  | kanji
  deriving DecidableEq, Repr

structure Segment where
  mode : Mode
  size : Nat
  deriving DecidableEq, Repr

/-- The classes of bytes. In kanji mode characters have two bytes; some bytes can only be a first
one, and some only a second one. -/
inductive ByteClass where
  | symbol
  | digit
  | letter
  | first1
  | first2
  | first3
  | second1
  | second2
  | other
  deriving DecidableEq, Repr

def ByteClass.of (byte : UInt8) : ByteClass :=
  let code := byte.toNat
  if [0x20, 0x24, 0x25, 0x2A, 0x2B, 0x2D, 0x2E, 0x2F, 0x3A].contains code then .symbol
  else if 0x30 ≤ code ∧ code ≤ 0x39 then .digit
  else if 0x41 ≤ code ∧ code ≤ 0x5A then .letter
  else if 0x81 ≤ code ∧ code ≤ 0x9F then .first1
  else if 0xE0 ≤ code ∧ code ≤ 0xEA then .first2
  else if code = 0xEB then .first3
  else if code = 0x40 ∨ (0x5B ≤ code ∧ code ≤ 0x7E) ∨ code = 0x80 ∨
      (0xA0 ≤ code ∧ code ≤ 0xBF) then .second1
  else if (0xC0 ≤ code ∧ code ≤ 0xDF) ∨ (0xEC ≤ code ∧ code ≤ 0xFC) then .second2
  else .other

/-- The mode of a byte that stands for itself, and none for the first byte of a pair. -/
def ByteClass.mode? : ByteClass → Option Mode
  | .symbol | .letter => some .alphanumeric
  | .digit => some .numeric
  | .first1 | .first2 | .first3 => none
  | .second1 | .second2 | .other => some .byte

def ByteClass.isPair (first second : ByteClass) : Bool :=
  match first, second with
  | .first3, .letter | .first3, .first1 | .first3, .second1 => true
  | .first3, _ => false
  | _, .letter | _, .first1 | _, .first2 | _, .first3 | _, .second1 | _, .second2 => true
  | _, _ => false

/-- What has been gathered for the segment in progress. -/
inductive Progress where
  | nothing
  /-- Bytes of a mode in which each stands for itself. -/
  | run (mode : Mode) (size : Nat)
  /-- The bytes of complete pairs. -/
  | pairs (size : Nat)
  /-- The bytes of complete pairs, and the class of the first byte of another one. -/
  | half (size : Nat) (first : ByteClass)
  deriving DecidableEq, Repr

namespace Progress

def start (first : ByteClass) : Progress :=
  match first.mode? with
  | some mode => .run mode 1
  | none => .half 0 first

def close : Progress → List Segment
  | nothing => []
  | run mode size => [⟨mode, size⟩]
  | pairs size => [⟨.kanji, size⟩]
  | half 0 _ => [⟨.byte, 1⟩]
  | half size _ => [⟨.kanji, size⟩, ⟨.byte, 1⟩]

/-- The progress after a byte of some class, if the byte belongs to the segment. -/
def extend? (progress : Progress) (next : ByteClass) : Option Progress :=
  match progress with
  | nothing => none
  | run mode size => if next.mode? = some mode then some (.run mode (size + 1)) else none
  | pairs size => if next.mode? = none then some (.half size next) else none
  | half size first => if first.isPair next then some (.pairs (size + 2)) else none

end Progress

def segmentsFrom : Progress → List ByteClass → List Segment
  | progress, [] => progress.close
  | progress, next :: rest =>
    match progress.extend? next with
    | some extended => segmentsFrom extended rest
    | none => progress.close ++ segmentsFrom (.start next) rest

def segments (content : Bytes) : List Segment :=
  segmentsFrom .nothing (content.map ByteClass.of)

/-- Versions whose segments have lengths of equal width. -/
inductive VersionClass where
  | small
  | medium
  | large
  deriving DecidableEq, Repr

namespace VersionClass

def of (version : Nat) : VersionClass :=
  if version ≤ 9 then .small else if version ≤ 26 then .medium else .large

def greatest : VersionClass → Nat
  | small => 9
  | medium => 26
  | large => greatestVersion

/-- The bits of the length of a segment. -/
def lengthBits : VersionClass → Mode → Nat
  | small, .numeric => 10
  | medium, .numeric => 12
  | large, .numeric => 14
  | small, .alphanumeric => 9
  | medium, .alphanumeric => 11
  | large, .alphanumeric => 13
  | small, .byte => 8
  | medium, .byte => 16
  | large, .byte => 16
  | small, .kanji => 8
  | medium, .kanji => 10
  | large, .kanji => 12

end VersionClass

/-- The mode that can hold the bytes of two modes. -/
def Mode.join : Mode → Mode → Mode
  | .numeric, other => if other = .kanji then .byte else other
  | .alphanumeric, .numeric | .alphanumeric, .alphanumeric => .alphanumeric
  | .kanji, .kanji => .kanji
  | _, _ => .byte

namespace Segment

def count (segment : Segment) : Nat :=
  if segment.mode = .kanji then segment.size / 2 else segment.size

def contentBits (segment : Segment) : Nat :=
  match segment.mode with
  | .numeric => (segment.count * 10 + 2) / 3
  | .alphanumeric => (segment.count * 11 + 1) / 2
  | .byte => segment.count * 8
  | .kanji => segment.count * 13

def bits (versions : VersionClass) (segment : Segment) : Nat :=
  4 + versions.lengthBits segment.mode + segment.contentBits

def append (left right : Segment) : Segment :=
  ⟨left.mode.join right.mode, left.size + right.size⟩

/-- Joins a segment with those after it, from left to right, as long as that costs no bits. -/
def joinFrom (versions : VersionClass) (last : Segment) : List Segment → List Segment
  | [] => [last]
  | next :: rest =>
    if (last.append next).bits versions ≤ last.bits versions + next.bits versions then
      joinFrom versions (last.append next) rest
    else last :: joinFrom versions next rest

/-- Joins segments where that costs no bits. -/
def joinAll (versions : VersionClass) : List Segment → List Segment
  | [] => []
  | first :: rest => joinFrom versions first rest

def totalBits (versions : VersionClass) (segments : List Segment) : Nat :=
  segments.foldl (fun sum segment => sum + segment.bits versions) 0

end Segment

structure Layout where
  content : Bytes
  version : Nat
  segments : List Segment
  deriving DecidableEq, Repr

def leastVersion (bits : Nat) : Nat :=
  ((List.range greatestVersion).find? fun index => bits ≤ dataBits (index + 1)).getD
    (greatestVersion - 1) + 1

/-- The layout of content, if it fits any version. The classes of versions are tried in turn. -/
def Layout.of? (content : Bytes) : Option Layout :=
  [VersionClass.small, .medium, .large].findSome? fun versions =>
    let joined := Segment.joinAll versions (Qr.segments content)
    let bits := Segment.totalBits versions joined
    if bits ≤ dataBits versions.greatest then some ⟨content, leastVersion bits, joined⟩ else none

end ThermalPrint.Qr
