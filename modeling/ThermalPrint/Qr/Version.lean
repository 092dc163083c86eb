/-!
The forty versions of QR codes, at error correction level M. A version fixes the side of the
symbol, its codewords and their blocks, and the places of the alignment patterns.
-/

namespace ThermalPrint.Qr

structure Capacity where
  dataCodewords : Nat
  blocks : Nat
  correction : Nat
  deriving DecidableEq, Repr

/-- The capacities of versions 1 to 40. -/
def capacities : List Capacity := [
  ⟨16, 1, 10⟩, ⟨28, 1, 16⟩, ⟨44, 1, 26⟩, ⟨64, 2, 18⟩, ⟨86, 2, 24⟩,
  ⟨108, 4, 16⟩, ⟨124, 4, 18⟩, ⟨154, 4, 22⟩, ⟨182, 5, 22⟩, ⟨216, 5, 26⟩,
  ⟨254, 5, 30⟩, ⟨290, 8, 22⟩, ⟨334, 9, 22⟩, ⟨365, 9, 24⟩, ⟨415, 10, 24⟩,
  ⟨453, 10, 28⟩, ⟨507, 11, 28⟩, ⟨563, 13, 26⟩, ⟨627, 14, 26⟩, ⟨669, 16, 26⟩,
  ⟨714, 17, 26⟩, ⟨782, 17, 28⟩, ⟨860, 18, 28⟩, ⟨914, 20, 28⟩, ⟨1000, 21, 28⟩,
  ⟨1062, 23, 28⟩, ⟨1128, 25, 28⟩, ⟨1193, 26, 28⟩, ⟨1267, 28, 28⟩, ⟨1373, 29, 28⟩,
  ⟨1455, 31, 28⟩, ⟨1541, 33, 28⟩, ⟨1631, 35, 28⟩, ⟨1725, 37, 28⟩, ⟨1812, 38, 28⟩,
  ⟨1914, 40, 28⟩, ⟨1992, 43, 28⟩, ⟨2102, 45, 28⟩, ⟨2216, 47, 28⟩, ⟨2334, 49, 28⟩]

def greatestVersion : Nat := 40

def capacity (version : Nat) : Capacity :=
  capacities.getD (version - 1) ⟨0, 1, 0⟩

def dataBits (version : Nat) : Nat :=
  (capacity version).dataCodewords * 8

def side (version : Nat) : Nat :=
  17 + 4 * version

/-- The coordinates of the centers of alignment patterns. -/
def alignmentCenters (version : Nat) : List Nat :=
  match version with
  | 2 => [6, 18]
  | 3 => [6, 22]
  | 4 => [6, 26]
  | 5 => [6, 30]
  | 6 => [6, 34]
  | 7 => [6, 22, 38]
  | 8 => [6, 24, 42]
  | 9 => [6, 26, 46]
  | 10 => [6, 28, 50]
  | 11 => [6, 30, 54]
  | 12 => [6, 32, 58]
  | 13 => [6, 34, 62]
  | 14 => [6, 26, 46, 66]
  | 15 => [6, 26, 48, 70]
  | 16 => [6, 26, 50, 74]
  | 17 => [6, 30, 54, 78]
  | 18 => [6, 30, 56, 82]
  | 19 => [6, 30, 58, 86]
  | 20 => [6, 34, 62, 90]
  | 21 => [6, 28, 50, 72, 94]
  | 22 => [6, 26, 50, 74, 98]
  | 23 => [6, 30, 54, 78, 102]
  | 24 => [6, 28, 54, 80, 106]
  | 25 => [6, 32, 58, 84, 110]
  | 26 => [6, 30, 58, 86, 114]
  | 27 => [6, 34, 62, 90, 118]
  | 28 => [6, 26, 50, 74, 98, 122]
  | 29 => [6, 30, 54, 78, 102, 126]
  | 30 => [6, 26, 52, 78, 104, 130]
  | 31 => [6, 30, 56, 82, 108, 134]
  | 32 => [6, 34, 60, 86, 112, 138]
  | 33 => [6, 30, 58, 86, 114, 142]
  | 34 => [6, 34, 62, 90, 118, 146]
  | 35 => [6, 30, 54, 78, 102, 126, 150]
  | 36 => [6, 24, 50, 76, 102, 128, 154]
  | 37 => [6, 28, 54, 80, 106, 132, 158]
  | 38 => [6, 32, 58, 84, 110, 136, 162]
  | 39 => [6, 26, 54, 82, 110, 138, 166]
  | 40 => [6, 30, 58, 86, 114, 142, 170]
  | _ => []

end ThermalPrint.Qr
