import ThermalPrint.Bytes

/-!
Streams of bytes as a printer reads them. A byte that starts no command stands for a character. A
command is an introducing byte, escape or group separator, and a byte for its function; then come
its parameters, of which there is a fixed number, and the data that the parameters announce.
-/

namespace ThermalPrint

/-- What follows the first two bytes of a command. -/
structure Frame where
  parameters : Nat
  /-- The number of data bytes that some parameters announce. -/
  announced : Bytes → Nat

namespace Frame

def plain (parameters : Nat) : Frame :=
  ⟨parameters, fun _ => 0⟩

/-- The length in two of the parameters, the low byte first. -/
def lengthAt (place : Nat) (parameters : Bytes) : Nat :=
  (parameters.getD place 0).toNat + 256 * (parameters.getD (place + 1) 0).toNat

def ofEscape? (function : UInt8) : Option Frame :=
  if [0x32, 0x40].contains function then some (plain 0)
  else if [0x2D, 0x33, 0x4D, 0x61, 0x64, 0x74].contains function then some (plain 1)
  else if function = 0x2A then some ⟨3, fun parameters => 3 * lengthAt 1 parameters⟩
  else none

def ofGroup? (function : UInt8) : Option Frame :=
  if [0x21, 0x48, 0x62].contains function then some (plain 1)
  else if function = 0x56 then some (plain 2)
  else if function = 0x6B then some ⟨2, fun parameters => (parameters.getD 1 0).toNat⟩
  else if function = 0x28 then some ⟨3, lengthAt 1⟩
  else if function = 0x76 then
    some ⟨6, fun parameters => lengthAt 2 parameters * lengthAt 4 parameters⟩
  else none

def of? (introducer function : UInt8) : Option Frame :=
  if introducer = 0x1B then ofEscape? function else ofGroup? function

/-- Takes parameters and data off a stream, if both are whole. -/
def take? (frame : Frame) (stream : Bytes) : Option (Bytes × Bytes × Bytes) :=
  let parameters := stream.take frame.parameters
  let following := stream.drop frame.parameters
  let announced := frame.announced parameters
  if parameters.length = frame.parameters ∧ announced ≤ following.length then
    some (parameters, following.take announced, following.drop announced)
  else none

theorem append_of_take? {frame : Frame} {stream parameters data rest : Bytes}
    (success : frame.take? stream = some (parameters, data, rest)) :
    parameters ++ data ++ rest = stream := by
  simp only [take?] at success
  split at success
  · simp only [Option.some.injEq, Prod.mk.injEq] at success
    obtain ⟨rfl, rfl, rfl⟩ := success
    rw [List.append_assoc, List.take_append_drop, List.take_append_drop]
  · simp at success

end Frame

inductive Token where
  | character (byte : UInt8)
  | command (introducer function : UInt8) (parameters data : Bytes)
  deriving DecidableEq, Repr

namespace Token

def bytes : Token → Bytes
  | character byte => [byte]
  | command introducer function parameters data =>
    introducer :: function :: (parameters ++ data)

/-- Takes the first token off a stream, if there is a whole one. -/
def next? : Bytes → Option (Token × Bytes)
  | [] => none
  | first :: rest =>
    if first = 0x1B ∨ first = 0x1D then
      match rest with
      | [] => none
      | function :: rest =>
        match (Frame.of? first function).bind fun frame => frame.take? rest with
        | some (parameters, data, rest) =>
          some (.command first function parameters data, rest)
        | none => none
    else some (.character first, rest)

theorem bytes_append_of_next? {stream rest : Bytes} {token : Token}
    (success : next? stream = some (token, rest)) : token.bytes ++ rest = stream := by
  unfold next? at success
  split at success
  · simp at success
  · split at success
    · split at success
      · simp at success
      · split at success
        · rename_i taken
          obtain ⟨frame, _, taken⟩ := Option.bind_eq_some_iff.mp taken
          simp only [Option.some.injEq, Prod.mk.injEq] at success
          obtain ⟨rfl, rfl⟩ := success
          simp [bytes, ← Frame.append_of_take? taken]
        · simp at success
    · simp only [Option.some.injEq, Prod.mk.injEq] at success
      obtain ⟨rfl, rfl⟩ := success
      rfl

theorem bytes_ne_nil (token : Token) : token.bytes ≠ [] := by
  cases token <;> simp [bytes]

theorem length_lt_of_next? {stream rest : Bytes} {token : Token}
    (success : next? stream = some (token, rest)) : rest.length < stream.length := by
  have whole := congrArg List.length (bytes_append_of_next? success)
  have nonempty := List.length_pos_iff.mpr token.bytes_ne_nil
  rw [List.length_append] at whole
  omega

/-- The tokens of a stream, if it ends with a whole one. -/
def readAll? (stream : Bytes) : Option (List Token) :=
  if stream = [] then some []
  else
    match _taking : next? stream with
    | none => none
    | some (token, rest) => (readAll? rest).map (token :: ·)
termination_by stream.length
decreasing_by exact length_lt_of_next? _taking

end Token

end ThermalPrint
