import ThermalPrint.Printer.Command
import ThermalPrint.Proofs.Text.Ascii

/-!
# Barcodes carry their codes

`Symbology.Accepts` says which codes a symbology has, by their characters. A payload is made of just
these codes. It is short enough for the byte that announces its length, and the code is read back
from it: as it is, or from pairs of braces in Code 128.
-/

namespace ThermalPrint.Symbology

/-! ### Codes -/

def IsNumber (lengths : List Nat) (code : String) : Prop :=
  code.length ∈ lengths ∧ ∀ character ∈ code.toList, character.isDigit = true

/-- The characters of Code 39. -/
def isCharacter39 (character : Char) : Bool :=
  character.isDigit || character.isUpper || " $%*+-./".toList.contains character

def isPrintableCharacter (character : Char) : Bool :=
  ' ' ≤ character && character ≤ '~'

/-- The codes of a symbology. In Code 128 a brace takes the place of two characters. -/
def Accepts (code : String) : Symbology → Prop
  | .upcA => IsNumber [11, 12] code
  | .upcE => IsNumber [6, 7, 8, 11, 12] code
  | .ean13 => IsNumber [12, 13] code
  | .ean8 => IsNumber [7, 8] code
  | .code39 =>
    (1 ≤ code.length ∧ code.length ≤ 255) ∧
      ∀ character ∈ code.toList, isCharacter39 character = true
  | .code128 =>
    code ≠ "" ∧ (∀ character ∈ code.toList, isPrintableCharacter character = true) ∧
      code.length + code.toList.count '\x7b' ≤ 253

/-- Reads braces that are written twice. A brace that stands alone would be a command. -/
def undoubleBraces? : Bytes → Option Bytes
  | [] => some []
  | [byte] => if byte = 0x7B then none else some [byte]
  | byte :: next :: rest =>
    if byte ≠ 0x7B then (undoubleBraces? (next :: rest)).map (byte :: ·)
    else if next = 0x7B then (undoubleBraces? rest).map (0x7B :: ·)
    else none

/-! ### Bytes and characters -/

theorem isSameTest_digits : Bytes.IsSameTest isDigit Char.isDigit where
  byteIsAscii := Bytes.forall_byte (by decide +kernel)
  characterIsAscii := by
    intro character digit
    simp only [Char.isDigit, Bool.and_eq_true, decide_eq_true_eq, ge_iff_le,
      UInt32.le_iff_toNat_le] at digit
    exact Nat.lt_of_le_of_lt digit.2 (by decide)
  same := Bytes.forall_ascii (by decide +kernel)

theorem isSameTest_printable : Bytes.IsSameTest isPrintable isPrintableCharacter where
  byteIsAscii := Bytes.forall_byte (by decide +kernel)
  characterIsAscii := by
    intro character printable
    simp only [isPrintableCharacter, Bool.and_eq_true, decide_eq_true_eq, Char.le_def,
      UInt32.le_iff_toNat_le] at printable
    exact Nat.lt_of_le_of_lt printable.2 (by decide)
  same := Bytes.forall_ascii (by decide +kernel)

theorem isSameTest_alphabet39 : Bytes.IsSameTest isInAlphabet39 isCharacter39 where
  byteIsAscii := Bytes.forall_byte (by decide +kernel)
  characterIsAscii := by
    intro character inAlphabet
    simp only [isCharacter39, Bool.or_eq_true] at inAlphabet
    rcases inAlphabet with (digit | upper) | listed
    · exact isSameTest_digits.characterIsAscii character digit
    · have upToZ : character.val ≤ 'Z'.val := (of_decide_eq_true upper).2
      exact Nat.lt_of_le_of_lt (UInt32.le_iff_toNat_le.mp upToZ) (by decide)
    · have ascii : " $%*+-./".toList.all (fun listed => listed.toNat < 128) = true := by decide
      exact of_decide_eq_true
        (List.all_eq_true.mp ascii character (List.contains_iff_mem.mp listed))
  same := Bytes.forall_ascii (by decide +kernel)

/-! ### Braces -/

theorem length_doubleBraces (bytes : Bytes) :
    (doubleBraces bytes).length = bytes.length + bytes.count brace := by
  induction bytes with
  | nil => rfl
  | cons byte bytes inductionHypothesis =>
    rw [doubleBraces, List.flatMap_cons, List.length_append, ← doubleBraces, inductionHypothesis]
    by_cases isBrace : byte = brace
    · simp [isBrace]
      omega
    · simp [isBrace]
      omega

theorem length_doubleBraces_ofText {code : String}
    (printable : ∀ character ∈ code.toList, isPrintableCharacter character = true) :
    (doubleBraces (Bytes.ofText code)).length = code.length + code.toList.count '\x7b' := by
  have braces : (Bytes.ofText code).count brace = code.toList.count '\x7b' :=
    isSameTest_printable.count_ofText printable '\x7b' (by decide)
  rw [length_doubleBraces, isSameTest_printable.length_ofText printable, braces]

theorem undoubleBraces?_cons {byte : UInt8} (notBrace : byte ≠ 0x7B) (bytes : Bytes) :
    undoubleBraces? (byte :: bytes) = (undoubleBraces? bytes).map (byte :: ·) := by
  cases bytes with
  | nil => simp [undoubleBraces?, notBrace]
  | cons next rest => simp [undoubleBraces?, notBrace]

/-- Reading pairs of braces gives back what they were written for. -/
theorem undoubleBraces?_doubleBraces (bytes : Bytes) :
    undoubleBraces? (doubleBraces bytes) = some bytes := by
  induction bytes with
  | nil => rfl
  | cons byte bytes inductionHypothesis =>
    rw [doubleBraces, List.flatMap_cons, ← doubleBraces]
    by_cases isBrace : byte = brace
    · rw [if_pos isBrace, List.cons_append, List.singleton_append, brace, undoubleBraces?,
        if_neg (not_not.mpr rfl), if_pos rfl, inductionHypothesis, isBrace, Option.map_some, brace]
    · rw [if_neg isBrace, List.singleton_append, undoubleBraces?_cons isBrace,
        inductionHypothesis, Option.map_some]

/-! ### Payloads -/

section Payload

variable {code : String} {payload : Bytes}

theorem checked_eq_ok_iff {first second : Prop} [Decidable first] [Decidable second]
    {firstFlaw secondFlaw : Flaw} {accepted : Bytes} :
    (if first then .error firstFlaw else if second then .error secondFlaw else .ok accepted :
      Except Flaw Bytes) = .ok payload ↔ (¬first ∧ ¬second) ∧ payload = accepted := by
  by_cases refused : first
  · simp [refused]
  · by_cases refusedThen : second
    · simp [refused, refusedThen]
    · simp [refused, refusedThen, eq_comm]

theorem digitPayload_eq_ok_iff {allowed : List Nat} (positive : 0 ∉ allowed) :
    digitPayload allowed (Bytes.ofText code) = .ok payload ↔
      IsNumber allowed code ∧ payload = Bytes.ofText code := by
  rw [digitPayload, checked_eq_ok_iff, IsNumber]
  apply and_congr_left'
  simp only [Bool.or_eq_true, Bool.not_eq_true', not_or, Bool.not_eq_false, List.isEmpty_iff,
    List.contains_iff_mem, isSameTest_digits.all_ofText_iff]
  constructor
  · rintro ⟨⟨_, allDigits⟩, listed⟩
    rw [isSameTest_digits.length_ofText allDigits] at listed
    exact ⟨listed, allDigits⟩
  · rintro ⟨listed, allDigits⟩
    rw [← isSameTest_digits.length_ofText allDigits] at listed
    refine ⟨⟨?_, allDigits⟩, listed⟩
    intro empty
    rw [empty] at listed
    exact positive listed

theorem payload39_eq_ok_iff :
    payload39 (Bytes.ofText code) = .ok payload ↔
      Accepts code .code39 ∧ payload = Bytes.ofText code := by
  rw [payload39, checked_eq_ok_iff, Accepts]
  apply and_congr_left'
  simp only [Bool.or_eq_true, Bool.not_eq_true', not_or, Bool.not_eq_false, decide_eq_true_eq,
    List.isEmpty_iff, ← List.length_eq_zero_iff, isSameTest_alphabet39.all_ofText_iff]
  apply and_congr_left
  intro inAlphabet
  rw [isSameTest_alphabet39.length_ofText inAlphabet]
  omega

theorem payload128_eq_ok_iff :
    payload128 (Bytes.ofText code) = .ok payload ↔
      Accepts code .code128 ∧ payload = brace :: 0x42 :: doubleBraces (Bytes.ofText code) := by
  rw [payload128, checked_eq_ok_iff, Accepts]
  apply and_congr_left'
  simp only [Bool.or_eq_true, Bool.not_eq_true', not_or, Bool.not_eq_false, decide_eq_true_eq,
    List.isEmpty_iff, ← List.length_eq_zero_iff, isSameTest_printable.all_ofText_iff,
    List.length_cons]
  rw [and_left_comm (a := code ≠ "")]
  apply and_congr_right
  intro printable
  rw [isSameTest_printable.length_ofText printable, length_doubleBraces_ofText printable,
    String.length_eq_zero_iff]
  apply and_congr_right'
  omega

/-- What a symbology makes of a code, whether it accepts the code or not. -/
def form (symbology : Symbology) (code : String) : Bytes :=
  match symbology with
  | .upcA | .upcE | .ean13 | .ean8 | .code39 => Bytes.ofText code
  | .code128 => brace :: 0x42 :: doubleBraces (Bytes.ofText code)

theorem payload_eq_ok_iff {symbology : Symbology} :
    symbology.payload code = .ok payload ↔
      Accepts code symbology ∧ payload = symbology.form code := by
  cases symbology with
  | upcA => exact digitPayload_eq_ok_iff (by decide)
  | upcE => exact digitPayload_eq_ok_iff (by decide)
  | ean13 => exact digitPayload_eq_ok_iff (by decide)
  | ean8 => exact digitPayload_eq_ok_iff (by decide)
  | code39 => exact payload39_eq_ok_iff
  | code128 => exact payload128_eq_ok_iff

theorem form_injective {symbology : Symbology} {other : String}
    (same : symbology.form code = symbology.form other) : code = other := by
  cases symbology with
  | code128 =>
    simp only [form, List.cons.injEq, true_and] at same
    have bytes := congrArg undoubleBraces? same
    rw [undoubleBraces?_doubleBraces, undoubleBraces?_doubleBraces] at bytes
    exact Bytes.ofText_injective (Option.some_inj.mp bytes)
  | upcA | upcE | ean13 | ean8 | code39 => exact Bytes.ofText_injective same

theorem length_form {symbology : Symbology} (accepted : Accepts code symbology) :
    1 ≤ (symbology.form code).length ∧ (symbology.form code).length ≤ 255 := by
  have ofNumber {lengths : List Nat} (bounded : ∀ length ∈ lengths, 1 ≤ length ∧ length ≤ 255)
      (number : IsNumber lengths code) :
      1 ≤ (Bytes.ofText code).length ∧ (Bytes.ofText code).length ≤ 255 := by
    rw [isSameTest_digits.length_ofText number.2]
    exact bounded _ number.1
  cases symbology with
  | upcA | upcE | ean13 | ean8 => exact ofNumber (by decide) accepted
  | code39 =>
    obtain ⟨rightLength, inAlphabet⟩ := accepted
    rw [form, isSameTest_alphabet39.length_ofText inAlphabet]
    exact rightLength
  | code128 =>
    obtain ⟨_, printable, short⟩ := accepted
    rw [form, List.length_cons, List.length_cons, length_doubleBraces_ofText printable]
    omega

/-- A payload exists for just the codes of a symbology. It has 1 to 255 bytes, which the command for
the barcode announces as they are. It is the code itself, but in Code 128, where it starts with the
choice of code set B and gives the code back when its braces are read in pairs. So no two codes of a
symbology have one payload. -/
theorem payload_carries_code (symbology : Symbology) (code : String) :
    ((∃ payload, symbology.payload code = .ok payload) ↔ Accepts code symbology) ∧
    (∀ payload, symbology.payload code = .ok payload →
      (1 ≤ payload.length ∧ payload.length ≤ 255) ∧
      (∃ announced : UInt8, announced.toNat = payload.length ∧
        (Command.barcode symbology payload).bytes =
          [0x1D, 0x6B, symbology.code, announced] ++ payload) ∧
      (symbology ≠ .code128 → payload = Bytes.ofText code) ∧
      (symbology = .code128 → ∃ data, payload = [0x7B, 0x42] ++ data ∧
        undoubleBraces? data = some (Bytes.ofText code))) ∧
    ∀ other payload, symbology.payload code = .ok payload →
      symbology.payload other = .ok payload → code = other := by
  refine ⟨?_, ?_, ?_⟩
  · simp only [payload_eq_ok_iff, exists_and_left, exists_eq, and_true]
  · intro payload success
    obtain ⟨accepted, rfl⟩ := payload_eq_ok_iff.mp success
    have bounded := length_form accepted
    refine ⟨bounded, ⟨.ofNat (symbology.form code).length, ?_, rfl⟩, ?_, ?_⟩
    · exact UInt8.toNat_ofNat_of_lt' (Nat.lt_succ_of_le bounded.2)
    · intro notBraced
      cases symbology with
      | code128 => exact absurd rfl notBraced
      | upcA | upcE | ean13 | ean8 | code39 => rfl
    · rintro rfl
      exact ⟨doubleBraces (Bytes.ofText code), rfl, undoubleBraces?_doubleBraces _⟩
  · intro other payload success otherSuccess
    obtain ⟨_, rfl⟩ := payload_eq_ok_iff.mp success
    obtain ⟨_, same⟩ := payload_eq_ok_iff.mp otherSuccess
    exact form_injective same

end Payload

/-- A code with two braces, which take four places. -/
def bracedCode : String := "1\x7b\x7b2"

theorem bracedCode_carried :
    ∃ payload, Symbology.payload .code128 bracedCode = .ok payload ∧
      payload = [0x7B, 0x42, 0x31, 0x7B, 0x7B, 0x7B, 0x7B, 0x32] ∧
      Accepts bracedCode .code128 ∧
      (∃ announced : UInt8, announced.toNat = payload.length ∧
        (Command.barcode .code128 payload).bytes = [0x1D, 0x6B, 73, announced] ++ payload) ∧
      (∃ data, payload = [0x7B, 0x42] ++ data ∧
        undoubleBraces? data = some (Bytes.ofText bracedCode)) ∧
      ∀ other, Symbology.payload .code128 other = .ok payload → bracedCode = other := by
  have success : Symbology.payload .code128 bracedCode =
      .ok [0x7B, 0x42, 0x31, 0x7B, 0x7B, 0x7B, 0x7B, 0x32] := rfl
  obtain ⟨accepts, carries, injective⟩ := payload_carries_code .code128 bracedCode
  obtain ⟨_, announced, _, readBack⟩ := carries _ success
  exact ⟨_, success, rfl, accepts.mp ⟨_, success⟩, announced, readBack rfl,
    fun other otherSuccess => injective other _ success otherSuccess⟩

end ThermalPrint.Symbology
