import ThermalPrint.Json.Printer
import ThermalPrint.Json.Reader

/-!
# Numbers and strings

Whole numbers and strings are read back from their texts. A string ends itself, so anything may
follow it; a number has to be followed by something that does not go on with it.
-/

namespace ThermalPrint.Json

variable {rest : List Char}

/-! ## Numbers -/

/-- A text that does not go on with a number in front of it. -/
def EndsNumber (rest : List Char) : Prop :=
  ∀ first ∈ rest.head?, first.isDigit = false ∧ first ≠ '.' ∧ first ≠ 'e' ∧ first ≠ 'E'

theorem endsNumber_nil : EndsNumber [] := by
  simp [EndsNumber]

theorem endsNumber_cons {first : Char} (rest : List Char) (notDigit : first.isDigit = false)
    (notPoint : first ≠ '.') (notSmall : first ≠ 'e') (notCapital : first ≠ 'E') :
    EndsNumber (first :: rest) := by
  simp [EndsNumber, notDigit, notPoint, notSmall, notCapital]

theorem le_ofDigitChars (digits : List Char) (value : Nat) :
    value ≤ Nat.ofDigitChars 10 digits value := by
  have positive : 0 < 10 ^ digits.length := Nat.pow_pos (by decide)
  calc
    value ≤ 10 ^ digits.length * value := Nat.le_mul_of_pos_left value positive
    _ ≤ 10 ^ digits.length * value + Nat.ofDigitChars 10 digits 0 := Nat.le_add_right _ _
    _ = Nat.ofDigitChars 10 digits value := Nat.ofDigitChars_eq_ofDigitChars_zero.symm

theorem gatherDigits_append {digits : List Char} {value : Nat}
    (areDigits : ∀ digit ∈ digits, digit.isDigit = true)
    (fits : Nat.ofDigitChars 10 digits value < wordBound) (ends : EndsNumber rest) :
    gatherDigits value (digits ++ rest) = (Nat.ofDigitChars 10 digits value, rest) := by
  induction digits generalizing value with
  | nil =>
    cases rest with
    | nil => rfl
    | cons first rest =>
      have notDigit := (ends first rfl).1
      simp [gatherDigits, notDigit, Nat.ofDigitChars_nil]
  | cons digit digits inductionHypothesis =>
    have isDigit : digit.isDigit = true := areDigits digit (by simp)
    rw [Nat.ofDigitChars_cons, Nat.mul_comm 10 value] at fits ⊢
    -- A digit is taken only while the number fits, and the digits after it make it no smaller.
    have extended : value * 10 + digitValue digit < wordBound :=
      Nat.lt_of_le_of_lt (le_ofDigitChars digits _) fits
    have others : ∀ digit ∈ digits, digit.isDigit = true := fun digit member =>
      areDigits digit (List.mem_cons_of_mem _ member)
    simp only [List.cons_append, gatherDigits, isDigit, extended, decide_true, Bool.and_true,
      if_true]
    exact inductionHypothesis others fits

/-- Only the text of zero starts with the digit zero. -/
theorem toDigits_of_pos (magnitude : Nat) (positive : 0 < magnitude) :
    ∃ first digits, Nat.toDigits 10 magnitude = first :: digits ∧ first ≠ '0' := by
  induction magnitude using Nat.strongRecOn with
  | ind magnitude inductionHypothesis =>
    by_cases single : magnitude < 10
    · refine ⟨magnitude.digitChar, [], Nat.toDigits_of_lt_base single, ?_⟩
      rw [Ne, Nat.digitChar_eq_zero]
      omega
    · obtain ⟨first, digits, printed, nonzero⟩ :=
        inductionHypothesis (magnitude / 10) (by omega) (by omega)
      refine ⟨first, digits ++ [(magnitude % 10).digitChar], ?_, nonzero⟩
      rw [Nat.toDigits_of_base_le (by decide) (by omega), printed]
      rfl

theorem readAfterWhole_of_ends (negative : Bool) (digits : Nat) (ends : EndsNumber rest) :
    readAfterWhole negative digits 0 rest = endWhole negative digits rest := by
  cases rest with
  | nil => rfl
  | cons first rest =>
    obtain ⟨_, notPoint, notSmall, notCapital⟩ := ends first rfl
    unfold readAfterWhole
    split <;> simp_all

theorem ofDigitChars_digitValue (first : Char) (digits : List Char) :
    Nat.ofDigitChars 10 digits (digitValue first) = Nat.ofDigitChars 10 (first :: digits) 0 := by
  rw [Nat.ofDigitChars_cons]
  simp [digitValue]

/-- Digits that fit 64 bits are read to their end. The first is read on its own; as it is not zero,
others may follow it. -/
theorem readNumber_digits (negative : Bool) {first : Char} {digits : List Char}
    (nonzero : first ≠ '0') (areDigits : ∀ digit ∈ first :: digits, digit.isDigit = true)
    (fits : Nat.ofDigitChars 10 (first :: digits) 0 < wordBound) (ends : EndsNumber rest) :
    readNumber negative (first :: digits ++ rest) =
      endWhole negative (Nat.ofDigitChars 10 (first :: digits) 0) rest := by
  have gathered : gatherDigits (digitValue first) (digits ++ rest) =
      (Nat.ofDigitChars 10 (first :: digits) 0, rest) := by
    rw [← ofDigitChars_digitValue] at fits ⊢
    exact gatherDigits_append (fun digit member => areDigits digit (by simp [member])) fits ends
  have noExcess : rest.takeWhile Char.isDigit = [] := by
    cases rest with
    | nil => rfl
    | cons next rest => simp [(ends next rfl).1]
  have allRead : rest.dropWhile Char.isDigit = rest := by
    cases rest with
    | nil => rfl
    | cons next rest => simp [(ends next rfl).1]
  simp only [List.cons_append, readNumber, nonzero, if_false, areDigits first (by simp), if_true,
    gathered, noExcess, allRead]
  exact readAfterWhole_of_ends negative _ ends

theorem readNumber_zero (negative : Bool) (ends : EndsNumber rest) :
    readNumber negative ('0' :: rest) = endWhole negative 0 rest := by
  rw [← readAfterWhole_of_ends negative 0 ends]
  cases rest with
  | nil => rfl
  | cons first rest =>
    have notDigit := (ends first rfl).1
    simp [readNumber, notDigit]

theorem readNumber_toDigits (negative : Bool) {magnitude : Nat} (fits : magnitude < wordBound)
    (ends : EndsNumber rest) :
    readNumber negative (Nat.toDigits 10 magnitude ++ rest) = endWhole negative magnitude rest := by
  rcases Nat.eq_zero_or_pos magnitude with rfl | positive
  · exact readNumber_zero negative ends
  · obtain ⟨first, digits, printed, nonzero⟩ := toDigits_of_pos magnitude positive
    have areDigits : ∀ digit ∈ first :: digits, digit.isDigit = true := fun digit member =>
      Nat.isDigit_of_mem_toDigits (by decide) (by decide) (printed ▸ member)
    have value : Nat.ofDigitChars 10 (first :: digits) 0 = magnitude := by
      rw [← printed, Nat.ofDigitChars_ten_toDigits]
    rw [← value] at fits
    rw [printed, readNumber_digits negative nonzero areDigits fits ends, value]

/-! ## Strings -/

theorem hexValue?_hexDigit : ∀ digit < 16, hexValue? (hexDigit digit) = some digit := by
  decide

theorem readUnit_hexDigits (value : Nat) (small : value < 0x20) (rest : List Char) :
    readUnit ('0' :: '0' :: hexDigit (value / 16) :: hexDigit (value % 16) :: rest) =
      .ok value := by
  have zero : hexValue? '0' = some 0 := by decide
  have high := hexValue?_hexDigit (value / 16) (by omega)
  have low := hexValue?_hexDigit (value % 16) (by omega)
  simp only [readUnit, zero, high, low]
  congr 1
  omega

/-- A control character is read back from its escape of six characters. -/
theorem readEscape_control (character : Char) (control : character.toNat < 0x20)
    (rest : List Char) :
    readEscape ('u' :: '0' :: '0' :: hexDigit (character.toNat / 16) ::
      hexDigit (character.toNat % 16) :: rest) = .ok (character, 5) := by
  have notTrailing : isTrailingUnit character.toNat = false := by
    simp only [isTrailingUnit, Bool.and_eq_false_imp, decide_eq_true_eq, decide_eq_false_iff_not]
    omega
  have notLeading : isLeadingUnit character.toNat = false := by
    simp only [isLeadingUnit, Bool.and_eq_false_imp, decide_eq_true_eq, decide_eq_false_iff_not]
    omega
  simp [readEscape, readUnit_hexDigits character.toNat control, notTrailing, notLeading,
    Char.ofNat_toNat]

theorem readCharacters_quote (rest : List Char) :
    readCharacters ('"' :: rest) = .ok ([], rest) := by
  rw [readCharacters]
  rfl

/-- An escape is read as one character, after which reading goes on. -/
theorem readCharacters_escape {text remaining : List Char} {escaped : Char} (count : Nat)
    {characters : List Char} (read : readEscape text = .ok (escaped, count))
    (readOn : readCharacters (text.drop count) = .ok (characters, remaining)) :
    readCharacters ('\\' :: text) = .ok (escaped :: characters, remaining) := by
  rw [readCharacters, read]
  simp [readOn]

theorem readCharacters_escapeCharacter (character : Char) {text characters : List Char}
    (readOn : readCharacters text = .ok (characters, rest)) :
    readCharacters (escapeCharacter character ++ text) = .ok (character :: characters, rest) := by
  unfold escapeCharacter
  split
  case isTrue quote => exact readCharacters_escape 1 (by rw [quote]; rfl) readOn
  split
  case isTrue backslash => exact readCharacters_escape 1 (by rw [backslash]; rfl) readOn
  split
  case isTrue backspace => exact readCharacters_escape 1 (by rw [backspace]; rfl) readOn
  split
  case isTrue formFeed => exact readCharacters_escape 1 (by rw [formFeed]; rfl) readOn
  split
  case isTrue lineFeed => exact readCharacters_escape 1 (by rw [lineFeed]; rfl) readOn
  split
  case isTrue carriageReturn => exact readCharacters_escape 1 (by rw [carriageReturn]; rfl) readOn
  split
  case isTrue tab => exact readCharacters_escape 1 (by rw [tab]; rfl) readOn
  split
  case isTrue control =>
    exact readCharacters_escape 5 (readEscape_control character control text) readOn
  case isFalse notQuote notBackslash _ _ _ _ _ printable =>
    rw [List.singleton_append, readCharacters]
    simp only [notQuote, notBackslash, printable, if_false, readOn]

theorem readCharacters_flatMap (characters rest : List Char) :
    readCharacters (characters.flatMap escapeCharacter ++ '"' :: rest) =
      .ok (characters, rest) := by
  induction characters with
  | nil => exact readCharacters_quote rest
  | cons character characters inductionHypothesis =>
    rw [List.flatMap_cons, List.append_assoc]
    exact readCharacters_escapeCharacter character inductionHypothesis

/-- A string is read back from its text, whose opening quotation mark has been taken. -/
theorem readString_escaped (text : String) (rest : List Char) :
    readString (text.toList.flatMap escapeCharacter ++ '"' :: rest) = .ok (text, rest) := by
  simp [readString, readCharacters_flatMap]

end ThermalPrint.Json
