import Mathlib.Data.List.TakeWhile
import ThermalPrint.Json.Literal
import ThermalPrint.Proofs.Json.RoundTrip
import ThermalPrint.Text.Integer

/-!
# Reading integer literals

A literal that fits 64 bits is read whole. Of a longer one the digits that fit are gathered, and
each digit after them only counts as a power of ten.
-/

namespace ThermalPrint

namespace Json

/-! ## Digits -/

theorem digitValue_le {digit : Char} (isDigit : digit.isDigit = true) : digitValue digit ≤ 9 := by
  have bounds := Char.isDigit_iff_toNat.mp isDigit
  have zero : '0'.toNat = 48 := rfl
  have nine : '9'.toNat = 57 := rfl
  unfold digitValue
  omega

/-- Gathering stops in front of the first digit that does not fit. -/
theorem gatherDigits_great {digits : List Char} {value : Nat}
    (areDigits : ∀ digit ∈ digits, digit.isDigit = true) (fits : value < wordBound)
    (great : wordBound ≤ Nat.ofDigitChars 10 digits value) :
    ∃ gathered left, gatherDigits value digits = (gathered, left) ∧ left ≠ [] ∧
      (∀ digit ∈ left, digit.isDigit = true) ∧ wordBound ≤ gathered * 10 + 9 := by
  induction digits generalizing value with
  | nil =>
    rw [Nat.ofDigitChars_nil] at great
    exact absurd fits (Nat.not_lt.mpr great)
  | cons digit digits inductionHypothesis =>
    have isDigit : digit.isDigit = true := areDigits digit (by simp)
    by_cases extended : value * 10 + digitValue digit < wordBound
    · have others : ∀ digit ∈ digits, digit.isDigit = true := fun digit member =>
        areDigits digit (List.mem_cons_of_mem _ member)
      rw [Nat.ofDigitChars_cons, Nat.mul_comm 10 value] at great
      simp only [gatherDigits, isDigit, extended, decide_true, Bool.and_true, if_true]
      exact inductionHypothesis others extended great
    · refine ⟨value, digit :: digits, ?_, List.cons_ne_nil _ _, areDigits, ?_⟩
      · simp [gatherDigits, extended]
      · have small := digitValue_le isDigit
        omega

theorem readNumber_great (negative : Bool) {first : Char} {digits : List Char}
    (nonzero : first ≠ '0') (areDigits : ∀ digit ∈ first :: digits, digit.isDigit = true)
    (great : wordBound ≤ Nat.ofDigitChars 10 (first :: digits) 0) :
    ∃ gathered excess : Nat, wordBound ≤ gathered * 10 + 9 ∧
      readNumber negative (first :: digits) =
        endReal negative ⟨gathered, (excess + 1 : Nat)⟩ [] := by
  have isDigit : first.isDigit = true := areDigits first (by simp)
  have fits : digitValue first < wordBound := Nat.lt_of_le_of_lt (digitValue_le isDigit) (by decide)
  rw [← ofDigitChars_digitValue] at great
  obtain ⟨gathered, left, gathers, nonempty, areLeft, bound⟩ :=
    gatherDigits_great (fun digit member => areDigits digit (by simp [member])) fits great
  obtain ⟨next, left, rfl⟩ := List.exists_cons_of_ne_nil nonempty
  refine ⟨gathered, left.length, bound, ?_⟩
  have excess : (next :: left).takeWhile Char.isDigit = next :: left :=
    List.takeWhile_eq_self_iff.mpr areLeft
  have nothingElse : (next :: left).dropWhile Char.isDigit = [] :=
    List.dropWhile_eq_nil_iff.mpr areLeft
  simp only [readNumber, nonzero, if_false, isDigit, if_true, gathers, excess, nothingElse]
  rfl

section

variable {negative : Bool} {rest left : List Char} {number : Number}

theorem endReal_eq_ok_iff {significand : Significand} :
    endReal negative significand rest = .ok (number, left) ↔
      ∃ magnitude, significand.real? = some magnitude ∧
        signed negative magnitude = number ∧ rest = left := by
  unfold endReal
  cases significand.real? <;> simp

theorem rest_of_endReal {significand : Significand}
    (read : endReal negative significand rest = .ok (number, left)) : left = rest := by
  obtain ⟨_, _, _, rfl⟩ := endReal_eq_ok_iff.mp read
  rfl

theorem rest_of_endWhole {digits : Nat}
    (read : endWhole negative digits rest = .ok (number, left)) : left = rest := by
  unfold endWhole at read
  split at read
  · split at read
    · exact rest_of_endReal read
    · cases read
      rfl
  · cases read
    rfl

end

/-! ## Literals -/

namespace IntegerLiteral

variable (literal : IntegerLiteral)

theorem value_of_pos (positive : 0 < literal.value) :
    literal.negative = false ∧ literal.value = literal.magnitude := by
  unfold value at positive ⊢
  cases sign : literal.negative with
  | false => exact ⟨rfl, rfl⟩
  | true =>
    rw [sign, if_pos rfl] at positive
    omega

theorem value_of_neg (negative : literal.value < 0) :
    literal.negative = true ∧ literal.value = -(literal.magnitude : Int) := by
  unfold value at negative ⊢
  cases sign : literal.negative with
  | true => exact ⟨rfl, rfl⟩
  | false =>
    rw [sign, if_neg Bool.false_ne_true] at negative
    omega

theorem digits_cases : literal.digits = ['0'] ∨
    ∃ first digits, literal.digits = first :: digits ∧ first ≠ '0' := by
  obtain ⟨first, digits, written⟩ := List.exists_cons_of_ne_nil literal.isWritten
  by_cases zero : first = '0'
  · exact .inl (literal.isShortest (by rw [written, zero]; rfl))
  · exact .inr ⟨first, digits, written, zero⟩

theorem readNumber_of_fits (fits : literal.magnitude < wordBound) :
    readNumber literal.negative literal.digits =
      endWhole literal.negative literal.magnitude [] := by
  unfold magnitude at fits ⊢
  rcases literal.digits_cases with zero | ⟨first, digits, written, nonzero⟩
  · rw [zero]
    exact readNumber_zero _ endsNumber_nil
  · have areDigits := literal.areDigits
    rw [written] at fits areDigits ⊢
    simpa using readNumber_digits literal.negative nonzero areDigits fits endsNumber_nil

theorem readNumber_of_great (great : wordBound ≤ literal.magnitude) :
    ∃ gathered excess : Nat, wordBound ≤ gathered * 10 + 9 ∧
      readNumber literal.negative literal.digits =
        endReal literal.negative ⟨gathered, (excess + 1 : Nat)⟩ [] := by
  unfold magnitude at great
  rcases literal.digits_cases with zero | ⟨first, digits, written, nonzero⟩
  · rw [zero] at great
    contradiction
  · have areDigits := literal.areDigits
    rw [written] at great areDigits ⊢
    exact readNumber_great literal.negative nonzero areDigits great

theorem rest_of_readNumber {number : Number} {rest : List Char}
    (read : readNumber literal.negative literal.digits = .ok (number, rest)) : rest = [] := by
  by_cases fits : literal.magnitude < wordBound
  · rw [literal.readNumber_of_fits fits] at read
    exact rest_of_endWhole read
  · obtain ⟨gathered, excess, _, reads⟩ := literal.readNumber_of_great (Nat.not_lt.mp fits)
    rw [reads] at read
    exact rest_of_endReal read

/-! ## Texts -/

theorem readValue_characters (bound depth : Nat) :
    readValue bound depth literal.characters =
      (readNumber literal.negative literal.digits).map fun read => (.number read.1, read.2) := by
  unfold characters
  split
  · rename_i negative
    rw [negative]
    exact readValue_minus
  · rename_i positive
    obtain ⟨first, digits, written⟩ := List.exists_cons_of_ne_nil literal.isWritten
    have isDigit : first.isDigit = true := literal.areDigits first (by simp [written])
    rw [Bool.not_eq_true] at positive
    rw [positive, written]
    exact readValue_digit isDigit

/-- A literal is read as a number, or not at all. -/
theorem parse_eq_ok_iff {result : Json} : parse literal.text = .ok result ↔
    ∃ number, result = .number number ∧
      readNumber literal.negative literal.digits = .ok (number, []) := by
  simp only [parse, readText, text, String.toList_ofList, literal.readValue_characters]
  cases read : readNumber literal.negative literal.digits with
  | error fault => simp [Except.map, Except.mapError, bind, Except.bind]
  | ok result =>
    obtain ⟨number, rest⟩ := result
    obtain rfl := literal.rest_of_readNumber read
    simp [Except.map, Except.mapError, bind, Except.bind, skipSpaces, pure, Except.pure, eq_comm]

theorem natural?_digits : Text.natural? literal.digits = some literal.magnitude := by
  have areDigits : literal.digits.all Char.isDigit = true :=
    List.all_eq_true.mpr literal.areDigits
  simp [Text.natural?, literal.isWritten, areDigits, magnitude, Text.valueOfDigits,
    Nat.ofDigitChars, Nat.mul_comm 10]

/-- The digits of a literal start with no sign, so the one in front of them is the only one. -/
theorem integer?_characters : Text.integer? literal.characters = some literal.value := by
  unfold characters value
  split
  · simp [Text.integer?, literal.natural?_digits]
  · obtain ⟨first, digits, written⟩ := List.exists_cons_of_ne_nil literal.isWritten
    have isDigit : first.isDigit = true := literal.areDigits first (by simp [written])
    have notMinus : first ≠ '-' := ne_of_isDigit isDigit rfl
    have notPlus : first ≠ '+' := ne_of_isDigit isDigit rfl
    have unsigned : Text.integer? literal.digits =
        (Text.natural? literal.digits).map Int.ofNat := by
      rw [written]
      simp [Text.integer?, notMinus, notPlus]
    rw [unsigned, literal.natural?_digits]
    rfl

end IntegerLiteral

end Json

end ThermalPrint
