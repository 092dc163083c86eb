import Mathlib.Data.List.Induction
import Mathlib.Tactic.NormNum
import ThermalPrint.Proofs.Number.Rounding
import ThermalPrint.Proofs.Receipt.RoundTrip
import ThermalPrint.Receipt.Grammar

/-!
# Items are accepted by their grammar

Decoding an item succeeds exactly if its object stands for an item, and gives this item. Otherwise
it blames the first field that is not valid. The grammar has tables of its own for names and keys,
and the names, keys and aliases that the decoder goes by are those of these tables.
-/

namespace ThermalPrint

theorem bind_eq_ok_iff {ε α β : Type} {first : Except ε α} {next : α → Except ε β}
    {result : β} : (first >>= next) = .ok result ↔
      ∃ middle, first = .ok middle ∧ next middle = .ok result := by
  cases first <;> simp [bind, Except.bind]

/-! ## Names and keys -/

/-- The names by which a choice is written and read are those of its table. -/
class LawfulSpelling (α : Type) [Choice α] [Spelling α] : Prop extends LawfulChoice α where
  table_eq : (Spelling.table : List (String × α)) =
    Choice.all.map fun member => (Choice.name member, member)

instance : LawfulSpelling Kind where
  table_eq := rfl

instance : LawfulSpelling Font where
  table_eq := rfl

instance : LawfulSpelling Alignment where
  table_eq := rfl

instance : LawfulSpelling Symbology where
  table_eq := rfl

instance : LawfulSpelling Dithering where
  table_eq := rfl

theorem Choice.ofName?_eq_some_iff {α : Type} [Choice α] [LawfulChoice α] {text : String}
    {member : α} : Choice.ofName? text = some member ↔ Choice.name member = text := by
  constructor
  · intro found
    have named := List.find?_some found
    simpa using named
  · rintro rfl
    exact LawfulChoice.ofName?_name member

theorem spells_iff {α : Type} [Choice α] [Spelling α] [LawfulSpelling α] {text : String}
    {member : α} : Spells text member ↔ Choice.name member = text := by
  rw [Spells, LawfulSpelling.table_eq, List.mem_map]
  constructor
  · rintro ⟨other, _, same⟩
    cases same
    rfl
  · rintro rfl
    have listed := List.mem_of_find?_eq_some (LawfulChoice.ofName?_name member)
    exact ⟨member, listed, rfl⟩

theorem Choice.ofName?_eq_some_iff_spells {α : Type} [Choice α] [Spelling α] [LawfulSpelling α]
    {text : String} {member : α} : Choice.ofName? text = some member ↔ Spells text member :=
  Choice.ofName?_eq_some_iff.trans spells_iff.symm

theorem Choice.ofName?_eq_none_iff {α : Type} [Choice α] [Spelling α] [LawfulSpelling α]
    {text : String} : Choice.ofName? text = (none : Option α) ↔
      ∀ member : α, ¬Spells text member := by
  rw [Option.eq_none_iff_forall_ne_some]
  simp only [ne_eq, Choice.ofName?_eq_some_iff_spells]

theorem Spells.unique {α : Type} [Choice α] [Spelling α] [LawfulSpelling α] {text : String}
    {first second : α} (one : Spells text first) (other : Spells text second) :
    first = second := by
  rw [← Choice.ofName?_eq_some_iff_spells] at one other
  exact Option.some.inj (one.symm.trans other)

namespace Field

variable {field other : Field} {key standIn : String}

theorem isKey_iff : field.IsKey key ↔ field.name = key := by
  constructor
  · have named : ∀ entry ∈ keys, entry.2.name = entry.1 := by decide
    exact named (key, field)
  · rintro rfl
    cases field <;> decide

theorem isAlias_iff : field.IsAlias key ↔ field.alias? = some key := by
  constructor
  · have named : ∀ entry ∈ aliases, entry.2.alias? = some entry.1 := by decide
    exact named (key, field)
  · intro isAlias
    cases field <;> cases isAlias <;> decide

end Field

/-! ## Values -/

namespace Text

theorem natural?_eq_some_iff_digits {text : List Char} {value : Nat} :
    natural? text = some value ↔
      text ≠ [] ∧ (∀ digit ∈ text, digit.isDigit = true) ∧ valueOfDigits text = value := by
  unfold natural?
  split
  · rename_i unreadable
    simp only [Bool.or_eq_true, List.isEmpty_iff, Bool.not_eq_true', List.all_eq_false]
      at unreadable
    constructor
    · intro read
      cases read
    · rintro ⟨nonempty, digits, _⟩
      rcases unreadable with empty | ⟨digit, member, notDigit⟩
      · exact absurd empty nonempty
      · exact absurd (digits digit member) notDigit
  · rename_i readable
    have holds : text ≠ [] ∧ ∀ digit ∈ text, digit.isDigit = true := by simpa using readable
    rw [Option.some.injEq, ← and_assoc, and_iff_right holds]

theorem spellsNatural_valueOfDigits {text : List Char} (nonempty : text ≠ [])
    (digits : ∀ digit ∈ text, digit.isDigit = true) :
    SpellsNatural text (valueOfDigits text) := by
  induction text using List.reverseRecOn with
  | nil => exact absurd rfl nonempty
  | append_singleton front last inductionHypothesis =>
    rw [List.forall_mem_append, List.forall_mem_singleton] at digits
    have value : valueOfDigits (front ++ [last]) =
        10 * valueOfDigits front + (last.toNat - 48) := by
      simp [valueOfDigits, List.foldl_append, Nat.mul_comm]
    rw [value]
    cases front with
    | nil =>
      rw [valueOfDigits, List.foldl_nil, Nat.mul_zero, Nat.zero_add]
      exact .digit digits.2
    | cons first rest => exact .more (inductionHypothesis (by simp) digits.1) digits.2

theorem natural?_eq_some_iff {text : List Char} {value : Nat} :
    natural? text = some value ↔ SpellsNatural text value := by
  rw [natural?_eq_some_iff_digits]
  constructor
  · rintro ⟨nonempty, digits, rfl⟩
    exact spellsNatural_valueOfDigits nonempty digits
  · intro spelled
    induction spelled with
    | digit isDigit => simp [isDigit, valueOfDigits]
    | more _ isDigit inductionHypothesis =>
      obtain ⟨nonempty, digits, rfl⟩ := inductionHypothesis
      refine ⟨by simp, ?_, ?_⟩
      · rw [List.forall_mem_append, List.forall_mem_singleton]
        exact ⟨digits, isDigit⟩
      · simp [valueOfDigits, List.foldl_append, Nat.mul_comm]

theorem SpellsNatural.ne_sign {text : List Char} {value : Nat} (spelled : SpellsNatural text value)
    {sign : Char} (noDigit : sign.isDigit = false) (rest : List Char) : text ≠ sign :: rest := by
  rintro rfl
  have digits := (natural?_eq_some_iff_digits.mp (natural?_eq_some_iff.mpr spelled)).2.1
  rw [List.forall_mem_cons, noDigit] at digits
  exact absurd digits.1 Bool.false_ne_true

theorem integer?_eq_some_iff {text : List Char} {value : Int} :
    integer? text = some value ↔ SpellsInteger text value := by
  constructor
  · intro read
    unfold integer? at read
    split at read
    · obtain ⟨_, magnitude, rfl⟩ := Option.map_eq_some_iff.mp read
      obtain ⟨_, natural, same⟩ := Option.bind_eq_some_iff.mp magnitude
      cases same
      exact .negative (natural?_eq_some_iff.mp natural)
    · obtain ⟨_, natural, rfl⟩ := Option.map_eq_some_iff.mp read
      exact .positive (natural?_eq_some_iff.mp natural)
    · obtain ⟨_, natural, rfl⟩ := Option.map_eq_some_iff.mp read
      exact .unsigned (natural?_eq_some_iff.mp natural)
  · intro spelled
    cases spelled with
    | unsigned spelled =>
      have natural := natural?_eq_some_iff.mpr spelled
      unfold integer?
      split
      · exact absurd rfl (spelled.ne_sign rfl _)
      · exact absurd rfl (spelled.ne_sign rfl _)
      · rw [natural]
        rfl
    | positive spelled =>
      rw [integer?, natural?_eq_some_iff.mpr spelled]
      rfl
    | negative spelled =>
      rw [integer?, natural?_eq_some_iff.mpr spelled]
      rfl

end Text

theorem int64?_eq_some_iff {value : Int} {word : Int64} :
    int64? value = some word ↔ value = word.toInt := by
  constructor
  · intro fits
    unfold int64? at fits
    split at fits
    · rename_i inRange
      cases fits
      exact (Int64.toInt_ofInt_of_le inRange.1 (Int.lt_add_one_of_le inRange.2)).symm
    · cases fits
  · rintro rfl
    exact int64?_toInt word

theorem int64?_eq_none_iff {value : Int} :
    int64? value = none ↔ value < Int64.minValue.toInt ∨ Int64.maxValue.toInt < value := by
  unfold int64?
  split <;> simp only [reduceCtorEq, false_iff, true_iff] <;> omega

namespace Loose

variable {value : Json}

theorem string_eq_ok_iff {text : String} :
    string value = .ok text ↔ value.StandsForText text := by
  constructor
  · intro read
    cases value <;> cases read
    exact .string text
  · rintro ⟨⟩
    rfl

theorem underline_eq_ok_iff {flag : Bool} :
    underline value = .ok flag ↔ value.StandsForFlag flag := by
  constructor
  · intro read
    cases value <;> cases read
    · exact .boolean flag
    · exact .string _
  · intro stands
    cases stands <;> rfl

theorem integer_eq_ok_iff {size : Int64} :
    integer value = .ok size ↔ value.StandsForInteger size := by
  constructor
  · intro read
    unfold integer at read
    split at read
    · split at read
      · rename_i fits
        cases read
        rw [int64?_eq_some_iff.mp fits]
        exact .whole size
      · cases read
    · cases read
    · cases read
  · rintro ⟨⟩
    exact integer_toInt size

theorem wholeMagnitude_le_iff {real : Binary64} : real.wholeMagnitude ≤ realBound ↔
    Int64.minValue.toInt ≤ real.truncate ∧ real.truncate ≤ Int64.maxValue.toInt + 1 := by
  have least : Int64.minValue.toInt = -realBound := by decide
  have greatest : Int64.maxValue.toInt + 1 = realBound := by decide
  rw [least, greatest, Binary64.truncate]
  split <;> omega

theorem toInt_clamp {value : Int} (atLeast : Int64.minValue.toInt ≤ value) :
    (clamp value).toInt = min value Int64.maxValue.toInt := by
  have least : Int64.minValue.toInt = -2 ^ 63 := by decide
  have greatest : Int64.maxValue.toInt = 2 ^ 63 - 1 := by decide
  rw [clamp, Int64.toInt_ofInt_of_le (by omega) (by omega)]
  omega

theorem integerOfReal?_eq_some_iff {real : Binary64} {size : Int64} :
    integerOfReal? real = some size ↔ real.StandsForSize size := by
  unfold integerOfReal? Binary64.StandsForSize
  rw [← and_assoc, ← wholeMagnitude_le_iff]
  split
  · rename_i small
    have inRange := wholeMagnitude_le_iff.mp small
    rw [Option.some.injEq, ← Int64.toInt_inj, toInt_clamp inRange.1]
    simp [small, eq_comm]
  · rename_i great
    simp [great]

theorem fontSize_number_eq_ok_iff {number : Json.Number} {size : Int64} :
    fontSize (.number number) = .ok size ↔ sizeOfNumber? number = some size := by
  unfold fontSize
  cases read : sizeOfNumber? number <;> simp [read]

theorem fontSize_string_eq_ok_iff {text : String} {size : Int64} :
    fontSize (.string text) = .ok size ↔ Text.integer? text.toList = some size.toInt := by
  have fits : (Text.integer? text.toList).bind int64? = some size ↔
      Text.integer? text.toList = some size.toInt := by
    simp [Option.bind_eq_some_iff, int64?_eq_some_iff]
  rw [← fits]
  unfold fontSize
  cases read : (Text.integer? text.toList).bind int64? <;> simp [read]

theorem integerOfReal?_of_far {real : Binary64} (negative : Bool)
    (far : (2 ^ 63 + 1 : ℚ) ≤ real.magnitude) :
    integerOfReal? { real with negative } = none := by
  have great : realBound + 1 ≤ real.wholeMagnitude := by
    rw [Binary64.le_wholeMagnitude_iff]
    exact_mod_cast far
  exact if_neg (Nat.not_le.mpr great)

theorem integerOfReal?_of_near (negative : Bool) : integerOfReal? ⟨negative, 2 ^ 52, 11⟩ =
    some (if negative then Int64.minValue else Int64.maxValue) := by
  cases negative <;> rfl

/-- An integer beyond all sizes is rounded, and may thereby come back to the greatest or the
least. -/
theorem integerOfReal?_of_great {whole : Nat} (negative : Bool) (great : 2 ^ 63 ≤ whole) :
    (Binary64.ofRatio? negative whole 1).bind integerOfReal? =
      if whole ≤ 2 ^ 63 + 2 ^ 10 then
        some (if negative then Int64.minValue else Int64.maxValue)
      else none := by
  by_cases near : whole ≤ 2 ^ 63 + 2 ^ 10
  · rw [if_pos near, Binary64.ofRatio?_near negative great (by omega), if_pos near]
    exact integerOfReal?_of_near negative
  · rw [if_neg near, Option.bind_eq_none_iff]
    intro real rounded
    have far := Binary64.le_magnitude_of_far rounded (Nat.not_le.mp near)
    apply integerOfReal?_of_far real.negative (le_trans _ far)
    norm_num

theorem sizeOfNumber?_whole_of_fits {whole : Int} {size : Int64} (fits : int64? whole = some size) :
    sizeOfNumber? (.whole whole) = some size := by
  simp only [sizeOfNumber?, fits]

/-- An integer above all sizes is a size exactly if rounding takes it back to the greatest. -/
theorem sizeOfNumber?_whole_of_above {whole : Int} (above : Int64.maxValue.toInt < whole) :
    sizeOfNumber? (.whole whole) =
      if whole ≤ 2 ^ 63 + 2 ^ 10 then some Int64.maxValue else none := by
  have greatest : Int64.maxValue.toInt = 2 ^ 63 - 1 := by decide
  have outside : int64? whole = none := int64?_eq_none_iff.mpr (.inr above)
  have positive : ¬whole < 0 := by omega
  simp only [sizeOfNumber?, outside, positive, decide_false]
  rw [integerOfReal?_of_great false (by omega)]
  congr 1
  rw [eq_iff_iff]
  omega

theorem sizeOfNumber?_whole_of_below {whole : Int} (below : whole < Int64.minValue.toInt) :
    sizeOfNumber? (.whole whole) =
      if -2 ^ 63 - 2 ^ 10 ≤ whole then some Int64.minValue else none := by
  have least : Int64.minValue.toInt = -2 ^ 63 := by decide
  have outside : int64? whole = none := int64?_eq_none_iff.mpr (.inl below)
  have negative : whole < 0 := by omega
  simp only [sizeOfNumber?, outside, negative, decide_true]
  rw [integerOfReal?_of_great true (by omega)]
  congr 1
  rw [eq_iff_iff]
  omega

/-- An integer is read as itself if it fits, and as the bound that it passes if rounding takes it
back. -/
theorem reading_eq_some_iff {reading : Option Int64} {value : Int}
    (inside : ∀ own : Int64, value = own.toInt → reading = some own)
    (above : Int64.maxValue.toInt < value →
      reading = if value ≤ 2 ^ 63 + 2 ^ 10 then some Int64.maxValue else none)
    (below : value < Int64.minValue.toInt →
      reading = if -2 ^ 63 - 2 ^ 10 ≤ value then some Int64.minValue else none) {size : Int64} :
    reading = some size ↔ value = size.toInt ∨
      IsJustAbove value ∧ size = Int64.maxValue ∨ IsJustBelow value ∧ size = Int64.minValue := by
  have atLeast := size.minValue_le_toInt
  have atMost := size.toInt_le
  have order : Int64.minValue.toInt < Int64.maxValue.toInt := by decide
  unfold IsJustAbove IsJustBelow
  rw [@eq_comm _ size, @eq_comm _ size]
  cases fits : int64? value with
  | some own =>
    obtain rfl : value = own.toInt := int64?_eq_some_iff.mp fits
    have notAbove : ¬Int64.maxValue.toInt < own.toInt := Int.not_lt.mpr own.toInt_le
    have notBelow : ¬own.toInt < Int64.minValue.toInt := Int.not_lt.mpr own.minValue_le_toInt
    rw [inside own rfl]
    simp only [notAbove, notBelow, Option.some.injEq, Int64.toInt_inj, and_false, false_and,
      or_false]
  | none =>
    rcases int64?_eq_none_iff.mp fits with isBelow | isAbove
    · have notSize : value ≠ size.toInt := by omega
      have notAbove : ¬Int64.maxValue.toInt < value := by omega
      rw [below isBelow]
      simp only [isBelow, notSize, notAbove, Option.ite_none_right_eq_some, Option.some.injEq,
        and_true, false_and, false_or]
    · have notSize : value ≠ size.toInt := by omega
      have notBelow : ¬value < Int64.minValue.toInt := by omega
      rw [above isAbove]
      simp only [isAbove, notSize, notBelow, Option.ite_none_right_eq_some, Option.some.injEq,
        true_and, and_false, false_and, false_or, or_false]

theorem sizeOfNumber?_whole_eq_some_iff {whole : Int} {size : Int64} :
    sizeOfNumber? (.whole whole) = some size ↔ whole = size.toInt ∨
      IsJustAbove whole ∧ size = Int64.maxValue ∨ IsJustBelow whole ∧ size = Int64.minValue := by
  apply reading_eq_some_iff
  · intro own fits
    exact sizeOfNumber?_whole_of_fits (int64?_eq_some_iff.mpr fits)
  · exact sizeOfNumber?_whole_of_above
  · exact sizeOfNumber?_whole_of_below

theorem fontSize_eq_ok_iff {size : Int64} :
    fontSize value = .ok size ↔ value.StandsForSize size := by
  constructor
  · intro read
    cases value with
    | number number =>
      rw [fontSize_number_eq_ok_iff] at read
      cases number with
      | whole whole =>
        rcases sizeOfNumber?_whole_eq_some_iff.mp read with rfl | ⟨above, rfl⟩ | ⟨below, rfl⟩
        · exact .whole size
        · exact .above above
        · exact .below below
      | real real => exact .real (integerOfReal?_eq_some_iff.mp read)
    | string text =>
      exact .text (Text.integer?_eq_some_iff.mp (fontSize_string_eq_ok_iff.mp read))
    | _ => cases read
  · intro stands
    cases stands with
    | whole => exact fontSize_toInt size
    | real stands => exact fontSize_number_eq_ok_iff.mpr (integerOfReal?_eq_some_iff.mpr stands)
    | above above =>
      exact fontSize_number_eq_ok_iff.mpr
        (sizeOfNumber?_whole_eq_some_iff.mpr (.inr (.inl ⟨above, rfl⟩)))
    | below below =>
      exact fontSize_number_eq_ok_iff.mpr
        (sizeOfNumber?_whole_eq_some_iff.mpr (.inr (.inr ⟨below, rfl⟩)))
    | text spelled =>
      exact fontSize_string_eq_ok_iff.mpr (Text.integer?_eq_some_iff.mpr spelled)

end Loose

namespace RawItem

theorem choose_eq_ok_iff {α : Type} [Choice α] [Spelling α] [LawfulSpelling α] {value : Json}
    {member : α} : choose α value = .ok member ↔ value.StandsForName member := by
  constructor
  · intro read
    obtain ⟨text, isText, chosen⟩ := bind_eq_ok_iff.mp read
    cases Loose.string_eq_ok_iff.mp isText
    split at chosen
    · rename_i found
      cases chosen
      exact .string (Choice.ofName?_eq_some_iff_spells.mp found)
    · cases chosen
  · intro stands
    cases stands with
    | string spelled =>
      rw [← spells_iff.mp spelled]
      exact choose_toJson member

theorem lineCount_eq_ok_iff {value : Json} {lines : UInt32} :
    lineCount value = .ok lines ↔ value.StandsForLineCount lines := by
  constructor
  · intro read
    obtain ⟨count, isInteger, counted⟩ := bind_eq_ok_iff.mp read
    cases Loose.integer_eq_ok_iff.mp isInteger
    split at counted
    · rename_i inRange
      cases counted
      have small : count.toInt.toNat < UInt32.size := by omega
      have same : (((UInt32.ofNat count.toInt.toNat).toNat : Nat) : Int) = count.toInt := by
        rw [UInt32.toNat_ofNat_of_lt' small]
        omega
      have stands := Json.StandsForLineCount.whole (.ofNat count.toInt.toNat)
      rwa [same] at stands
    · cases counted
  · rintro ⟨⟩
    exact lineCount_toNat lines

/-! ## Fields -/

section

variable {item : RawItem} {members : List (String × Json)} {field : Field} {α : Type}
  {convert : Json → Except Reason α} {stands : Json → α → Prop}

theorem value?_eq_some_iff (object : item.object = .object members) {value : Json} :
    item.value? field = some value ↔ field.HasValue members value := by
  simp only [value?, object, Json.get?]
  constructor
  · intro found
    split at found
    · rename_i present
      cases found
      exact .byKey (Field.isKey_iff.mpr rfl) present
    · rename_i absent
      obtain ⟨key, isAlias, present⟩ := Option.bind_eq_some_iff.mp found
      exact .byAlias (Field.isKey_iff.mpr rfl) absent (Field.isAlias_iff.mpr isAlias) present
  · intro has
    cases has with
    | byKey isKey present =>
      rw [Field.isKey_iff.mp isKey, present]
    | byAlias isKey absent isAlias present =>
      rw [Field.isKey_iff.mp isKey, absent, Field.isAlias_iff.mp isAlias]
      exact present

theorem read_eq_ok_iff (object : item.object = .object members)
    (converts : ∀ {value : Json} {result : α}, convert value = .ok result ↔ stands value result)
    {result : α} :
    item.read field convert = .ok result ↔ field.Carries members (stands · result) := by
  simp only [Field.Carries, ← value?_eq_some_iff object, ← converts, read]
  cases item.value? field with
  | none => simp [refuse]
  | some value => cases read : convert value <;> simp [refuse, read]

/-- Fields are read in order: the reading succeeds only if all of them are valid, and is refused for
the first of them that is not. -/
structure ReadsInOrder (item : RawItem) (members : List (String × Json)) (fields : List Field)
    (reading : Except Refusal α) : Prop where
  isValid : ∀ result, reading = .ok result → ∀ field ∈ fields, field.IsValid members
  isFirstInvalid : ∀ refusal, reading = .error refusal → ∃ field reason,
    Field.IsFirstInvalid members fields field ∧
      refusal = ⟨some item.index, some item.kind, field, reason⟩

namespace ReadsInOrder

variable {β : Type} {fields more : List Field} {reading : Except Refusal α}

theorem nothing (result : α) : ReadsInOrder item members [] (pure result) where
  isValid := by simp
  isFirstInvalid := by
    intro refusal failed
    cases failed

theorem read (object : item.object = .object members)
    (converts : ∀ {value : Json} {result : α}, convert value = .ok result ↔ stands value result)
    (admits : ∀ value, field.Admits value ↔ ∃ result, stands value result) :
    ReadsInOrder item members [field] (item.read field convert) where
  isValid := by
    intro result success
    obtain ⟨value, has, isMeant⟩ := (read_eq_ok_iff object converts).mp success
    rw [List.forall_mem_singleton]
    exact ⟨value, has, (admits value).mpr ⟨result, isMeant⟩⟩
  isFirstInvalid := by
    intro refusal failed
    have invalid : ¬field.IsValid members := by
      rintro ⟨value, has, valid⟩
      obtain ⟨result, isMeant⟩ := (admits value).mp valid
      have success : item.read field convert = .ok result :=
        (read_eq_ok_iff object converts).mpr ⟨value, has, isMeant⟩
      rw [failed] at success
      cases success
    have isFirst : Field.IsFirstInvalid members [field] field := ⟨[], [], rfl, by simp, invalid⟩
    rw [RawItem.read] at failed
    split at failed
    · cases failed
      exact ⟨field, _, isFirst, rfl⟩
    · split at failed
      · cases failed
      · cases failed
        exact ⟨field, _, isFirst, rfl⟩

theorem bind {next : α → Except Refusal β} (first : ReadsInOrder item members fields reading)
    (second : ∀ result, ReadsInOrder item members more (next result)) :
    ReadsInOrder item members (fields ++ more) (reading >>= next) where
  isValid := by
    intro result success
    obtain ⟨middle, successFirst, successNext⟩ := bind_eq_ok_iff.mp success
    rw [List.forall_mem_append]
    exact ⟨first.isValid middle successFirst, (second middle).isValid result successNext⟩
  isFirstInvalid := by
    intro refusal failed
    cases reading with
    | error own =>
      cases failed
      obtain ⟨field, reason, ⟨front, rest, rfl, valid, invalid⟩, same⟩ :=
        first.isFirstInvalid refusal rfl
      exact ⟨field, reason, ⟨front, rest ++ more, by simp, valid, invalid⟩, same⟩
    | ok middle =>
      -- The second reading is begun only after all fields of the first have turned out valid.
      obtain ⟨field, reason, ⟨front, rest, rfl, valid, invalid⟩, same⟩ :=
        (second middle).isFirstInvalid refusal failed
      refine ⟨field, reason, ⟨fields ++ front, rest, by simp, ?_, invalid⟩, same⟩
      rw [List.forall_mem_append]
      exact ⟨first.isValid middle rfl, valid⟩

end ReadsInOrder

end

/-! ## Items -/

section

variable {item : RawItem} {members : List (String × Json)}

theorem readText_eq_ok_iff (object : item.object = .object members) {content : String}
    {style : Style} : item.readText = .ok (content, style) ↔
      Field.content.Carries members (·.StandsForText content) ∧ style.IsGiven members := by
  simp only [readText, bind_eq_ok_iff, read_eq_ok_iff object Loose.string_eq_ok_iff,
    read_eq_ok_iff object Loose.fontSize_eq_ok_iff, read_eq_ok_iff object choose_eq_ok_iff,
    read_eq_ok_iff object Loose.underline_eq_ok_iff, pure, Except.pure, Except.ok.injEq,
    Prod.mk.injEq]
  constructor
  · rintro ⟨own, isText, size, isSize, font, isFont, alignment, isAlignment, underline, isFlag,
      rfl, rfl⟩
    exact ⟨isText, isSize, isFont, isAlignment, isFlag⟩
  · rintro ⟨isText, isSize, isFont, isAlignment, isFlag⟩
    exact ⟨content, isText, style.size, isSize, style.font, isFont, style.alignment, isAlignment,
      style.underline, isFlag, rfl, rfl⟩

theorem readItem_eq_ok_iff (object : item.object = .object members) {kind : Kind}
    {result : Item} :
    item.readItem kind = .ok result ↔ result.kind = kind ∧ result.IsGiven members := by
  constructor
  · intro read
    cases kind with
    | line =>
      obtain ⟨⟨content, style⟩, readText, built⟩ := bind_eq_ok_iff.mp read
      obtain ⟨isText, given⟩ := (readText_eq_ok_iff object).mp readText
      cases built
      exact ⟨rfl, .line isText given⟩
    | text =>
      obtain ⟨⟨content, style⟩, readText, built⟩ := bind_eq_ok_iff.mp read
      obtain ⟨isText, given⟩ := (readText_eq_ok_iff object).mp readText
      cases built
      exact ⟨rfl, .text isText given⟩
    | feed =>
      obtain ⟨lines, readLines, built⟩ := bind_eq_ok_iff.mp read
      cases built
      exact ⟨rfl, .feed ((read_eq_ok_iff object lineCount_eq_ok_iff).mp readLines)⟩
    | barcode =>
      obtain ⟨code, readCode, read⟩ := bind_eq_ok_iff.mp read
      obtain ⟨symbology, readSymbology, built⟩ := bind_eq_ok_iff.mp read
      cases built
      exact ⟨rfl, .barcode ((read_eq_ok_iff object Loose.string_eq_ok_iff).mp readCode)
        ((read_eq_ok_iff object choose_eq_ok_iff).mp readSymbology)⟩
    | qr =>
      obtain ⟨code, readCode, read⟩ := bind_eq_ok_iff.mp read
      obtain ⟨size, readSize, built⟩ := bind_eq_ok_iff.mp read
      cases built
      exact ⟨rfl, .qr ((read_eq_ok_iff object Loose.string_eq_ok_iff).mp readCode)
        ((read_eq_ok_iff object Loose.integer_eq_ok_iff).mp readSize)⟩
    | picture =>
      obtain ⟨data, readData, read⟩ := bind_eq_ok_iff.mp read
      obtain ⟨alignment, readAlignment, read⟩ := bind_eq_ok_iff.mp read
      obtain ⟨dithering, readDithering, built⟩ := bind_eq_ok_iff.mp read
      cases built
      exact ⟨rfl, .picture ((read_eq_ok_iff object Loose.string_eq_ok_iff).mp readData)
        ((read_eq_ok_iff object choose_eq_ok_iff).mp readAlignment)
        ((read_eq_ok_iff object choose_eq_ok_iff).mp readDithering)⟩
  · rintro ⟨rfl, given⟩
    cases given with
    | line isText given =>
      have readText := (readText_eq_ok_iff object).mpr ⟨isText, given⟩
      exact bind_eq_ok_iff.mpr ⟨_, readText, rfl⟩
    | text isText given =>
      have readText := (readText_eq_ok_iff object).mpr ⟨isText, given⟩
      exact bind_eq_ok_iff.mpr ⟨_, readText, rfl⟩
    | feed isCount =>
      have readLines := (read_eq_ok_iff object lineCount_eq_ok_iff).mpr isCount
      exact bind_eq_ok_iff.mpr ⟨_, readLines, rfl⟩
    | barcode isText isSymbology =>
      have readCode := (read_eq_ok_iff object Loose.string_eq_ok_iff).mpr isText
      have readSymbology := (read_eq_ok_iff object choose_eq_ok_iff).mpr isSymbology
      refine bind_eq_ok_iff.mpr ⟨_, readCode, ?_⟩
      exact bind_eq_ok_iff.mpr ⟨_, readSymbology, rfl⟩
    | qr isText isSize =>
      have readCode := (read_eq_ok_iff object Loose.string_eq_ok_iff).mpr isText
      have readSize := (read_eq_ok_iff object Loose.integer_eq_ok_iff).mpr isSize
      refine bind_eq_ok_iff.mpr ⟨_, readCode, ?_⟩
      exact bind_eq_ok_iff.mpr ⟨_, readSize, rfl⟩
    | picture isText isAlignment isDithering =>
      have readData := (read_eq_ok_iff object Loose.string_eq_ok_iff).mpr isText
      have readAlignment := (read_eq_ok_iff object choose_eq_ok_iff).mpr isAlignment
      have readDithering := (read_eq_ok_iff object choose_eq_ok_iff).mpr isDithering
      refine bind_eq_ok_iff.mpr ⟨_, readData, ?_⟩
      refine bind_eq_ok_iff.mpr ⟨_, readAlignment, ?_⟩
      exact bind_eq_ok_iff.mpr ⟨_, readDithering, rfl⟩

theorem readText_inOrder (object : item.object = .object members) :
    ReadsInOrder item members Kind.line.fields item.readText :=
  (ReadsInOrder.read object Loose.string_eq_ok_iff fun _ => .rfl).bind fun _ =>
  (ReadsInOrder.read object Loose.fontSize_eq_ok_iff fun _ => .rfl).bind fun _ =>
  (ReadsInOrder.read object choose_eq_ok_iff fun _ => .rfl).bind fun _ =>
  (ReadsInOrder.read object choose_eq_ok_iff fun _ => .rfl).bind fun _ =>
  (ReadsInOrder.read object Loose.underline_eq_ok_iff fun _ => .rfl).bind fun _ => .nothing _

theorem readItem_inOrder (object : item.object = .object members) (kind : Kind) :
    ReadsInOrder item members kind.fields (item.readItem kind) := by
  cases kind with
  | line => exact (readText_inOrder object).bind fun _ => .nothing _
  | text => exact (readText_inOrder object).bind fun _ => .nothing _
  | feed =>
    exact (ReadsInOrder.read object lineCount_eq_ok_iff fun _ => .rfl).bind fun _ => .nothing _
  | barcode =>
    exact (ReadsInOrder.read object Loose.string_eq_ok_iff fun _ => .rfl).bind fun _ =>
      (ReadsInOrder.read object choose_eq_ok_iff fun _ => .rfl).bind fun _ => .nothing _
  | qr =>
    exact (ReadsInOrder.read object Loose.string_eq_ok_iff fun _ => .rfl).bind fun _ =>
      (ReadsInOrder.read object Loose.integer_eq_ok_iff fun _ => .rfl).bind fun _ => .nothing _
  | picture =>
    exact (ReadsInOrder.read object Loose.string_eq_ok_iff fun _ => .rfl).bind fun _ =>
      (ReadsInOrder.read object choose_eq_ok_iff fun _ => .rfl).bind fun _ =>
      (ReadsInOrder.read object choose_eq_ok_iff fun _ => .rfl).bind fun _ => .nothing _

end

end RawItem

namespace Item

variable {index : Nat} {value : Json} {members : List (String × Json)} {type : String}

theorem decode_of_hasType (typed : value.HasType members type) :
    Item.decode index value =
      match Choice.ofName? type with
      | some kind => (RawItem.mk index type value).readItem kind
      | none => .error ⟨some index, some type, .type, .unknownType type⟩ := by
  obtain ⟨rfl, found⟩ := typed
  have named : Json.member? Field.type.name members = some (.string type) := found
  simp only [Item.decode, named]
  rfl

theorem decode_of_untyped (untyped : ∀ members type, ¬value.HasType members type) :
    ∃ reason, ∀ index, Item.decode index value = .error ⟨some index, none, .type, reason⟩ := by
  unfold Item.decode
  split
  · rename_i members
    split
    · rename_i type found
      exact absurd ⟨rfl, found⟩ (untyped members type)
    · exact ⟨_, fun _ => rfl⟩
    · exact ⟨_, fun _ => rfl⟩
  · exact ⟨_, fun _ => rfl⟩

theorem decode_of_kind {kind : Kind} (typed : value.HasType members type)
    (spelled : Spells type kind) :
    Item.decode index value = (RawItem.mk index type value).readItem kind := by
  rw [decode_of_hasType typed, Choice.ofName?_eq_some_iff_spells.mpr spelled]

/-- A value is read by the kind that its type names, or refused because no kind is named so, or
because it has no type. -/
theorem decode_cases (value : Json) :
    (∃ (members : List (String × Json)) (type : String) (kind : Kind),
      value.HasType members type ∧ Spells type kind ∧
        ∀ index, Item.decode index value = (RawItem.mk index type value).readItem kind) ∨
    (∃ members type, value.HasType members type ∧ (∀ kind : Kind, ¬Spells type kind) ∧
      ∀ index, Item.decode index value =
        .error ⟨some index, some type, .type, .unknownType type⟩) ∨
    (∀ members type, ¬value.HasType members type) ∧
      ∃ reason, ∀ index, Item.decode index value = .error ⟨some index, none, .type, reason⟩ := by
  by_cases typed : ∃ members type, value.HasType members type
  · obtain ⟨members, type, typed⟩ := typed
    cases named : (Choice.ofName? type : Option Kind) with
    | some kind =>
      have spelled := Choice.ofName?_eq_some_iff_spells.mp named
      exact .inl ⟨members, type, kind, typed, spelled, fun _ => decode_of_kind typed spelled⟩
    | none =>
      refine .inr (.inl ⟨members, type, typed, Choice.ofName?_eq_none_iff.mp named, ?_⟩)
      intro index
      rw [decode_of_hasType typed, named]
  · simp only [not_exists] at typed
    exact .inr (.inr ⟨typed, decode_of_untyped typed⟩)

theorem decode_eq_ok_iff {item : Item} :
    Item.decode index value = .ok item ↔ value.StandsForItem item := by
  constructor
  · intro success
    rcases decode_cases value with ⟨members, type, kind, typed, spelled, decodes⟩ |
      ⟨_, _, _, _, decodes⟩ | ⟨_, _, decodes⟩
    · rw [decodes] at success
      obtain ⟨rfl, given⟩ := (RawItem.readItem_eq_ok_iff typed.1).mp success
      exact ⟨members, type, typed, spelled, given⟩
    · rw [decodes] at success
      cases success
    · rw [decodes] at success
      cases success
  · rintro ⟨members, type, typed, spelled, given⟩
    rw [decode_of_kind typed spelled]
    exact (RawItem.readItem_eq_ok_iff typed.1).mpr ⟨rfl, given⟩

theorem blames_of_decode {refusal : Refusal} (failed : Item.decode index value = .error refusal) :
    value.Blames index refusal := by
  rcases decode_cases value with ⟨members, type, kind, typed, spelled, decodes⟩ |
    ⟨members, type, typed, unknown, decodes⟩ | ⟨untyped, reason, decodes⟩
  · rw [decodes] at failed
    obtain ⟨field, reason, isFirst, rfl⟩ :=
      (RawItem.readItem_inOrder typed.1 kind).isFirstInvalid refusal failed
    exact .invalid typed spelled isFirst
  · rw [decodes] at failed
    cases failed
    exact .unknownType typed unknown
  · rw [decodes] at failed
    cases failed
    exact .noType untyped

end Item

theorem Json.IsValidItem.not_blames {value : Json} (valid : value.IsValidItem) {index : Nat}
    {refusal : Refusal} : ¬value.Blames index refusal := by
  obtain ⟨members, type, kind, ⟨rfl, found⟩, spelled, fields⟩ := valid
  intro blames
  cases blames with
  | noType untyped => exact untyped members type ⟨rfl, found⟩
  | unknownType typed unknown =>
    obtain ⟨⟨⟩, other⟩ := typed
    rw [found] at other
    cases other
    exact unknown kind spelled
  | invalid typed otherSpelled isFirst =>
    obtain ⟨⟨⟩, other⟩ := typed
    rw [found] at other
    cases other
    obtain rfl := spelled.unique otherSpelled
    obtain ⟨front, rest, split, _, invalid⟩ := isFirst
    exact invalid (fields _ (split ▸ List.mem_append_cons_self))

theorem Item.decodes_iff {index : Nat} {value : Json} :
    (∃ item, Item.decode index value = .ok item) ↔ value.IsValidItem := by
  constructor
  · rintro ⟨item, success⟩
    obtain ⟨members, type, typed, spelled, _⟩ := decode_eq_ok_iff.mp success
    rw [decode_of_kind typed spelled] at success
    exact ⟨members, type, item.kind, typed, spelled,
      (RawItem.readItem_inOrder typed.1 _).isValid item success⟩
  · intro valid
    cases decoded : Item.decode index value with
    | ok item => exact ⟨item, rfl⟩
    | error refusal => exact absurd (blames_of_decode decoded) valid.not_blames

/-- An item is accepted exactly by its grammar. Decoding gives an item exactly if the value stands
for it: its type names the kind of the item, and its fields stand for what the item carries. It
gives some item exactly if the type is known and each field that it needs is valid, and otherwise
blames the type or the first field that is not valid, by its key. -/
theorem Item.decode_by_grammar (index : Nat) (value : Json) :
    (∀ item, Item.decode index value = .ok item ↔ value.StandsForItem item) ∧
    ((∃ item, Item.decode index value = .ok item) ↔ value.IsValidItem) ∧
    ∀ refusal, Item.decode index value = .error refusal →
      value.Blames index refusal ∧ refusal.field.IsKey refusal.field.name :=
  ⟨fun _ => decode_eq_ok_iff, decodes_iff,
    fun _ failed => ⟨blames_of_decode failed, Field.isKey_iff.mpr rfl⟩⟩

end ThermalPrint
