import ThermalPrint.Proofs.Json.Tokens

/-!
# Reading what was written

A value is read back from its compact text if its numbers are whole and fit 64 bits, and if it is
not nested too deeply.
-/

namespace ThermalPrint.Json

/-- Values that are read back from their texts: their numbers are whole and fit 64 bits, and lists
and objects are nested at most so deep. -/
inductive IsReadable : (depth : Nat) → Json → Prop where
  | null {depth : Nat} : IsReadable depth .null
  | boolean {depth : Nat} (value : Bool) : IsReadable depth (.boolean value)
  | whole {depth : Nat} {value : Int} : -(leastMagnitude : Int) ≤ value → value < wordBound →
      IsReadable depth (.number (.whole value))
  | string {depth : Nat} (text : String) : IsReadable depth (.string text)
  | list {depth : Nat} {elements : List Json} : (∀ element ∈ elements, IsReadable depth element) →
      IsReadable (depth + 1) (.list elements)
  | object {depth : Nat} {members : List (String × Json)} :
      (∀ member ∈ members, IsReadable depth member.2) → IsReadable (depth + 1) (.object members)

/-- A reader takes a text for a value, whatever ends the text. -/
def Reads {α : Type} (reader : Reader α) (text : List Char) (value : α) : Prop :=
  ∀ rest, EndsNumber rest → reader (text ++ rest) = .ok (value, rest)

/-- A text that starts with neither a blank nor a closing bracket. -/
def StartsValue (text : List Char) : Prop :=
  ∃ first rest, text = first :: rest ∧ isSpace first = false ∧ first ≠ ']'

/-! ## The first character of a value -/

theorem ne_of_isDigit {character other : Char} (isDigit : character.isDigit = true)
    (notDigit : other.isDigit = false) : character ≠ other := by
  rintro rfl
  rw [isDigit] at notDigit
  contradiction

theorem isSpace_of_isDigit {character : Char} (isDigit : character.isDigit = true) :
    isSpace character = false := by
  have notBlank : character ≠ ' ' := ne_of_isDigit isDigit rfl
  have notLineFeed : character ≠ '\n' := ne_of_isDigit isDigit rfl
  have notTab : character ≠ '\t' := ne_of_isDigit isDigit rfl
  have notReturn : character ≠ '\r' := ne_of_isDigit isDigit rfl
  simp [isSpace, notBlank, notLineFeed, notTab, notReturn]

theorem toDigits_starts (magnitude : Nat) :
    ∃ first digits, Nat.toDigits 10 magnitude = first :: digits ∧ first.isDigit = true := by
  cases printed : Nat.toDigits 10 magnitude with
  | nil => exact absurd printed Nat.toDigits_ne_nil
  | cons first digits =>
    refine ⟨first, digits, rfl, ?_⟩
    exact Nat.isDigit_of_mem_toDigits (by decide) (by decide)
      (printed ▸ List.mem_cons_self : first ∈ Nat.toDigits 10 magnitude)

theorem startsValue_print {depth : Nat} {value : Json} (readable : IsReadable depth value) :
    StartsValue (print value) := by
  cases readable with
  | null => exact ⟨'n', _, rfl, rfl, by decide⟩
  | boolean value => cases value <;> exact ⟨_, _, rfl, rfl, by decide⟩
  | @whole _ value _ _ =>
    cases value with
    | ofNat magnitude =>
      obtain ⟨first, digits, printed, isDigit⟩ := toDigits_starts magnitude
      exact ⟨first, digits, printed, isSpace_of_isDigit isDigit, ne_of_isDigit isDigit rfl⟩
    | negSucc magnitude => exact ⟨'-', _, rfl, rfl, by decide⟩
  | string text => exact ⟨'"', _, rfl, rfl, by decide⟩
  | list _ => exact ⟨'[', _, rfl, rfl, by decide⟩
  | object _ => exact ⟨'\x7b', _, rfl, rfl, by decide⟩

/-! ## Lists and objects -/

/-- The text of a member. -/
def printMember (member : String × Json) : List Char :=
  printString member.1 ++ ':' :: print member.2

theorem printElements_cons (element : Json) (elements : List Json) :
    printElements (element :: elements) =
      print element ++ elements.flatMap fun element => ',' :: print element := by
  induction elements generalizing element with
  | nil => simp [printElements]
  | cons next elements inductionHypothesis =>
    rw [printElements, inductionHypothesis next, List.flatMap_cons]
    rfl

theorem printMembers_cons (member : String × Json) (members : List (String × Json)) :
    printMembers (member :: members) =
      printMember member ++ members.flatMap fun member => ',' :: printMember member := by
  induction members generalizing member with
  | nil => simp [printMembers, printMember]
  | cons next members inductionHypothesis =>
    rw [printMembers, inductionHypothesis next, List.flatMap_cons]
    simp [printMember]

theorem endsNumber_bracket {rest : List Char} : EndsNumber (']' :: rest) :=
  endsNumber_cons rest rfl (by decide) (by decide) (by decide)

theorem endsNumber_brace {rest : List Char} : EndsNumber ('\x7d' :: rest) :=
  endsNumber_cons rest rfl (by decide) (by decide) (by decide)

theorem endsNumber_flatMap {α : Type} (values : List α) (text : α → List Char) {closing : Char}
    (rest : List Char) (ends : EndsNumber (closing :: rest)) :
    EndsNumber ((values.flatMap fun value => ',' :: text value) ++ closing :: rest) := by
  cases values with
  | nil => exact ends
  | cons value values => exact endsNumber_cons _ rfl (by decide) (by decide) (by decide)

theorem StartsValue.append {text : List Char} (starts : StartsValue text) (rest : List Char) :
    StartsValue (text ++ rest) := by
  obtain ⟨first, others, rfl, notSpace, notClosing⟩ := starts
  exact ⟨first, others ++ rest, rfl, notSpace, notClosing⟩

theorem skipSpaces_cons (first : Char) (rest : List Char) (notSpace : isSpace first = false) :
    skipSpaces (first :: rest) = first :: rest := by
  simp [skipSpaces, notSpace]

section Lists

variable {readElement : Reader Json} {bound : Nat} {element : Json} {elements : List Json}
  {text rest remaining : List Char}

theorem readMoreElements_comma (starts : StartsValue text)
    (first : readElement text = .ok (element, rest))
    (others : readMoreElements readElement bound rest = .ok (elements, remaining)) :
    readMoreElements readElement (bound + 1) (',' :: text) =
      .ok (element :: elements, remaining) := by
  obtain ⟨character, characters, rfl, notSpace, notClosing⟩ := starts
  simp only [readMoreElements, skipSpaces_cons _ _ notSpace, skipSpaces_cons ',' _ rfl]
  simp [notClosing, first, others, bind, Except.bind, pure, Except.pure]

theorem readElements_starting (starts : StartsValue text)
    (first : readElement text = .ok (element, rest))
    (others : readMoreElements readElement bound rest = .ok (elements, remaining)) :
    readElements readElement bound text = .ok (element :: elements, remaining) := by
  obtain ⟨character, characters, rfl, notSpace, notClosing⟩ := starts
  simp only [readElements, skipSpaces_cons _ _ notSpace]
  simp [notClosing, first, others, bind, Except.bind, pure, Except.pure]

theorem readMoreElements_flatMap (enough : elements.length < bound)
    (starts : ∀ element ∈ elements, StartsValue (print element))
    (reads : ∀ element ∈ elements, Reads readElement (print element) element)
    (rest : List Char) :
    readMoreElements readElement bound
        ((elements.flatMap fun element => ',' :: print element) ++ ']' :: rest) =
      .ok (elements, rest) := by
  induction elements generalizing bound with
  | nil =>
    cases bound with
    | zero => contradiction
    | succ bound => rfl
  | cons element elements inductionHypothesis =>
    cases bound with
    | zero => contradiction
    | succ bound =>
      have others := inductionHypothesis (Nat.lt_of_succ_lt_succ enough)
        (fun element member => starts element (List.mem_cons_of_mem _ member))
        (fun element member => reads element (List.mem_cons_of_mem _ member))
      rw [List.flatMap_cons, List.append_assoc, List.cons_append]
      exact readMoreElements_comma ((starts element (by simp)).append _)
        (reads element (by simp) _ (endsNumber_flatMap elements print rest endsNumber_bracket))
        others

/-- A list is read back if each of its elements is. -/
theorem readElements_printElements (enough : elements.length ≤ bound)
    (starts : ∀ element ∈ elements, StartsValue (print element))
    (reads : ∀ element ∈ elements, Reads readElement (print element) element)
    (rest : List Char) :
    readElements readElement bound (printElements elements ++ ']' :: rest) =
      .ok (elements, rest) := by
  cases elements with
  | nil => rfl
  | cons element elements =>
    have others := readMoreElements_flatMap enough
      (fun element member => starts element (List.mem_cons_of_mem _ member))
      (fun element member => reads element (List.mem_cons_of_mem _ member)) rest
    rw [printElements_cons, List.append_assoc]
    exact readElements_starting ((starts element (by simp)).append _)
      (reads element (by simp) _ (endsNumber_flatMap elements print rest endsNumber_bracket))
      others

end Lists

section Objects

variable {readElement : Reader Json} {bound : Nat} {member : String × Json}
  {members : List (String × Json)} {text rest remaining : List Char}

theorem reads_printMember (reads : Reads readElement (print member.2) member.2) :
    Reads (readMember readElement) (printMember member) member := by
  intro rest ends
  have value := reads rest ends
  have key := readString_escaped member.1 (':' :: (print member.2 ++ rest))
  simp [printMember, printString, readMember, key, value, skipSpaces_cons ':' _ rfl, bind,
    Except.bind, pure, Except.pure]

theorem readMoreMembers_comma
    (first : readMember readElement ('"' :: text) = .ok (member, rest))
    (others : readMoreMembers readElement bound rest = .ok (members, remaining)) :
    readMoreMembers readElement (bound + 1) (',' :: '"' :: text) =
      .ok (member :: members, remaining) := by
  simp [readMoreMembers, skipSpaces_cons ',' _ rfl, skipSpaces_cons '"' _ rfl, first, others, bind,
    Except.bind, pure, Except.pure]

theorem readMembers_starting
    (first : readMember readElement ('"' :: text) = .ok (member, rest))
    (others : readMoreMembers readElement bound rest = .ok (members, remaining)) :
    readMembers readElement bound ('"' :: text) = .ok (member :: members, remaining) := by
  simp [readMembers, skipSpaces_cons '"' _ rfl, first, others, bind, Except.bind, pure,
    Except.pure]

theorem readMoreMembers_flatMap (enough : members.length < bound)
    (reads : ∀ member ∈ members, Reads readElement (print member.2) member.2)
    (rest : List Char) :
    readMoreMembers readElement bound
        ((members.flatMap fun member => ',' :: printMember member) ++ '\x7d' :: rest) =
      .ok (members, rest) := by
  induction members generalizing bound with
  | nil =>
    cases bound with
    | zero => contradiction
    | succ bound => rfl
  | cons member members inductionHypothesis =>
    cases bound with
    | zero => contradiction
    | succ bound =>
      have others := inductionHypothesis (Nat.lt_of_succ_lt_succ enough)
        (fun element member => reads element (List.mem_cons_of_mem _ member))
      have first := reads_printMember (reads member (by simp)) _
        (endsNumber_flatMap members printMember rest endsNumber_brace)
      rw [List.flatMap_cons, List.append_assoc, List.cons_append]
      exact readMoreMembers_comma first others

/-- An object is read back if each of its members is. -/
theorem readMembers_printMembers (enough : members.length ≤ bound)
    (reads : ∀ member ∈ members, Reads readElement (print member.2) member.2)
    (rest : List Char) :
    readMembers readElement bound (printMembers members ++ '\x7d' :: rest) =
      .ok (members, rest) := by
  cases members with
  | nil => rfl
  | cons member members =>
    have others := readMoreMembers_flatMap enough
      (fun element member => reads element (List.mem_cons_of_mem _ member)) rest
    have first := reads_printMember (reads member (by simp)) _
      (endsNumber_flatMap members printMember rest endsNumber_brace)
    rw [printMembers_cons, List.append_assoc]
    exact readMembers_starting first others

end Objects

/-! ## Lengths of texts -/

theorem length_le_length_flatMap {α : Type} (values : List α) (text : α → List Char) :
    values.length ≤ (values.flatMap fun value => ',' :: text value).length := by
  induction values with
  | nil => simp
  | cons value values inductionHypothesis =>
    simp only [List.flatMap_cons, List.length_append, List.length_cons]
    omega

theorem length_text_le_length_flatMap {α : Type} {values : List α} {value : α}
    (member : value ∈ values) (text : α → List Char) :
    (text value).length ≤ (values.flatMap fun value => ',' :: text value).length := by
  induction member with
  | head values =>
    simp only [List.flatMap_cons, List.length_append, List.length_cons]
    omega
  | tail other _ inductionHypothesis =>
    simp only [List.flatMap_cons, List.length_append, List.length_cons]
    omega

theorem length_le_length_printElements (elements : List Json) :
    elements.length ≤ (printElements elements).length + 1 := by
  cases elements with
  | nil => simp
  | cons element elements =>
    have others := length_le_length_flatMap elements print
    rw [printElements_cons, List.length_append, List.length_cons]
    omega

theorem length_print_le_length_printElements {element : Json} {elements : List Json}
    (member : element ∈ elements) : (print element).length ≤ (printElements elements).length := by
  cases member with
  | head elements =>
    rw [printElements_cons, List.length_append]
    omega
  | tail first member =>
    have others := length_text_le_length_flatMap member print
    rw [printElements_cons, List.length_append]
    omega

theorem length_le_length_printMembers (members : List (String × Json)) :
    members.length ≤ (printMembers members).length + 1 := by
  cases members with
  | nil => simp
  | cons member members =>
    have others := length_le_length_flatMap members printMember
    rw [printMembers_cons, List.length_append, List.length_cons]
    omega

theorem length_print_le_length_printMembers {member : String × Json}
    {members : List (String × Json)} (isMember : member ∈ members) :
    (print member.2).length ≤ (printMembers members).length := by
  have value : (print member.2).length ≤ (printMember member).length := by
    simp only [printMember, List.length_append, List.length_cons]
    omega
  cases isMember with
  | head members =>
    rw [printMembers_cons, List.length_append]
    omega
  | tail first isMember =>
    have others := length_text_le_length_flatMap isMember printMember
    rw [printMembers_cons, List.length_append]
    omega

/-! ## Values -/

section Values

variable {bound depth : Nat} {text rest : List Char}

theorem readValue_digit {first : Char} (isDigit : first.isDigit = true) :
    readValue bound depth (first :: text) =
      (readNumber false (first :: text)).map fun read => (.number read.1, read.2) := by
  have notWord : first ≠ 'n' ∧ first ≠ 't' ∧ first ≠ 'f' :=
    ⟨ne_of_isDigit isDigit rfl, ne_of_isDigit isDigit rfl, ne_of_isDigit isDigit rfl⟩
  have notQuote : first ≠ '"' := ne_of_isDigit isDigit rfl
  have notMinus : first ≠ '-' := ne_of_isDigit isDigit rfl
  rw [readValue, skipSpaces_cons _ _ (isSpace_of_isDigit isDigit)]
  cases read : readNumber false (first :: text) <;>
    simp [notWord, notQuote, notMinus, isDigit, read, bind, Except.bind, pure, Except.pure,
      Except.map]

theorem readValue_minus : readValue bound depth ('-' :: text) =
    (readNumber true text).map fun read => (.number read.1, read.2) := by
  rw [readValue, skipSpaces_cons _ _ rfl]
  cases read : readNumber true text <;>
    simp [read, bind, Except.bind, pure, Except.pure, Except.map]

theorem readValue_quote {content : String} (read : readString text = .ok (content, rest)) :
    readValue bound depth ('"' :: text) = .ok (.string content, rest) := by
  rw [readValue, skipSpaces_cons _ _ rfl]
  simp [read, bind, Except.bind, pure, Except.pure]

theorem readValue_bracket {elements : List Json}
    (read : readElements (readValue bound depth) bound text = .ok (elements, rest)) :
    readValue bound (depth + 1) ('[' :: text) = .ok (.list elements, rest) := by
  rw [readValue, skipSpaces_cons _ _ rfl]
  simp [read, bind, Except.bind, pure, Except.pure]

theorem readValue_brace {members : List (String × Json)}
    (read : readMembers (readValue bound depth) bound text = .ok (members, rest)) :
    readValue bound (depth + 1) ('\x7b' :: text) = .ok (.object members, rest) := by
  rw [readValue, skipSpaces_cons _ _ rfl]
  simp [read, bind, Except.bind, pure, Except.pure]

end Values

/-- Whole numbers from -2^63 to below 2^64 are read back. -/
theorem reads_decimalOfInt {value : Int} (atLeast : -(leastMagnitude : Int) ≤ value)
    (below : value < wordBound) (bound depth : Nat) :
    Reads (readValue bound depth) (decimalOfInt value) (.number (.whole value)) := by
  intro rest ends
  cases value with
  | ofNat magnitude =>
    have fits : magnitude < wordBound := by simpa using below
    have number := readNumber_toDigits false fits ends
    obtain ⟨first, digits, printed, isDigit⟩ := toDigits_starts magnitude
    rw [decimalOfInt]
    rw [printed] at number ⊢
    exact (readValue_digit isDigit).trans (congrArg _ number)
  | negSucc magnitude =>
    have small : magnitude + 1 ≤ leastMagnitude := by omega
    have fits : magnitude + 1 < wordBound := Nat.lt_of_le_of_lt small (by decide)
    have number := readNumber_toDigits true fits ends
    have notReal : ¬(magnitude + 1 = 0 ∨ leastMagnitude < magnitude + 1) := by omega
    rw [endWhole, if_pos rfl, if_neg notReal] at number
    exact readValue_minus.trans (congrArg _ number)

/-- A value is read back from its text, whatever ends it. The bound covers the text, and so the
texts of all elements and members. -/
theorem reads_print {depth : Nat} {value : Json} (readable : IsReadable depth value) (bound : Nat)
    (fits : (print value).length < bound) :
    Reads (readValue bound depth) (print value) value := by
  induction readable with
  | null =>
    intro rest _
    rw [readValue.eq_def]
    rfl
  | boolean value =>
    intro rest _
    rw [readValue.eq_def]
    cases value <;> rfl
  | whole atLeast below =>
    rw [print]
    exact reads_decimalOfInt atLeast below bound _
  | string text =>
    intro rest _
    have content := readString_escaped text rest
    simp only [print, printString, List.cons_append, List.append_assoc, List.nil_append]
    exact readValue_quote content
  | @list depth elements readable inductionHypothesis =>
    intro rest _
    have printed : (print (.list elements)).length = (printElements elements).length + 2 := by
      simp [print]
    have enough : elements.length ≤ bound := by
      have short := length_le_length_printElements elements
      omega
    -- One bound serves all depths, because the text of an element is part of that of the list.
    have reads : ∀ element ∈ elements,
        Reads (readValue bound depth) (print element) element := by
      intro element member
      have short := length_print_le_length_printElements member
      exact inductionHypothesis element member (by omega)
    have starts : ∀ element ∈ elements, StartsValue (print element) := fun element member =>
      startsValue_print (readable element member)
    have read := readElements_printElements enough starts reads rest
    simp only [print, List.cons_append, List.append_assoc, List.nil_append]
    exact readValue_bracket read
  | @object depth members readable inductionHypothesis =>
    intro rest _
    have printed : (print (.object members)).length = (printMembers members).length + 2 := by
      simp [print]
    have enough : members.length ≤ bound := by
      have short := length_le_length_printMembers members
      omega
    have reads : ∀ member ∈ members,
        Reads (readValue bound depth) (print member.2) member.2 := by
      intro member isMember
      have short := length_print_le_length_printMembers isMember
      exact inductionHypothesis member isMember (by omega)
    have read := readMembers_printMembers enough reads rest
    simp only [print, List.cons_append, List.append_assoc, List.nil_append]
    exact readValue_brace read

/-- Reading the compact text of a value gives the value again. -/
theorem parse_text {value : Json} (readable : IsReadable greatestDepth value) :
    parse value.text = .ok value := by
  have read := reads_print readable ((print value).length + 1) (Nat.lt_succ_self _) []
    endsNumber_nil
  rw [List.append_nil] at read
  simp only [parse, readText, text, String.toList_ofList, read]
  rfl

end ThermalPrint.Json
