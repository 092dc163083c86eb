import ThermalPrint.Proofs.Receipt.Grammar

/-!
# Receipts are decoded as a whole or not at all

A list of values is decoded exactly if each value is decoded alone, and what comes of a value does
not depend on its place. Otherwise the first value that is refused refuses the list, whatever comes
after it.
-/

namespace ThermalPrint

/-- The refusal of an item that stands further back by a distance. -/
def Refusal.shift (distance : Nat) (refusal : Refusal) : Refusal :=
  { refusal with index := refusal.index.map (· + distance) }

theorem mapError_bind {ε φ α β : Type} {wrap : ε → φ} {first : Except ε α}
    {next : α → Except ε β} : (first >>= next).mapError wrap =
      first.mapError wrap >>= fun middle => (next middle).mapError wrap := by
  cases first <;> rfl

namespace RawItem

def shift (distance : Nat) (item : RawItem) : RawItem :=
  { item with index := item.index + distance }

variable (distance : Nat) (item : RawItem)

theorem read_shift {α : Type} (field : Field) (convert : Json → Except Reason α) :
    (item.shift distance).read field convert =
      (item.read field convert).mapError (.shift distance) := by
  have sameValue : (item.shift distance).value? field = item.value? field := rfl
  unfold read
  rw [sameValue]
  cases item.value? field with
  | none => rfl
  | some value => cases converted : convert value <;> simp only [converted] <;> rfl

theorem readText_shift :
    (item.shift distance).readText = item.readText.mapError (.shift distance) := by
  simp only [readText, mapError_bind, read_shift]
  rfl

theorem readItem_shift (kind : Kind) :
    (item.shift distance).readItem kind = (item.readItem kind).mapError (.shift distance) := by
  cases kind <;> simp only [readItem, mapError_bind, read_shift, readText_shift] <;> rfl

end RawItem

namespace Item

variable {value : Json} {values more : List Json} {index : Nat}

/-- An item is the same wherever its value stands. -/
theorem decode_other {item : Item} (success : Item.decode index value = .ok item) (other : Nat) :
    Item.decode other value = .ok item := by
  rw [decode_eq_ok_iff] at success ⊢
  exact success

theorem index_of_decode {refusal : Refusal} (failed : Item.decode index value = .error refusal) :
    refusal.index = some index := by
  cases blames_of_decode failed <;> rfl

theorem decode_shift (index distance : Nat) (value : Json) : Item.decode (index + distance) value =
    (Item.decode index value).mapError (.shift distance) := by
  rcases decode_cases value with ⟨_, type, kind, _, _, decodes⟩ | ⟨_, _, _, _, decodes⟩ |
    ⟨_, _, decodes⟩
  · rw [decodes, decodes]
    exact RawItem.readItem_shift distance ⟨index, type, value⟩ kind
  · rw [decodes, decodes]
    rfl
  · rw [decodes, decodes]
    rfl

theorem decodeFrom_shift (index distance : Nat) (values : List Json) :
    Item.decodeFrom (index + distance) values =
      (Item.decodeFrom index values).mapError (.shift distance) := by
  induction values generalizing index with
  | nil => rfl
  | cons value rest inductionHypothesis =>
    simp only [decodeFrom, mapError_bind, decode_shift, ← inductionHypothesis]
    rw [Nat.add_right_comm]
    rfl

theorem decodeFrom_eq_ok_iff {items : List Item} : Item.decodeFrom index values = .ok items ↔
    List.Forall₂ (fun value item => ∀ place, Item.decode place value = .ok item) values items := by
  induction values generalizing index items with
  | nil => simp [decodeFrom, eq_comm]
  | cons value rest inductionHypothesis =>
    simp only [decodeFrom, bind_eq_ok_iff, inductionHypothesis, pure, Except.pure, Except.ok.injEq,
      List.forall₂_cons_left_iff]
    constructor
    · rintro ⟨item, success, later, alone, rfl⟩
      exact ⟨item, later, decode_other success, alone, rfl⟩
    · rintro ⟨item, later, success, alone, rfl⟩
      exact ⟨item, success index, later, alone, rfl⟩

theorem decodesFrom_iff : (∃ items, Item.decodeFrom index values = .ok items) ↔
    ∀ value ∈ values, ∃ place item, Item.decode place value = .ok item := by
  simp only [decodeFrom_eq_ok_iff]
  induction values with
  | nil => exact ⟨fun _ => by simp, fun _ => ⟨[], .nil⟩⟩
  | cons value rest inductionHypothesis =>
    rw [List.forall_mem_cons, ← inductionHypothesis]
    constructor
    · rintro ⟨items, alone⟩
      cases alone with
      | cons success aloneRest => exact ⟨⟨0, _, success 0⟩, _, aloneRest⟩
    · rintro ⟨⟨place, item, success⟩, items, aloneRest⟩
      exact ⟨item :: items, .cons (decode_other success) aloneRest⟩

theorem decodeFrom_append (index : Nat) (values more : List Json) :
    Item.decodeFrom index (values ++ more) =
      Item.decodeFrom index values >>= fun items =>
        (Item.decodeFrom (index + values.length) more).map (items ++ ·) := by
  induction values generalizing index with
  | nil => cases decoded : Item.decodeFrom index more <;> simp [decodeFrom, decoded] <;> rfl
  | cons value rest inductionHypothesis =>
    simp only [List.cons_append, decodeFrom, inductionHypothesis, List.length_cons]
    rw [Nat.add_right_comm, Nat.add_assoc]
    cases Item.decode index value with
    | error refusal => rfl
    | ok item =>
      cases Item.decodeFrom (index + 1) rest with
      | error refusal => rfl
      | ok items =>
        cases Item.decodeFrom (index + (rest.length + 1)) more <;> rfl

/-- The first value that is refused refuses the list. -/
theorem decodeFrom_eq_error_iff {refusal : Refusal} :
    Item.decodeFrom index values = .error refusal ↔
      ∃ front value rest, values = front ++ value :: rest ∧
        (∀ earlier ∈ front, ∃ place item, Item.decode place earlier = .ok item) ∧
        Item.decode (index + front.length) value = .error refusal := by
  constructor
  · intro failed
    induction values generalizing index with
    | nil => cases failed
    | cons value rest inductionHypothesis =>
      rw [decodeFrom] at failed
      cases decoded : Item.decode index value with
      | error own =>
        rw [decoded] at failed
        cases failed
        exact ⟨[], value, rest, rfl, by simp, decoded⟩
      | ok item =>
        cases later : Item.decodeFrom (index + 1) rest with
        | error own =>
          rw [decoded, later] at failed
          cases failed
          obtain ⟨front, first, last, rfl, alone, refused⟩ := inductionHypothesis later
          refine ⟨value :: front, first, last, rfl, ?_, ?_⟩
          · rw [List.forall_mem_cons]
            exact ⟨⟨index, item, decoded⟩, alone⟩
          · rw [List.length_cons, ← Nat.add_assoc, Nat.add_right_comm]
            exact refused
        | ok items =>
          rw [decoded, later] at failed
          cases failed
  · rintro ⟨front, value, rest, rfl, alone, refused⟩
    -- What stands before is a list that is decoded, so the refusal is that of what follows it.
    obtain ⟨items, success⟩ := decodesFrom_iff.mpr alone
    rw [decodeFrom_append, success, decodeFrom, refused]
    rfl

/-- A list is decoded all or nothing. Every value gives the item that it gives alone, at any other
place, and in this order; if a value is refused alone, the list is refused as the first of these is
refused at its place. So what follows a list that is refused does not matter, and a list that
follows one that is decoded is refused as it is alone, but further back. -/
theorem decodeAll_all_or_nothing (values more : List Json) :
    (∀ items, Item.decodeAll values = .ok items ↔
      List.Forall₂ (fun value item => ∀ place, Item.decode place value = .ok item)
        values items) ∧
    ((∃ items, Item.decodeAll values = .ok items) ↔
      ∀ value ∈ values, ∃ place item, Item.decode place value = .ok item) ∧
    (∀ refusal, Item.decodeAll values = .error refusal ↔
      ∃ front value rest, values = front ++ value :: rest ∧
        (∀ earlier ∈ front, ∃ place item, Item.decode place earlier = .ok item) ∧
        Item.decode front.length value = .error refusal ∧
        refusal.index = some front.length) ∧
    (∀ refusal, Item.decodeAll values = .error refusal →
      Item.decodeAll (values ++ more) = .error refusal) ∧
    (∀ items refusal, Item.decodeAll values = .ok items → Item.decodeAll more = .error refusal →
      Item.decodeAll (values ++ more) = .error (refusal.shift values.length)) := by
  have append := decodeFrom_append 0 values more
  rw [decodeFrom_shift] at append
  refine ⟨fun _ => decodeFrom_eq_ok_iff, decodesFrom_iff, ?_, ?_, ?_⟩
  · intro refusal
    simp only [decodeAll, decodeFrom_eq_error_iff, Nat.zero_add]
    constructor
    · rintro ⟨front, value, rest, split, alone, refused⟩
      exact ⟨front, value, rest, split, alone, refused, index_of_decode refused⟩
    · rintro ⟨front, value, rest, split, alone, refused, _⟩
      exact ⟨front, value, rest, split, alone, refused⟩
  · intro refusal failed
    rw [decodeAll] at failed ⊢
    rw [append, failed]
    rfl
  · intro items refusal success failed
    rw [decodeAll] at success failed ⊢
    rw [append, success, failed]
    rfl

end Item

end ThermalPrint
