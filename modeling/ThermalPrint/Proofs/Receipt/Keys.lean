import ThermalPrint.Proofs.Receipt.Grammar

/-!
# Keys that do not matter

Decoding an object looks at its type and at one value for each field that the type needs: the value
of the key, or that of the alias if the key is absent. So no other key matters, an alias beside its
key included, and a value that is moved from a key to its absent alias is found there.
-/

namespace ThermalPrint

namespace Field

theorem name_injective {field other : Field} (same : field.name = other.name) : field = other := by
  cases field <;> cases other <;> first | rfl | exact absurd same (by decide)

/-- No key stands for one field and in for another. -/
theorem name_ne_alias {field : Field} {key : String} (isAlias : field.alias? = some key)
    (other : Field) : other.name ≠ key := by
  cases field <;> cases isAlias <;> cases other <;> decide

theorem alias_injective {field other : Field} {key : String} (isAlias : field.alias? = some key)
    (isOtherAlias : other.alias? = some key) : field = other := by
  cases field <;> cases isAlias <;> cases other <;>
    first | rfl | exact absurd isOtherAlias (by decide)

/-- Two objects tell the same about a field: its key has the same value in both, and so has its
alias if the key is absent. -/
structure IsSame (members others : List (String × Json)) (field : Field) : Prop where
  byKey : ∀ key, field.IsKey key → Json.member? key others = Json.member? key members
  byAlias : ∀ key standIn, field.IsKey key → Json.member? key members = none →
    field.IsAlias standIn → Json.member? standIn others = Json.member? standIn members

/-- The aliases of present keys do not matter. -/
theorem isSame_of_found {members others : List (String × Json)} {field : Field} {value : Json}
    (found : Json.member? field.name members = some value)
    (otherFound : Json.member? field.name others = some value) : field.IsSame members others where
  byKey := by
    intro key isKey
    obtain rfl := isKey_iff.mp isKey
    exact otherFound.trans found.symm
  byAlias := by
    intro key standIn isKey absent
    obtain rfl := isKey_iff.mp isKey
    rw [found] at absent
    cases absent

end Field

/-! ## Values that are read -/

namespace RawItem

variable {item other : RawItem}

theorem read_congr {α : Type} {field : Field} (sameIndex : other.index = item.index)
    (sameKind : other.kind = item.kind) (sameValue : other.value? field = item.value? field)
    (convert : Json → Except Reason α) : other.read field convert = item.read field convert := by
  simp only [read, refuse, sameIndex, sameKind, sameValue]

/-- Reading an item looks at the values of the fields of its kind, and at nothing else. -/
theorem readItem_congr {kind : Kind} (sameIndex : other.index = item.index)
    (sameKind : other.kind = item.kind)
    (sameValues : ∀ field ∈ kind.fields, other.value? field = item.value? field) :
    other.readItem kind = item.readItem kind := by
  have sameReading {α : Type} (field : Field) (member : field ∈ kind.fields)
      (convert : Json → Except Reason α) : other.read field convert = item.read field convert :=
    read_congr sameIndex sameKind (sameValues field member) convert
  cases kind <;> simp (disch := decide) only [readItem, readText, sameReading]

theorem value?_of_isSame {index otherIndex : Nat} {kind otherKind : String}
    {members others : List (String × Json)} {field : Field} (same : field.IsSame members others) :
    (RawItem.mk otherIndex otherKind (.object others)).value? field =
      (RawItem.mk index kind (.object members)).value? field := by
  have isKey : field.IsKey field.name := Field.isKey_iff.mpr rfl
  simp only [value?, Json.get?, same.byKey field.name isKey]
  cases absent : Json.member? field.name members with
  | some value => rfl
  | none =>
    cases isAlias : field.alias? with
    | none => rfl
    | some standIn =>
      exact same.byAlias field.name standIn isKey absent (Field.isAlias_iff.mpr isAlias)

end RawItem

theorem Item.decode_congr {members others : List (String × Json)} {index : Nat}
    (sameType : Json.member? "type" others = Json.member? "type" members)
    (sameValues : ∀ (type : String) (kind : Kind),
      Json.member? "type" members = some (.string type) → Spells type kind →
      ∀ field ∈ kind.fields, (RawItem.mk index type (.object others)).value? field =
        (RawItem.mk index type (.object members)).value? field) :
    Item.decode index (.object others) = Item.decode index (.object members) := by
  have sameName : Json.member? Field.type.name others = Json.member? Field.type.name members :=
    sameType
  unfold Item.decode
  simp only [sameName]
  split
  · rename_i type found
    cases known : (Choice.ofName? type : Option Kind) with
    | none => rfl
    | some kind =>
      have spelled := Choice.ofName?_eq_some_iff_spells.mp known
      exact RawItem.readItem_congr rfl rfl (sameValues type kind found spelled)
  · rfl
  · rfl

/-! ## Moved values -/

namespace Json

/-- The members of an object with another name for a key. -/
def renameKey (old new : String) (members : List (String × Json)) : List (String × Json) :=
  members.map fun member => if member.1 = old then (new, member.2) else member

variable {old new key : String} {members : List (String × Json)}

theorem member?_cons (member : String × Json) (rest : List (String × Json)) :
    member? key (member :: rest) =
      (member? key rest).or (if member.1 = key then some member.2 else none) := by
  cases found : member? key rest <;> simp [member?, found]

theorem renameKey_cons (member : String × Json) (rest : List (String × Json)) :
    renameKey old new (member :: rest) =
      (if member.1 = old then (new, member.2) else member) :: renameKey old new rest :=
  rfl

theorem member?_renameKey_new (absent : member? new members = none) :
    member? new (renameKey old new members) = member? old members := by
  induction members with
  | nil => rfl
  | cons member rest inductionHypothesis =>
    rw [member?_cons, Option.or_eq_none_iff] at absent
    obtain ⟨absentLater, notHere⟩ := absent
    have another : member.1 ≠ new := by
      intro same
      rw [if_pos same] at notHere
      cases notHere
    rw [renameKey_cons, member?_cons, member?_cons, inductionHypothesis absentLater]
    by_cases moved : member.1 = old <;> simp [moved, another]

theorem member?_renameKey_old (different : new ≠ old) (members : List (String × Json)) :
    member? old (renameKey old new members) = none := by
  induction members with
  | nil => rfl
  | cons member rest inductionHypothesis =>
    rw [renameKey_cons, member?_cons, inductionHypothesis]
    by_cases moved : member.1 = old <;> simp [moved, different]

theorem member?_renameKey_other (notOld : key ≠ old) (notNew : key ≠ new)
    (members : List (String × Json)) :
    member? key (renameKey old new members) = member? key members := by
  induction members with
  | nil => rfl
  | cons member rest inductionHypothesis =>
    rw [renameKey_cons, member?_cons, member?_cons, inductionHypothesis]
    by_cases moved : member.1 = old
    · simp [moved, notOld.symm, notNew.symm]
    · simp [moved]

end Json

section

variable {field : Field} {key : String} {members : List (String × Json)}

/-- A value is found as before after it has been moved to the alias of its key. -/
theorem RawItem.value?_renameKey {index otherIndex : Nat} {kind otherKind : String}
    (isAlias : field.alias? = some key) (absent : Json.member? key members = none)
    (other : Field) :
    (RawItem.mk otherIndex otherKind
        (.object (Json.renameKey field.name key members))).value? other =
      (RawItem.mk index kind (.object members)).value? other := by
  simp only [value?, Json.get?]
  by_cases same : other = field
  · subst same
    have moved := Json.member?_renameKey_old (other.name_ne_alias isAlias other).symm members
    rw [moved, isAlias]
    simp only [Option.bind_some, Json.member?_renameKey_new absent, absent]
    cases Json.member? other.name members <;> rfl
  · have notOld : other.name ≠ field.name := fun sameName => same (Field.name_injective sameName)
    rw [Json.member?_renameKey_other notOld (Field.name_ne_alias isAlias other)]
    cases Json.member? other.name members with
    | some value => rfl
    | none =>
      cases isOtherAlias : other.alias? with
      | none => rfl
      | some otherKey =>
        have notOldKey : otherKey ≠ field.name := (Field.name_ne_alias isOtherAlias field).symm
        have notKey : otherKey ≠ key := by
          rintro rfl
          exact same (Field.alias_injective isOtherAlias isAlias)
        exact Json.member?_renameKey_other notOldKey notKey members

theorem Field.type_ne_name (isAlias : field.alias? = some key) :
    Field.type.name ≠ field.name := by
  intro same
  rw [← Field.name_injective same] at isAlias
  cases isAlias

theorem Item.decode_renameKey (index : Nat) (isAlias : field.alias? = some key)
    (absent : Json.member? key members = none) :
    Item.decode index (.object (Json.renameKey field.name key members)) =
      Item.decode index (.object members) := by
  apply Item.decode_congr
  · exact Json.member?_renameKey_other (Field.type_ne_name isAlias)
      (Field.name_ne_alias isAlias .type) members
  · intro type kind _ _ other _
    exact RawItem.value?_renameKey isAlias absent other

end

/-- Other keys do not matter. Objects that have the same type, and tell the same about each field
that the type needs, are decoded alike, whatever else they hold. A value that is moved from the key
of a field to its absent alias is read alike, and a refusal still names the key. -/
theorem Item.decode_ignores_other_keys (index : Nat) (members : List (String × Json)) :
    (∀ others, Json.member? "type" others = Json.member? "type" members →
      (∀ (type : String) (kind : Kind), Json.member? "type" members = some (.string type) →
        Spells type kind → ∀ field ∈ kind.fields, field.IsSame members others) →
      Item.decode index (.object others) = Item.decode index (.object members)) ∧
    ∀ (field : Field) (key standIn : String), field.IsKey key → field.IsAlias standIn →
      Json.member? standIn members = none →
      Item.decode index (.object (Json.renameKey key standIn members)) =
        Item.decode index (.object members) ∧
      ∀ refusal, Item.decode index (.object (Json.renameKey key standIn members)) =
        .error refusal → refusal.field.IsKey refusal.field.name ∧ refusal.field.name ≠ standIn := by
  constructor
  · intro others sameType sameFields
    apply Item.decode_congr sameType
    intro type kind typed spelled field member
    exact RawItem.value?_of_isSame (sameFields type kind typed spelled field member)
  · intro field key standIn isKey isAlias absent
    rw [Field.isAlias_iff] at isAlias
    obtain rfl := Field.isKey_iff.mp isKey
    refine ⟨Item.decode_renameKey index isAlias absent, ?_⟩
    intro refusal _
    exact ⟨Field.isKey_iff.mpr rfl, Field.name_ne_alias isAlias refusal.field⟩

def barcodeMembers : List (String × Json) :=
  [("type", .string "barcode"), ("code", .string "036000291452"), ("barcode-type", .string "UPCB")]

/-- The same barcode with keys that it does not need, one of them an alias beside its key. -/
def crowdedMembers : List (String × Json) :=
  [("alignment", .string "right"), ("barcode_type", .null), ("barcode-type", .string "UPCB"),
    ("code", .string "036000291452"), ("font-size", .boolean true), ("type", .string "barcode")]

theorem barcode_ignores_other_keys :
    Item.decode 3 (.object crowdedMembers) = Item.decode 3 (.object barcodeMembers) ∧
    Item.decode 3 (.object (Json.renameKey "barcode-type" "barcode_type" barcodeMembers)) =
      Item.decode 3 (.object barcodeMembers) := by
  obtain ⟨others, moved⟩ := Item.decode_ignores_other_keys 3 barcodeMembers
  constructor
  · apply others crowdedMembers rfl
    intro type kind typed spelled field member
    cases typed
    have isBarcode : Spells "barcode" Kind.barcode := by decide
    obtain rfl := spelled.unique isBarcode
    simp only [Kind.fields, List.mem_cons, List.not_mem_nil, or_false] at member
    rcases member with rfl | rfl
    · exact Field.isSame_of_found rfl rfl
    · exact Field.isSame_of_found rfl rfl
  · exact (moved .barcodeType "barcode-type" "barcode_type" (by decide) (by decide) rfl).1

end ThermalPrint
