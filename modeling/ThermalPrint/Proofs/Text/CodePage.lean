import Mathlib.Data.List.Nodup
import ThermalPrint.Text.CodePage

/-!
# Texts in code page 437

Each byte has a character of its own. A character that looks like one of the page is encoded by the
byte of that one, and this byte stands for the other character if it is read back. So an encoded
text reads as it was, but for its lookalikes.
-/

namespace ThermalPrint.CodePage

/-- A character of the page, which some byte stands for. -/
def Contains (sought : Char) : Prop :=
  ∃ byte, character byte = sought

/-- A character that is not one of the page, but shares the byte of one that it looks like. -/
def IsLookalike (sought : Char) : Prop :=
  ∃ byte, (sought, byte) ∈ lookalikes

/-- The character of the page as which a character is printed. -/
def printed (sought : Char) : Char :=
  match lookalikes.lookup sought with
  | some byte => character byte
  | none => sought

/-- The text that bytes stand for. -/
def decode (bytes : Bytes) : String :=
  .ofList (bytes.map character)

/-! ### The table -/

theorem nodup_upperHalf : upperHalf.Nodup := by
  apply List.Nodup.of_map Char.toNat
  decide +kernel

theorem isAscii_of_mem_upperHalf {sought : Char} (member : sought ∈ upperHalf) :
    isAscii sought = false := by
  have noneAscii : upperHalf.any isAscii = false := by decide +kernel
  exact Bool.eq_false_iff.mpr (List.any_eq_false.mp noneAscii sought member)

theorem byte?_ofNat : ∀ number < 0x80, byte? (.ofNat number) = some (.ofNat number) := by
  decide

theorem byte?_character (byte : UInt8) : byte? (character byte) = some byte := by
  by_cases lower : byte.toNat < 0x80
  · rw [character, if_pos lower, byte?_ofNat _ lower, UInt8.ofNat_toNat]
  · have bounded : byte.toNat - 0x80 < upperHalf.length := by
      have limit := byte.toNat_lt
      change byte.toNat - 0x80 < 128
      omega
    have place : upperHalf.idxOf? upperHalf[byte.toNat - 0x80] = some (byte.toNat - 0x80) := by
      refine List.idxOf?_eq_some_iff.mpr ⟨bounded, rfl, ?_⟩
      intro earlier before same
      have samePlace := nodup_upperHalf.getElem_inj_iff.mp same
      omega
    have number : 0x80 + (byte.toNat - 0x80) = byte.toNat := by omega
    rw [character, if_neg lower, List.getD_eq_getElem?_getD, List.getElem?_eq_getElem bounded,
      Option.getD_some, byte?, isAscii_of_mem_upperHalf (List.getElem_mem bounded), place]
    simp only [Bool.false_eq_true, if_false, number, UInt8.ofNat_toNat]

theorem character_injective : Function.Injective character := by
  intro byte other same
  apply Option.some.inj
  rw [← byte?_character, same, byte?_character]

theorem lookup_eq_byte? : ∀ entry ∈ lookalikes,
    lookalikes.lookup entry.1 = some entry.2 ∧ byte? entry.1 = some entry.2 := by
  decide

/-- A lookalike is not the character whose byte it shares. -/
theorem character_ne : ∀ entry ∈ lookalikes, character entry.2 ≠ entry.1 := by
  decide

theorem not_contains_of_mem_lookalikes {sought : Char} {byte : UInt8}
    (shares : (sought, byte) ∈ lookalikes) : ¬Contains sought := by
  rintro ⟨own, rfl⟩
  have sameByte : own = byte := by
    apply Option.some.inj
    rw [← byte?_character, (lookup_eq_byte? _ shares).2]
  exact character_ne _ shares (congrArg character sameByte.symm)

theorem mem_of_lookup_eq_some {sought : Char} {byte : UInt8}
    (found : lookalikes.lookup sought = some byte) : (sought, byte) ∈ lookalikes := by
  obtain ⟨front, rest, split, _⟩ := List.lookup_eq_some_iff.mp found
  rw [split]
  exact List.mem_append_right front List.mem_cons_self

theorem printed_of_mem_lookalikes {sought : Char} {byte : UInt8}
    (shares : (sought, byte) ∈ lookalikes) : printed sought = character byte := by
  rw [printed, (lookup_eq_byte? _ shares).1]

theorem printed_of_contains {sought : Char} (own : Contains sought) : printed sought = sought := by
  unfold printed
  split
  · rename_i byte found
    exact absurd own (not_contains_of_mem_lookalikes (mem_of_lookup_eq_some found))
  · rfl

/-- A character is encoded by its own byte, or else by the byte that it shares. -/
theorem byte?_eq_some_iff {sought : Char} {byte : UInt8} :
    byte? sought = some byte ↔ character byte = sought ∨ (sought, byte) ∈ lookalikes := by
  constructor
  · intro encoded
    unfold byte? at encoded
    split at encoded
    · rename_i ascii
      obtain rfl := Option.some.inj encoded
      have small : sought.toNat < 0x80 := of_decide_eq_true ascii
      have number : (UInt8.ofNat sought.toNat).toNat = sought.toNat := by
        rw [UInt8.toNat_ofNat', Nat.mod_eq_of_lt (by omega)]
      left
      rw [character, number, if_pos small, Char.ofNat_toNat]
    · split at encoded
      · rename_i place found
        obtain rfl := Option.some.inj encoded
        obtain ⟨inside, here, _⟩ := List.idxOf?_eq_some_iff.mp found
        have bound : place < 128 := inside
        have number : (UInt8.ofNat (0x80 + place)).toNat = 0x80 + place := by
          rw [UInt8.toNat_ofNat', Nat.mod_eq_of_lt (by omega)]
        left
        rw [character, number, if_neg (by omega), Nat.add_sub_cancel_left,
          List.getD_eq_getElem?_getD, List.getElem?_eq_getElem inside, here, Option.getD_some]
      · exact .inr (mem_of_lookup_eq_some encoded)
  · rintro (rfl | shares)
    · exact byte?_character byte
    · exact (lookup_eq_byte? _ shares).2

theorem character_eq_printed {sought : Char} {byte : UInt8} (encoded : byte? sought = some byte) :
    character byte = printed sought := by
  rcases byte?_eq_some_iff.mp encoded with own | shares
  · rw [printed_of_contains ⟨byte, own⟩, own]
  · rw [printed_of_mem_lookalikes shares]

theorem exists_byte?_eq_some_iff {sought : Char} :
    (∃ byte, byte? sought = some byte) ↔ Contains sought ∨ IsLookalike sought := by
  rw [Contains, IsLookalike, ← exists_or]
  exact exists_congr fun byte => byte?_eq_some_iff

/-! ### Texts -/

/-- A text is encoded by the bytes of its characters, one for each. -/
theorem bytesOf?_eq_some_iff {characters : List Char} {bytes : Bytes} :
    bytesOf? characters = some bytes ↔ characters.map byte? = bytes.map some := by
  induction characters generalizing bytes with
  | nil =>
    constructor
    · intro encoded
      obtain rfl := Option.some.inj encoded
      rfl
    · intro same
      rw [List.map_eq_nil_iff.mp same.symm, bytesOf?]
  | cons character characters inductionHypothesis =>
    rw [bytesOf?, List.map_cons]
    constructor
    · intro encoded
      split at encoded
      · rename_i byte others own rest
        obtain rfl := Option.some.inj encoded
        rw [own, inductionHypothesis.mp rest, List.map_cons]
      · cases encoded
    · intro same
      obtain ⟨byte, others, rfl, own, rest⟩ := List.map_eq_cons_iff.mp same.symm
      rw [← own, inductionHypothesis.mpr rest.symm]

theorem exists_bytesOf?_iff {characters : List Char} :
    (∃ bytes, bytesOf? characters = some bytes) ↔
      ∀ sought ∈ characters, Contains sought ∨ IsLookalike sought := by
  simp only [bytesOf?_eq_some_iff, ← exists_byte?_eq_some_iff]
  induction characters with
  | nil => simp
  | cons character characters inductionHypothesis =>
    rw [List.forall_mem_cons, ← inductionHypothesis, List.map_cons]
    constructor
    · rintro ⟨bytes, same⟩
      obtain ⟨byte, others, rfl, own, rest⟩ := List.map_eq_cons_iff.mp same.symm
      exact ⟨⟨byte, own.symm⟩, others, rest.symm⟩
    · rintro ⟨⟨byte, own⟩, others, rest⟩
      exact ⟨byte :: others, by rw [own, rest, List.map_cons]⟩

theorem exists_encode?_iff {text : String} : (∃ bytes, encode? text = some bytes) ↔
    ∀ sought ∈ text.toList, Contains sought ∨ IsLookalike sought :=
  exists_bytesOf?_iff

theorem length_of_encode? {text : String} {bytes : Bytes} (encoded : encode? text = some bytes) :
    bytes.length = text.length := by
  have lengths := congrArg List.length (bytesOf?_eq_some_iff.mp encoded)
  rwa [List.length_map, List.length_map, String.length_toList, eq_comm] at lengths

/-- An encoded text reads as it was, with the characters of the page in place of lookalikes. -/
theorem decode_of_encode? {text : String} {bytes : Bytes} (encoded : encode? text = some bytes) :
    decode bytes = text.map printed := by
  have readBack {characters : List Char} {bytes : Bytes}
      (same : characters.map byte? = bytes.map some) :
      bytes.map character = characters.map printed := by
    induction characters generalizing bytes with
    | nil => rw [List.map_eq_nil_iff.mp same.symm, List.map_nil, List.map_nil]
    | cons sought characters inductionHypothesis =>
      obtain ⟨byte, others, rfl, own, rest⟩ := List.map_eq_cons_iff.mp same.symm
      rw [List.map_cons, List.map_cons, character_eq_printed own.symm,
        inductionHypothesis rest.symm]
  apply String.toList_injective
  rw [decode, String.toList_ofList, String.toList_map, readBack (bytesOf?_eq_some_iff.mp encoded)]

theorem map_printed_of_contains {text : String}
    (own : ∀ sought ∈ text.toList, Contains sought) : text.map printed = text := by
  apply String.toList_injective
  rw [String.toList_map]
  calc text.toList.map printed
      = text.toList.map id :=
        List.map_congr_left fun sought member => printed_of_contains (own sought member)
    _ = text.toList := List.map_id _

end ThermalPrint.CodePage
