import Mathlib.Data.List.Basic
import ThermalPrint.Bytes

/-!
# Bytes of ASCII texts

The UTF-8 form of a text says which text it is. An ASCII character is a byte that has its number,
and the form of any other character starts with a greater byte. So a test that only ASCII passes is
passed by all bytes of a text exactly if its characters pass it.
-/

namespace ThermalPrint.Bytes

theorem ofText_eq_flatMap (text : String) :
    ofText text = text.toList.flatMap String.utf8EncodeChar := by
  conv_lhs => rw [← String.ofList_toList (s := text)]
  rw [ofText, String.toUTF8_eq_toByteArray, String.toByteArray_ofList, List.utf8Encode,
    List.data_toByteArray]

theorem ofText_injective {text other : String} (same : ofText text = ofText other) :
    text = other := by
  rw [ofText, ofText, String.toUTF8_eq_toByteArray, String.toUTF8_eq_toByteArray] at same
  exact String.toByteArray_inj.mp (ByteArray.ext (Array.toList_inj.mp same))

theorem utf8EncodeChar_of_ascii {character : Char} (ascii : character.toNat < 128) :
    String.utf8EncodeChar character = [.ofNat character.toNat] := by
  have small : character.val.toNat ≤ 127 := Nat.le_of_lt_succ ascii
  simp only [String.utf8EncodeChar, if_pos small]
  rfl

theorem utf8EncodeChar_of_not_ascii {character : Char} (notAscii : ¬character.toNat < 128) :
    ∃ byte ∈ String.utf8EncodeChar character, ¬byte.toNat < 128 := by
  have great : ¬character.val.toNat ≤ 127 := fun small => notAscii (Nat.lt_succ_of_le small)
  simp only [String.utf8EncodeChar, if_neg great]
  split
  · exact ⟨_, List.mem_cons_self, by simp only [UInt8.toNat_ofNat']; omega⟩
  · split
    · exact ⟨_, List.mem_cons_self, by simp only [UInt8.toNat_ofNat']; omega⟩
    · exact ⟨_, List.mem_cons_self, by simp only [UInt8.toNat_ofNat']; omega⟩

theorem ofText_of_ascii {text : String} (ascii : ∀ character ∈ text.toList, character.toNat < 128) :
    ofText text = text.toList.map fun character => .ofNat character.toNat := by
  rw [ofText_eq_flatMap, List.map_eq_flatMap]
  exact List.flatMap_congr fun character member => utf8EncodeChar_of_ascii (ascii character member)

/-- What holds of the bytes by their numbers holds of all of them. -/
theorem forall_byte {property : UInt8 → Prop} (byNumber : ∀ number < 256, property (.ofNat number))
    (byte : UInt8) : property byte := by
  rw [← UInt8.ofNat_toNat (x := byte)]
  exact byNumber _ byte.toNat_lt

/-- What holds of the ASCII characters by their numbers holds of all of them. -/
theorem forall_ascii {property : Char → Prop} (byNumber : ∀ number < 128, property (.ofNat number))
    (character : Char) (ascii : character.toNat < 128) : property character := by
  rw [← Char.ofNat_toNat character]
  exact byNumber _ ascii

/-- A test of bytes and a test of characters pass the same ASCII characters, and nothing else. -/
structure IsSameTest (isByte : UInt8 → Bool) (isCharacter : Char → Bool) : Prop where
  byteIsAscii : ∀ byte, isByte byte = true → byte.toNat < 128
  characterIsAscii : ∀ character, isCharacter character = true → character.toNat < 128
  same : ∀ character : Char, character.toNat < 128 →
    isByte (.ofNat character.toNat) = isCharacter character

namespace IsSameTest

variable {isByte : UInt8 → Bool} {isCharacter : Char → Bool}

theorem all_utf8EncodeChar (test : IsSameTest isByte isCharacter) (character : Char) :
    (String.utf8EncodeChar character).all isByte = isCharacter character := by
  by_cases ascii : character.toNat < 128
  · rw [utf8EncodeChar_of_ascii ascii, List.all_cons, List.all_nil, Bool.and_true,
      test.same character ascii]
  · obtain ⟨byte, member, great⟩ := utf8EncodeChar_of_not_ascii ascii
    have byteFails : (String.utf8EncodeChar character).all isByte = false :=
      List.all_eq_false.mpr ⟨byte, member, fun passes => great (test.byteIsAscii byte passes)⟩
    have characterFails : isCharacter character = false :=
      Bool.eq_false_iff.mpr fun passes => ascii (test.characterIsAscii character passes)
    rw [byteFails, characterFails]

theorem all_ofText_iff (test : IsSameTest isByte isCharacter) (text : String) :
    (ofText text).all isByte = true ↔
      ∀ character ∈ text.toList, isCharacter character = true := by
  rw [ofText_eq_flatMap, List.all_flatMap, List.all_eq_true]
  simp only [test.all_utf8EncodeChar]

theorem ofText_eq_map (test : IsSameTest isByte isCharacter) {text : String}
    (passes : ∀ character ∈ text.toList, isCharacter character = true) :
    ofText text = text.toList.map fun character => .ofNat character.toNat :=
  ofText_of_ascii fun character member => test.characterIsAscii character (passes character member)

theorem length_ofText (test : IsSameTest isByte isCharacter) {text : String}
    (passes : ∀ character ∈ text.toList, isCharacter character = true) :
    (ofText text).length = text.length := by
  rw [test.ofText_eq_map passes, List.length_map, String.length_toList]

/-- As many bytes as characters are equal to an ASCII character. -/
theorem count_ofText (test : IsSameTest isByte isCharacter) {text : String}
    (passes : ∀ character ∈ text.toList, isCharacter character = true) (sought : Char)
    (ascii : sought.toNat < 128) :
    (ofText text).count (.ofNat sought.toNat) = text.toList.count sought := by
  rw [test.ofText_eq_map passes, List.count, List.count, List.countP_map]
  apply List.countP_congr
  intro character member
  have otherAscii := test.characterIsAscii character (passes character member)
  simp only [Function.comp_apply, beq_iff_eq, ← Char.toNat_inj, ← UInt8.toNat_inj,
    UInt8.toNat_ofNat']
  omega

end IsSameTest

end ThermalPrint.Bytes
