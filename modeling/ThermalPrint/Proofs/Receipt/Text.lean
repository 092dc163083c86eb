import ThermalPrint.Proofs.Receipt.Style
import ThermalPrint.Proofs.Text.CodePage

/-!
# Texts can be read back

The block of a text chooses the style of the text and then holds one byte for each character. What
follows the style reads as the text in the code page, but for the characters that only look like one
of the page. A text with any other character is turned down as it is.
-/

namespace ThermalPrint

/-- The bytes that choose a style: font, alignment, size and underline. The size is moved between
one and eight; less one, it stands in both halves of its byte. -/
def Style.opening (style : Style) : Bytes :=
  [0x1B, 0x4D, style.font.code, 0x1B, 0x61, style.alignment.code,
    0x1D, 0x21, .ofNat (17 * ((max 1 (min 8 style.size.toInt)).toNat - 1)),
    0x1B, 0x2D, if style.underline then 1 else 0]

/-- What follows the characters of a text. -/
def Item.textEnding : Item → Bytes
  | .line .. => [lineFeed]
  | _ => []

theorem Style.bytes_characterSize (style : Style) :
    (Command.characterSize (clampToByte style.size 8) (clampToByte style.size 8)).bytes =
      [0x1D, 0x21, .ofNat (17 * (style.format.width - 1))] := by
  obtain ⟨_, bounded⟩ := style.width_format_bounds
  have sizes := toNat_characterSize style.format.width bounded
  have sameByte : (Command.clampByte 1 8 (.ofNat style.format.width) - 1) <<< 4 |||
      (Command.clampByte 1 8 (.ofNat style.format.width) - 1) =
        .ofNat (17 * (style.format.width - 1)) := by
    rw [← UInt8.toNat_inj, sizes, UInt8.toNat_ofNat', Nat.mod_eq_of_lt (by omega)]
  rw [style.clampToByte_size, Command.bytes, sameByte]
  rfl

theorem Style.bytesOfAll_commands (style : Style) :
    Command.bytesOfAll style.commands = style.opening := by
  have size := style.bytes_characterSize
  simp only [commands, Command.bytesOfAll, List.flatMap_cons, List.flatMap_nil, size]
  unfold opening
  cases style.underline <;> rfl

theorem Item.render_of_text? {item : Item} {content : String} {style : Style}
    (isText : item.text? = some (content, style)) (profile : Profile) :
    item.render profile = match CodePage.encode? content with
      | some bytes => .ok (style.opening ++ bytes ++ item.textEnding)
      | none => .error (.error (.encoding content)) := by
  rw [← style.bytesOfAll_commands]
  cases item with
  | line own ownStyle =>
    cases isText
    rw [render, renderText]
    cases CodePage.encode? content <;> rfl
  | text own ownStyle =>
    cases isText
    have noEnding : (Item.text content style).textEnding = [] := rfl
    rw [render, renderText, noEnding]
    simp only [List.append_nil]
    cases CodePage.encode? content <;> rfl
  | feed lines => cases isText
  | barcode code symbology => cases isText
  | qr code size => cases isText
  | picture data alignment dithering => cases isText

/-- Each byte has a character of its own. A text renders exactly if each of its characters is one
of the page or a lookalike. Its block is then the style, one byte for each character and the ending,
and these bytes read as the text with the characters of the page in place of lookalikes; a text of
the page only reads as it is. Any other text is turned down as a whole. -/
theorem text_reads_back (profile : Profile) {item : Item} {content : String} {style : Style}
    (isText : item.text? = some (content, style)) :
    Function.Injective CodePage.character ∧
    ((∃ block, item.render profile = .ok block) ↔
      ∀ sought ∈ content.toList, CodePage.Contains sought ∨ CodePage.IsLookalike sought) ∧
    (∀ block, item.render profile = .ok block → ∃ bytes : Bytes,
      block = style.opening ++ bytes ++ item.textEnding ∧ bytes.length = content.length ∧
      CodePage.decode bytes = content.map CodePage.printed ∧
      ((∀ sought ∈ content.toList, CodePage.Contains sought) → CodePage.decode bytes = content)) ∧
    ((∃ sought ∈ content.toList, ¬CodePage.Contains sought ∧ ¬CodePage.IsLookalike sought) →
      item.render profile = .error (.error (.encoding content))) := by
  rw [item.render_of_text? isText, ← CodePage.exists_encode?_iff]
  refine ⟨CodePage.character_injective, ?_, ?_, ?_⟩
  · cases encoded : CodePage.encode? content <;> simp
  · intro block rendered
    split at rendered
    · rename_i bytes encoded
      cases rendered
      have readBack := CodePage.decode_of_encode? encoded
      refine ⟨bytes, rfl, CodePage.length_of_encode? encoded, readBack, ?_⟩
      intro own
      rw [readBack, CodePage.map_printed_of_contains own]
    · cases rendered
  · rintro ⟨sought, member, notOwn, noLookalike⟩
    split
    · rename_i bytes encoded
      rcases CodePage.exists_encode?_iff.mp ⟨bytes, encoded⟩ sought member with own | lookalike
      · exact absurd own notOwn
      · exact absurd lookalike noLookalike
    · rfl

/-- A line with a lookalike, and a text with a character that nothing is printed for. -/
theorem lines_read_back :
    let style : Style := ⟨9, .b, .center, true⟩
    let item : Item := .line "10 µm β" style
    let block : Bytes := [0x1B, 0x4D, 1, 0x1B, 0x61, 1, 0x1D, 0x21, 0x77, 0x1B, 0x2D, 1,
      0x31, 0x30, 0x20, 0xE6, 0x6D, 0x20, 0xE1, lineFeed]
    item.text? = some ("10 µm β", style) ∧
      item.render (.ofFile "unused") = .ok block ∧
      (∃ bytes, block = style.opening ++ bytes ++ [lineFeed] ∧ bytes.length = 7 ∧
        CodePage.decode bytes = "10 µm ß") ∧
      (Item.text "±∀" style).render (.ofFile "unused") = .error (.error (.encoding "±∀")) := by
  intro style item block
  have isText : item.text? = some ("10 µm β", style) := rfl
  have encoded : CodePage.encode? "10 µm β" = some [0x31, 0x30, 0x20, 0xE6, 0x6D, 0x20, 0xE1] := by
    decide +kernel
  have rendered : item.render (.ofFile "unused") = .ok block := by
    rw [item.render_of_text? isText, encoded]
    rfl
  have unprintable : ¬CodePage.Contains '∀' ∧ ¬CodePage.IsLookalike '∀' := by
    have noByte : CodePage.byte? '∀' = none := by decide +kernel
    rw [← not_or, ← CodePage.exists_byte?_eq_some_iff, noByte]
    simp
  have otherIsText : (Item.text "±∀" style).text? = some ("±∀", style) := rfl
  obtain ⟨_, _, readsBack, _⟩ := text_reads_back (.ofFile "unused") isText
  obtain ⟨_, _, _, turnedDown⟩ := text_reads_back (.ofFile "unused") otherIsText
  obtain ⟨bytes, split, count, reads, _⟩ := readsBack block rendered
  refine ⟨isText, rendered, ⟨bytes, split, count, ?_⟩, turnedDown ⟨'∀', ?_, unprintable⟩⟩
  · rw [reads]
    decide +kernel
  · decide +kernel

/-- Lookalikes are printed too, and then the bytes do not read as the text. -/
theorem beta_reads_back_as_sharp_s :
    (¬∀ (profile : Profile) (content : String) (style : Style),
      (∃ block, (Item.text content style).render profile = .ok block) →
        ∀ sought ∈ content.toList, CodePage.Contains sought) ∧
    ¬∀ (profile : Profile) (content : String) (style : Style) (bytes : Bytes),
      (Item.text content style).render profile = .ok (style.opening ++ bytes) →
        CodePage.decode bytes = content := by
  have rendered : (Item.text "β" (.plain .a .left)).render (.ofFile "unused") =
      .ok ((Style.plain .a .left).opening ++ [0xE1]) := by
    have encoded : CodePage.encode? "β" = some [0xE1] := by decide +kernel
    rw [Item.render_of_text? rfl, encoded]
    rfl
  constructor
  · intro onlyOwn
    have shares : ('β', 0xE1) ∈ CodePage.lookalikes := by decide
    have own := onlyOwn _ _ _ ⟨_, rendered⟩ 'β' (by decide +kernel)
    exact CodePage.not_contains_of_mem_lookalikes shares own
  · intro readsBack
    have reads := readsBack _ _ _ _ rendered
    have other : CodePage.decode [0xE1] ≠ "β" := by decide +kernel
    exact other reads

end ThermalPrint
