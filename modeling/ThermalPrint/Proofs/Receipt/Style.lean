import ThermalPrint.Printer.Format
import ThermalPrint.Proofs.Receipt.Stream

/-!
# Texts keep their styles

A text chooses all of its style before its first character, so the characters of its content are
printed in that style, whatever the printer was told before. This ends at the first byte of a
content that starts a command: what follows may choose another style, or may take bytes of the next
item.
-/

namespace ThermalPrint

namespace Token

theorem leading_of_next? {stream rest : Bytes} {token : Token}
    (success : next? stream = some (token, rest)) : leading stream = token :: leading rest := by
  rw [leading]
  split
  · rename_i failure
    rw [success] at failure
    contradiction
  · rename_i taken
    rw [success] at taken
    cases taken
    rfl

theorem leading_flatMap_append {tokens : List Token} (whole : ∀ token ∈ tokens, token.IsWhole)
    (rest : Bytes) : leading (tokens.flatMap bytes ++ rest) = tokens ++ leading rest := by
  induction tokens with
  | nil => rfl
  | cons token tokens inductionHypothesis =>
    rw [List.forall_mem_cons] at whole
    rw [List.flatMap_cons, List.append_assoc, leading_of_next? (next?_append whole.1 _),
      inductionHypothesis whole.2]
    rfl

end Token

namespace Format

variable {format : Format}

theorem glyphs_append (format : Format) (first second : List Token) :
    format.glyphs (first ++ second) =
      format.glyphs first ++ (format.afterAll first).glyphs second := by
  induction first generalizing format with
  | nil => rfl
  | cons token first inductionHypothesis =>
    cases token with
    | character byte =>
      simp only [List.cons_append, glyphs, inductionHypothesis]
      rfl
    | command introducer function parameters data =>
      simp only [List.cons_append, glyphs, inductionHypothesis]
      rfl

theorem glyphs_characters (format : Format) (content : Bytes) :
    format.glyphs (content.map .character) = content.map fun byte => ⟨byte, format⟩ := by
  induction content with
  | nil => rfl
  | cons byte rest inductionHypothesis => simp [glyphs, inductionHypothesis]

/-- Whole tokens at the start of a stream are printed first, and the rest of the stream is printed
in the format that they leave. -/
theorem print_flatMap_append {tokens : List Token} (whole : ∀ token ∈ tokens, token.IsWhole)
    (format : Format) (rest : Bytes) :
    format.print (tokens.flatMap Token.bytes ++ rest) =
      format.glyphs tokens ++ (format.afterAll tokens).print rest := by
  rw [print, Token.leading_flatMap_append whole, glyphs_append]
  rfl

end Format

/-- The format that a style asks for. Sizes are between one and eight. -/
def Style.format (style : Style) : Format where
  font := match style.font with
    | .a => 0
    | .b => 1
    | .c => 2
  alignment := match style.alignment with
    | .left => 0
    | .center => 1
    | .right => 2
  width := (max 1 (min 8 style.size.toInt)).toNat
  height := (max 1 (min 8 style.size.toInt)).toNat
  underline := if style.underline then 1 else 0

/-- Both halves of the byte of a character size are the size less one. -/
theorem toNat_characterSize : ∀ size ≤ 8,
    ((Command.clampByte 1 8 (.ofNat size) - 1) <<< 4 |||
      (Command.clampByte 1 8 (.ofNat size) - 1)).toNat = 17 * (size - 1) := by
  decide

theorem Format.after_characterSize {size : Nat} (positive : 1 ≤ size) (bounded : size ≤ 8)
    (format : Format) :
    format.after (Command.characterSize (.ofNat size) (.ofNat size)).token =
      { format with width := size, height := size } := by
  have byte := toNat_characterSize size bounded
  have high : 17 * (size - 1) / 16 + 1 = size := by omega
  have low : 17 * (size - 1) % 16 + 1 = size := by omega
  have notEscape : (0x1D : UInt8) ≠ 0x1B := by decide
  simp only [Command.token, after, notEscape, if_false, and_self, if_true, List.getD_cons_zero,
    byte, high, low]

namespace Style

theorem clampToByte_size (style : Style) :
    clampToByte style.size 8 = .ofNat style.format.width := by
  have same : min (max style.size.toInt 1).toNat 8 = style.format.width := by
    simp only [format]
    omega
  rw [clampToByte, same]

theorem width_format_bounds (style : Style) : 1 ≤ style.format.width ∧ style.format.width ≤ 8 := by
  simp only [format]
  omega

/-- The commands of a style choose all of the format, whatever has been chosen before. -/
theorem afterAll_tokens (style : Style) (format : Format) :
    format.afterAll style.tokens = style.format := by
  obtain ⟨positive, bounded⟩ := style.width_format_bounds
  have sized (earlier : Format) := Format.after_characterSize positive bounded earlier
  simp only [tokens, commands, Format.afterAll, List.map_cons, List.map_nil, List.foldl_cons,
    List.foldl_nil, clampToByte_size, sized]
  cases underlined : style.underline <;> simp [underlined, Style.format] <;> rfl

theorem glyphs_tokens (style : Style) (format : Format) : format.glyphs style.tokens = [] := by
  cases underlined : style.underline <;> simp [tokens, commands, underlined] <;> rfl

end Style

/-- The text of an item, with its style. -/
def Item.text? : Item → Option (String × Style)
  | .line content style | .text content style => some (content, style)
  | _ => none

/-- The block of a text starts with the commands of its style and goes on with its content. -/
theorem Item.exists_of_render_text {profile : Profile} {item : Item} {content : String}
    {style : Style} {block : Bytes} (isText : item.text? = some (content, style))
    (rendered : item.render profile = .ok block) :
    ∃ bytes rest, CodePage.encode? content = some bytes ∧
      block = style.tokens.flatMap Token.bytes ++ (bytes ++ rest) := by
  obtain ⟨tokens, prints, rfl⟩ := exists_prints_of_render rendered
  cases prints with
  | @line content style bytes encoded =>
    cases isText
    refine ⟨bytes, [lineFeed], encoded, ?_⟩
    rw [List.flatMap_append, List.flatMap_append, Token.flatMap_bytes_characters, List.append_assoc]
    rfl
  | @text content style bytes encoded =>
    cases isText
    refine ⟨bytes, [], encoded, ?_⟩
    rw [List.flatMap_append, Token.flatMap_bytes_characters, List.append_nil]
  | _ => cases isText

/-- The characters of a text, up to the first one that starts a command, are printed in the style of
the text and behind what the items before it print, if no text before it holds escape or group
separator. Neither the format of the printer nor any other item matters. -/
theorem print_text_in_style (profile : Profile) (front rest : List Item) (item : Item)
    (content : String) (style : Style) (blocks : List Bytes) (format : Format)
    (isText : item.text? = some (content, style))
    (rendered : (front ++ item :: rest).map (Item.render profile) = blocks.map .ok)
    (plain : ∀ earlier ∈ front, earlier.IsPlain) :
    ∃ bytes later, CodePage.encode? content = some bytes ∧
      format.print (blocks.flatten ++ Command.cut.bytes) =
        format.print (blocks.take front.length).flatten ++
          (bytes.takeWhile fun byte => !Token.introduces byte).map (⟨·, style.format⟩) ++
          later := by
  obtain ⟨frontBlocks, ownBlocks, rfl, renderedFront, renderedOwn⟩ :=
    List.map_eq_append_iff.mp (rendered.symm.trans List.map_append)
  obtain ⟨block, restBlocks, rfl, renderedItem, _⟩ := List.map_eq_cons_iff.mp renderedOwn
  obtain ⟨frontTokens, prints, frontBytes⟩ := Item.exists_prints_of_renders renderedFront.symm
  obtain ⟨bytes, after, encoded, rfl⟩ := Item.exists_of_render_text isText renderedItem.symm
  have sameLength : front.length = frontBlocks.length := by
    simpa using (congrArg List.length renderedFront).symm
  have frontStream : frontTokens.flatten.flatMap Token.bytes = frontBlocks.flatten := by
    rw [Token.flatMap_bytes_flatten, frontBytes]
  -- What is sure to be read as it is meant: the items before, the style, and the content as far as
  -- no byte starts a command.
  let harmless := bytes.takeWhile fun byte => !Token.introduces byte
  let tokens := frontTokens.flatten ++ style.tokens ++ harmless.map .character
  let remaining := (bytes.dropWhile fun byte => !Token.introduces byte) ++ after ++
    restBlocks.flatten ++ Command.cut.bytes
  have wholeFront := Item.isWhole_of_mem_flatten prints plain
  have whole : ∀ token ∈ tokens, token.IsWhole := by
    simp only [tokens, List.forall_mem_append]
    refine ⟨⟨wholeFront, style.isWhole_of_mem_tokens⟩, Token.isWhole_characters ?_⟩
    intro byte taken
    simpa using List.all_eq_true.mp List.all_takeWhile byte taken
  have content : bytes = harmless ++ bytes.dropWhile fun byte => !Token.introduces byte :=
    List.takeWhile_append_dropWhile.symm
  refine ⟨bytes, (format.afterAll tokens).print remaining, encoded, ?_⟩
  have stream : (frontBlocks ++ (style.tokens.flatMap Token.bytes ++ (bytes ++ after)) ::
      restBlocks).flatten ++ Command.cut.bytes = tokens.flatMap Token.bytes ++ remaining := by
    conv_lhs => rw [content]
    simp [tokens, remaining, frontStream, Token.flatMap_bytes_characters]
  have front : format.print frontBlocks.flatten = format.glyphs frontTokens.flatten := by
    have alone := Format.print_flatMap_append wholeFront format []
    rw [frontStream, List.append_nil] at alone
    rw [alone]
    simp [Format.print, Token.leading, Token.next?, Format.glyphs]
  have chosen : format.afterAll (frontTokens.flatten ++ style.tokens) = style.format := by
    rw [Format.afterAll, List.foldl_append]
    exact style.afterAll_tokens _
  rw [sameLength, List.take_left, stream, Format.print_flatMap_append whole, front,
    Format.glyphs_append, Format.glyphs_append, Style.glyphs_tokens, chosen,
    Format.glyphs_characters, List.append_nil]

/-- A text that ends inside a command, and one that asks for another font. -/
def openText : Item :=
  .text "b\x1b3" (.plain .b .left)

def nextText : Item :=
  .text "a" (.plain .a .left)

def openBlocks : List Bytes := [
  [0x1B, 0x4D, 1, 0x1B, 0x61, 0, 0x1D, 0x21, 0, 0x1B, 0x2D, 0, 0x62, 0x1B, 0x33],
  [0x1B, 0x4D, 0, 0x1B, 0x61, 0, 0x1D, 0x21, 0, 0x1B, 0x2D, 0, 0x61]]

/-- The open text in its style, behind a line in another one. -/
theorem openText_in_style :
    let total : Item := .line "42" ⟨2, .c, .right, true⟩
    let totalBlock : Bytes :=
      [0x1B, 0x4D, 2, 0x1B, 0x61, 2, 0x1D, 0x21, 0x11, 0x1B, 0x2D, 1, 0x34, 0x32, 0x0A]
    let blocks : List Bytes := totalBlock :: openBlocks
    let format : Format := (Style.plain .a .center).format
    openText.text? = some ("b\x1b3", .plain .b .left) ∧
    ([total] ++ openText :: [nextText]).map (Item.render (.ofFile "unused")) = blocks.map .ok ∧
    (∀ earlier ∈ [total], earlier.IsPlain) ∧
    ∃ later, format.print (blocks.flatten ++ Command.cut.bytes) =
      [⟨0x34, ⟨2, 2, 2, 2, 1⟩⟩, ⟨0x32, ⟨2, 2, 2, 2, 1⟩⟩, ⟨0x0A, ⟨2, 2, 2, 2, 1⟩⟩] ++
        [⟨0x62, ⟨1, 0, 1, 1, 0⟩⟩] ++ later := by
  intro total totalBlock blocks format
  have rendered : ([total] ++ openText :: [nextText]).map (Item.render (.ofFile "unused")) =
      blocks.map .ok := by
    rfl
  have plain : ∀ earlier ∈ [total], earlier.IsPlain := by decide
  obtain ⟨bytes, later, encoded, printed⟩ :=
    print_text_in_style (.ofFile "unused") [total] [nextText] openText "b\x1b3" (.plain .b .left)
      blocks format rfl rendered plain
  have content : bytes = [0x62, 0x1B, 0x33] := by
    have found : CodePage.encode? "b\x1b3" = some [0x62, 0x1B, 0x33] := rfl
    exact Option.some.inj (encoded.symm.trans found)
  have before : format.print (blocks.take 1).flatten =
      [⟨0x34, ⟨2, 2, 2, 2, 1⟩⟩, ⟨0x32, ⟨2, 2, 2, 2, 1⟩⟩, ⟨0x0A, ⟨2, 2, 2, 2, 1⟩⟩] := by
    decide +kernel
  refine ⟨rfl, rendered, plain, later, ?_⟩
  rw [printed, content]
  exact congrArg (· ++ [⟨0x62, ⟨1, 0, 1, 1, 0⟩⟩] ++ later) before

/-- Without the condition on earlier texts this fails: the open command takes a byte of the command
by which the next text chooses its font, and so the next text is printed in the font before. -/
theorem font_carries_over :
    ¬∀ (profile : Profile) (front rest : List Item) (item : Item) (content : String)
      (style : Style) (blocks : List Bytes) (format : Format),
      item.text? = some (content, style) →
      (front ++ item :: rest).map (Item.render profile) = blocks.map .ok →
        ∃ bytes earlier later, CodePage.encode? content = some bytes ∧
          format.print (blocks.flatten ++ Command.cut.bytes) =
            earlier ++ bytes.map (⟨·, style.format⟩) ++ later := by
  intro isolated
  have rendered : ([openText] ++ nextText :: []).map (Item.render (.ofFile "unused")) =
      openBlocks.map .ok := by
    rfl
  obtain ⟨bytes, earlier, later, encoded, printed⟩ :=
    isolated (.ofFile "unused") [openText] [] nextText "a" (.plain .a .left) openBlocks
      (Style.plain .a .left).format rfl rendered
  have own : bytes = [0x61] := by
    have found : CodePage.encode? "a" = some [0x61] := rfl
    exact Option.some.inj (encoded.symm.trans found)
  have onPaper : (Style.plain .a .left).format.print (openBlocks.flatten ++ Command.cut.bytes) =
      [⟨0x62, (Style.plain .b .left).format⟩, ⟨0x4D, (Style.plain .b .left).format⟩,
        ⟨0x00, (Style.plain .b .left).format⟩, ⟨0x61, (Style.plain .b .left).format⟩] := by
    decide +kernel
  have claimed : (⟨0x61, (Style.plain .a .left).format⟩ : Glyph) ∈
      (Style.plain .a .left).format.print (openBlocks.flatten ++ Command.cut.bytes) := by
    simp [printed, own]
  rw [onPaper] at claimed
  revert claimed
  decide

end ThermalPrint
