import Mathlib.Data.List.Forall2
import ThermalPrint.Proofs.Picture.Width
import ThermalPrint.Proofs.Printer.Bands
import ThermalPrint.Proofs.Printer.Barcode
import ThermalPrint.Receipt.Render

/-!
# Receipts stay in frame

`Item.Prints` says which tokens an item is printed by. The block of an item is made of these tokens,
and they are whole unless the text of the item itself has a byte that starts a command. So the
blocks of a receipt and the cut are read as the tokens of the items, one after the other.
-/

namespace ThermalPrint

/-! ### Texts without commands -/

/-- Escape and group separator, by which commands start. -/
def startsCommand (character : Char) : Bool :=
  character = '\x1b' || character = '\x1d'

def Item.IsPlain : Item → Prop
  | .line content _ | .text content _ => ∀ character ∈ content.toList, ¬startsCommand character
  | _ => True

instance (item : Item) : Decidable item.IsPlain :=
  match item with
  | .line content _ | .text content _ => List.decidableBAll _ content.toList
  | .feed _ | .barcode .. | .qr .. | .picture .. => isTrue trivial

namespace Token

/-- Whether a byte starts commands. -/
def introduces (byte : UInt8) : Bool :=
  byte == 0x1B || byte == 0x1D

theorem introduces_eq_false {byte : UInt8} (notEscape : byte.toNat ≠ 0x1B)
    (notGroup : byte.toNat ≠ 0x1D) : introduces byte = false := by
  have escape : byte ≠ 0x1B := fun same => notEscape (congrArg UInt8.toNat same)
  have group : byte ≠ 0x1D := fun same => notGroup (congrArg UInt8.toNat same)
  simp [introduces, escape, group]

theorem isWhole_character {byte : UInt8} (harmless : introduces byte = false) :
    (character byte).IsWhole := by
  simpa [introduces, IsWhole] using harmless

theorem isWhole_characters {content : Bytes}
    (harmless : ∀ byte ∈ content, introduces byte = false) :
    ∀ token ∈ content.map character, token.IsWhole := by
  intro token member
  obtain ⟨byte, inContent, rfl⟩ := List.mem_map.mp member
  exact isWhole_character (harmless byte inContent)

end Token

namespace CodePage

theorem introduces_lookalikes :
    ∀ entry ∈ lookalikes, Token.introduces entry.2 = false := by
  decide

/-- No character but escape and group separator is written as one of their bytes. -/
theorem introduces_of_byte? {character : Char} {byte : UInt8}
    (encoded : byte? character = some byte) (harmless : ¬startsCommand character) :
    Token.introduces byte = false := by
  unfold byte? at encoded
  split at encoded
  · rename_i ascii
    cases encoded
    have small : character.toNat < 128 := by simpa [isAscii] using ascii
    have magnitude : (UInt8.ofNat character.toNat).toNat = character.toNat := by
      simp only [UInt8.toNat_ofNat']
      omega
    simp only [startsCommand, ← Char.toNat_inj, Bool.or_eq_true, decide_eq_true_eq, not_or]
      at harmless
    rw [← magnitude] at harmless
    exact Token.introduces_eq_false harmless.1 harmless.2
  · split at encoded
    · rename_i place found
      cases encoded
      obtain ⟨inPage, _⟩ := List.idxOf?_eq_some_iff.mp found
      have short : place < 128 := inPage
      have magnitude : (UInt8.ofNat (0x80 + place)).toNat = 0x80 + place := by
        simp only [UInt8.toNat_ofNat']
        omega
      apply Token.introduces_eq_false <;> omega
    · obtain ⟨before, after, split, _⟩ := List.lookup_eq_some_iff.mp encoded
      exact introduces_lookalikes (character, byte) (by simp [split])

theorem introduces_of_bytesOf? {characters : List Char} {bytes : Bytes}
    (encoded : bytesOf? characters = some bytes)
    (harmless : ∀ character ∈ characters, ¬startsCommand character) :
    ∀ byte ∈ bytes, Token.introduces byte = false := by
  induction characters generalizing bytes with
  | nil =>
    cases encoded
    simp
  | cons character characters inductionHypothesis =>
    rw [List.forall_mem_cons] at harmless
    unfold bytesOf? at encoded
    split at encoded
    · rename_i first rest encodedFirst encodedRest
      cases encoded
      rw [List.forall_mem_cons]
      exact ⟨introduces_of_byte? encodedFirst harmless.1,
        inductionHypothesis encodedRest harmless.2⟩
    · contradiction

end CodePage

/-! ### Tokens of items -/

def Style.tokens (style : Style) : List Token :=
  style.commands.map Command.token

/-- The tokens by which an item is printed. -/
inductive Item.Prints (profile : Profile) : Item → List Token → Prop where
  | line {content style bytes} : CodePage.encode? content = some bytes →
      Prints profile (.line content style)
        (style.tokens ++ bytes.map .character ++ [.character lineFeed])
  | text {content style bytes} : CodePage.encode? content = some bytes →
      Prints profile (.text content style) (style.tokens ++ bytes.map .character)
  | feed {lines} :
      Prints profile (.feed lines) ((feedCommands lines.toNat).map Command.token)
  | barcode {code symbology payload} : Symbology.payload symbology code = .ok payload →
      Prints profile (.barcode code symbology)
        ([.selectAlignment .center, .barcodeTextBelow, .barcode symbology payload].map
          Command.token)
  | ownQr {code size} : profile.nativeQr = true → (Bytes.ofText code).length ≤ greatestQrLength →
      Prints profile (.qr code size)
        ((.selectAlignment .center :: qrCommands (Bytes.ofText code) (clampToByte size 16)).map
          Command.token)
  | drawnQr {code size bitmap} : profile.nativeQr = false →
      Qr.bitmap? code (clampToByte size 16).toNat profile.width.toNat = some bitmap →
      Prints profile (.qr code size)
        ((Command.selectAlignment .center).token :: bitmap.tokens profile.imageMode)
  | picture {data alignment dithering artwork} :
      Artwork.ofText data dithering profile.width = .ok artwork →
      Prints profile (.picture data alignment dithering)
        ((Command.selectAlignment alignment).token :: artwork.bitmap.tokens profile.imageMode)

theorem Symbology.length_payload_lt {symbology : Symbology} {code : String} {payload : Bytes}
    (accepted : symbology.payload code = .ok payload) : payload.length < 256 := by
  obtain ⟨accepts, rfl⟩ := Symbology.payload_eq_ok_iff.mp accepted
  exact Nat.lt_succ_of_le (Symbology.length_form accepts).2

theorem Qr.fits_of_bitmap? {content : String} {size : Nat} {paperWidth : UInt16} {bitmap : Bitmap}
    (drawn : bitmap? content size paperWidth.toNat = some bitmap) (mode : ImageMode) :
    bitmap.Fits mode :=
  Bitmap.fits_of_narrow (Nat.lt_of_le_of_lt (width_le_of_bitmap? drawn) paperWidth.toNat_lt) mode

theorem Artwork.fits_bitmap {data : String} {dithering : Dithering} {paperWidth : UInt16}
    {artwork : Artwork} (found : ofText data dithering paperWidth = .ok artwork)
    (mode : ImageMode) : artwork.bitmap.Fits mode := by
  have onPaper := width_bitmap_le found
  have bounded := paperWidth.toNat_lt
  exact Bitmap.fits_of_narrow (by omega) mode

theorem Style.flatMap_bytes_tokens (style : Style) :
    style.tokens.flatMap Token.bytes = Command.bytesOfAll style.commands :=
  Command.flatMap_bytes_tokens style.commands

theorem Style.isWhole_of_mem_tokens (style : Style) : ∀ token ∈ style.tokens, token.IsWhole := by
  intro token member
  simp only [tokens, commands, List.map_cons, List.map_nil, List.mem_cons, List.not_mem_nil,
    or_false] at member
  rcases member with rfl | rfl | rfl | rfl
  · exact Command.isWhole_token trivial
  · exact Command.isWhole_token trivial
  · exact Command.isWhole_token trivial
  · cases style.underline <;> exact Command.isWhole_token trivial

section Rendering

variable {profile : Profile} {block : Bytes}

theorem eq_ok_of_mapError {ε φ α : Type} {wrap : ε → φ} {result : Except ε α} {value : α}
    (success : result.mapError wrap = .ok value) : result = .ok value := by
  cases result with
  | ok found =>
    cases success
    rfl
  | error failure => cases success

theorem exists_of_renderText {content : String} {style : Style}
    (rendered : renderText content style = .ok block) :
    ∃ bytes, CodePage.encode? content = some bytes ∧
      block = Command.bytesOfAll style.commands ++ bytes := by
  unfold renderText at rendered
  split at rendered
  · rename_i bytes encoded
    cases rendered
    exact ⟨bytes, encoded, rfl⟩
  · cases rendered

theorem exists_of_renderBarcode {code : String} {symbology : Symbology}
    (rendered : renderBarcode code symbology = .ok block) :
    ∃ payload, symbology.payload code = .ok payload ∧
      block = Command.bytesOfAll
        [.selectAlignment .center, .barcodeTextBelow, .barcode symbology payload] := by
  unfold renderBarcode at rendered
  split at rendered
  · rename_i payload accepted
    cases rendered
    exact ⟨payload, accepted, rfl⟩
  · cases rendered

theorem exists_of_renderPicture {data : String} {alignment : Alignment} {dithering : Dithering}
    (rendered : renderPicture profile data alignment dithering = .ok block) :
    ∃ artwork, Artwork.ofText data dithering profile.width = .ok artwork ∧
      block = (Command.selectAlignment alignment).bytes ++ artwork.send profile.imageMode := by
  unfold renderPicture at rendered
  split at rendered
  · rename_i artwork found
    cases rendered
    exact ⟨artwork, found, rfl⟩
  · cases rendered

/-- A printer that draws QR codes itself gets content of at most the greatest length, and any other
gets a bitmap. -/
theorem cases_of_renderQr {code : String} {size : Int64}
    (rendered : renderQr profile code size = .ok block) :
    (profile.nativeQr = true ∧ (Bytes.ofText code).length ≤ greatestQrLength ∧
      block = Command.bytesOfAll
        (.selectAlignment .center :: qrCommands (Bytes.ofText code) (clampToByte size 16))) ∨
    (profile.nativeQr = false ∧ ∃ bitmap,
      Qr.bitmap? code (clampToByte size 16).toNat profile.width.toNat = some bitmap ∧
      block = (Command.selectAlignment .center).bytes ++ bitmap.send profile.imageMode) := by
  unfold renderQr at rendered
  cases native : profile.nativeQr with
  | true =>
    simp only [native, if_true] at rendered
    split at rendered
    · cases rendered
    · rename_i short
      cases rendered
      simp only [Bool.or_eq_true, decide_eq_true_eq, not_or, Nat.not_lt] at short
      exact .inl ⟨rfl, short.2, rfl⟩
  | false =>
    simp only [native, Bool.false_eq_true, if_false] at rendered
    split at rendered
    · rename_i bitmap drawn
      cases rendered
      exact .inr ⟨rfl, bitmap, drawn, rfl⟩
    · cases rendered

end Rendering

namespace Item

variable {profile : Profile} {item : Item} {block : Bytes} {tokens : List Token}

theorem exists_prints_of_render (rendered : item.render profile = .ok block) :
    ∃ tokens, item.Prints profile tokens ∧ tokens.flatMap Token.bytes = block := by
  cases item with
  | line content style =>
    have withFeed := eq_ok_of_mapError rendered
    cases text : renderText content style with
    | error failure => simp [text, Except.map] at withFeed
    | ok printed =>
      obtain ⟨bytes, encoded, rfl⟩ := exists_of_renderText text
      refine ⟨_, .line encoded, ?_⟩
      simp only [text, Except.map, Except.ok.injEq] at withFeed
      rw [List.flatMap_append, List.flatMap_append, style.flatMap_bytes_tokens,
        Token.flatMap_bytes_characters]
      exact withFeed
  | text content style =>
    obtain ⟨bytes, encoded, rfl⟩ := exists_of_renderText (eq_ok_of_mapError rendered)
    refine ⟨_, .text encoded, ?_⟩
    rw [List.flatMap_append, style.flatMap_bytes_tokens, Token.flatMap_bytes_characters]
  | feed lines =>
    cases rendered
    exact ⟨_, .feed, Command.flatMap_bytes_tokens _⟩
  | barcode code symbology =>
    obtain ⟨payload, accepted, rfl⟩ := exists_of_renderBarcode (eq_ok_of_mapError rendered)
    exact ⟨_, .barcode accepted, Command.flatMap_bytes_tokens _⟩
  | qr code size =>
    rcases cases_of_renderQr (eq_ok_of_mapError rendered) with
      ⟨native, short, rfl⟩ | ⟨native, bitmap, drawn, rfl⟩
    · exact ⟨_, .ownQr native short, Command.flatMap_bytes_tokens _⟩
    · refine ⟨_, .drawnQr native drawn, ?_⟩
      rw [List.flatMap_cons, Command.bytes_token,
        Bitmap.flatMap_bytes_tokens (Qr.fits_of_bitmap? drawn _)]
  | picture data alignment dithering =>
    rw [render] at rendered
    obtain ⟨artwork, found, rfl⟩ := exists_of_renderPicture rendered
    refine ⟨_, .picture found, ?_⟩
    rw [List.flatMap_cons, Command.bytes_token,
      Bitmap.flatMap_bytes_tokens (Artwork.fits_bitmap found _)]
    rfl

/-- The tokens of an item are whole, if its text starts no command. Data may hold any bytes. -/
theorem Prints.isWhole (prints : item.Prints profile tokens) (plain : item.IsPlain) :
    ∀ token ∈ tokens, token.IsWhole := by
  cases prints with
  | @line content style bytes encoded =>
    have harmless := CodePage.introduces_of_bytesOf? encoded plain
    simp only [List.forall_mem_append, List.forall_mem_singleton]
    exact ⟨⟨style.isWhole_of_mem_tokens, Token.isWhole_characters harmless⟩,
      Token.isWhole_character rfl⟩
  | @text content style bytes encoded =>
    have harmless := CodePage.introduces_of_bytesOf? encoded plain
    rw [List.forall_mem_append]
    exact ⟨style.isWhole_of_mem_tokens, Token.isWhole_characters harmless⟩
  | @feed lines =>
    intro token member
    obtain ⟨command, inFeed, rfl⟩ := List.mem_map.mp member
    apply Command.isWhole_token
    rcases List.mem_append.mp inFeed with whole | rest
    · rw [List.eq_of_mem_replicate whole]
      trivial
    · split at rest
      · cases rest
      · rw [List.mem_singleton.mp rest]
        trivial
  | barcode accepted =>
    simp only [List.forall_mem_map, List.forall_mem_cons]
    exact ⟨Command.isWhole_token trivial, Command.isWhole_token trivial,
      Command.isWhole_token (Symbology.length_payload_lt accepted), by simp⟩
  | @ownQr code size native short =>
    have fits : (Bytes.ofText code).length + 3 < 65536 := by
      unfold greatestQrLength at short
      omega
    simp only [List.forall_mem_map, qrCommands, List.forall_mem_cons]
    exact ⟨Command.isWhole_token trivial, Command.isWhole_token trivial,
      Command.isWhole_token trivial, Command.isWhole_token trivial, Command.isWhole_token fits,
      Command.isWhole_token trivial, by simp⟩
  | drawnQr native drawn =>
    rw [List.forall_mem_cons]
    exact ⟨Command.isWhole_token trivial,
      Bitmap.isWhole_of_mem_tokens (Qr.fits_of_bitmap? drawn _)⟩
  | picture found =>
    rw [List.forall_mem_cons]
    exact ⟨Command.isWhole_token trivial,
      Bitmap.isWhole_of_mem_tokens (Artwork.fits_bitmap found _)⟩

theorem isCut_of_mem_characters (content : Bytes) :
    ∀ token ∈ content.map Token.character, token.isCut = false := by
  simp [Token.isCut]

theorem isCut_of_mem_commands {commands : List Command} (uncut : .cut ∉ commands) :
    ∀ token ∈ commands.map Command.token, token.isCut = false := by
  intro token member
  obtain ⟨command, listed, rfl⟩ := List.mem_map.mp member
  cases command with
  | cut => exact absurd listed uncut
  | _ => rfl

theorem cut_notMem_commands (style : Style) : .cut ∉ style.commands := by
  cases underlined : style.underline <;> simp [Style.commands, underlined]

/-- No item cuts the paper, whatever its text holds. -/
theorem Prints.isCut (prints : item.Prints profile tokens) :
    ∀ token ∈ tokens, token.isCut = false := by
  cases prints with
  | @line content style bytes encoded =>
    simp only [List.forall_mem_append, List.forall_mem_singleton]
    exact ⟨⟨isCut_of_mem_commands (cut_notMem_commands style), isCut_of_mem_characters bytes⟩, rfl⟩
  | @text content style bytes encoded =>
    rw [List.forall_mem_append]
    exact ⟨isCut_of_mem_commands (cut_notMem_commands style), isCut_of_mem_characters bytes⟩
  | @feed lines =>
    apply isCut_of_mem_commands
    unfold feedCommands
    split <;> simp [List.mem_replicate]
  | barcode accepted => exact isCut_of_mem_commands (by simp)
  | ownQr native short => exact isCut_of_mem_commands (by simp [qrCommands])
  | drawnQr native drawn =>
    rw [List.forall_mem_cons]
    exact ⟨rfl, Bitmap.isCut_of_mem_tokens _ _⟩
  | picture found =>
    rw [List.forall_mem_cons]
    exact ⟨rfl, Bitmap.isCut_of_mem_tokens _ _⟩

/-- Items that render are printed by tokens of which their blocks are made. -/
theorem exists_prints_of_renders {items : List Item} {blocks : List Bytes}
    (rendered : items.map (Item.render profile) = blocks.map .ok) :
    ∃ tokens : List (List Token),
      List.Forall₂ (fun item own => item.Prints profile own) items tokens ∧
      tokens.map (List.flatMap Token.bytes) = blocks := by
  induction items generalizing blocks with
  | nil =>
    have none : blocks = [] := by simpa using rendered.symm
    exact ⟨[], .nil, none.symm⟩
  | cons item items inductionHypothesis =>
    cases blocks with
    | nil => cases rendered
    | cons block blocks =>
      simp only [List.map_cons, List.cons.injEq] at rendered
      obtain ⟨own, prints, bytes⟩ := exists_prints_of_render rendered.1
      obtain ⟨rest, printRest, bytesRest⟩ := inductionHypothesis rendered.2
      exact ⟨own :: rest, .cons prints printRest, by simp [bytes, bytesRest]⟩

theorem isWhole_of_mem_flatten {items : List Item} {tokens : List (List Token)}
    (prints : List.Forall₂ (fun item own => item.Prints profile own) items tokens)
    (plain : ∀ item ∈ items, item.IsPlain) : ∀ token ∈ tokens.flatten, token.IsWhole := by
  induction prints with
  | nil => simp
  | cons printsOwn _ inductionHypothesis =>
    rw [List.forall_mem_cons] at plain
    rw [List.flatten_cons, List.forall_mem_append]
    exact ⟨printsOwn.isWhole plain.1, inductionHypothesis plain.2⟩

theorem isCut_of_mem_flatten {items : List Item} {tokens : List (List Token)}
    (prints : List.Forall₂ (fun item own => item.Prints profile own) items tokens) :
    ∀ token ∈ tokens.flatten, token.isCut = false := by
  induction prints with
  | nil => simp
  | cons printsOwn _ inductionHypothesis =>
    rw [List.flatten_cons, List.forall_mem_append]
    exact ⟨printsOwn.isCut, inductionHypothesis⟩

end Item

theorem Token.flatMap_bytes_flatten (tokens : List (List Token)) :
    tokens.flatten.flatMap bytes = (tokens.map (List.flatMap bytes)).flatten := by
  induction tokens with
  | nil => rfl
  | cons own rest inductionHypothesis => simp [inductionHypothesis]

/-- The blocks of a receipt and the cut are read to their end as the tokens of the items and the
cut, if no text holds escape or group separator. The block of each item, read alone, gives just its
own tokens; all tokens are whole, with as much data as they announce; and the paper is cut once, at
the end. -/
theorem receipt_stays_in_frame (profile : Profile) (receipt : Receipt) (blocks : List Bytes)
    (rendered : receipt.items.map (Item.render profile) = blocks.map .ok)
    (plain : ∀ item ∈ receipt.items, item.IsPlain) :
    ∃ tokens : List (List Token),
      List.Forall₂ (fun item own => item.Prints profile own) receipt.items tokens ∧
      tokens.map (List.flatMap Token.bytes) = blocks ∧
      blocks.map Token.readAll? = tokens.map some ∧
      Token.readAll? (blocks.flatten ++ Command.cut.bytes) =
        some (tokens.flatten ++ [Command.cut.token]) ∧
      (∀ token ∈ tokens.flatten ++ [Command.cut.token], token.IsWhole) ∧
      (∀ token ∈ tokens.flatten, token.isCut = false) ∧ Command.cut.token.isCut = true := by
  obtain ⟨tokens, prints, bytes⟩ := Item.exists_prints_of_renders rendered
  have whole := Item.isWhole_of_mem_flatten prints plain
  have wholeCut : Command.cut.token.IsWhole := Command.isWhole_token trivial
  have allWhole : ∀ token ∈ tokens.flatten ++ [Command.cut.token], token.IsWhole := by
    rw [List.forall_mem_append, List.forall_mem_singleton]
    exact ⟨whole, wholeCut⟩
  refine ⟨tokens, prints, bytes, ?_, ?_, allWhole, Item.isCut_of_mem_flatten prints, rfl⟩
  · rw [← bytes, List.map_map]
    apply List.map_congr_left
    intro own listed
    apply Token.readAll?_flatMap
    intro token member
    exact whole token (List.mem_flatten.mpr ⟨own, listed, member⟩)
  · have stream : (tokens.flatten ++ [Command.cut.token]).flatMap Token.bytes =
        blocks.flatten ++ Command.cut.bytes := by
      rw [List.flatMap_append, Token.flatMap_bytes_flatten, bytes, List.flatMap_singleton,
        Command.bytes_token]
    rw [← stream]
    exact Token.readAll?_flatMap allWhole

/-- A receipt whose QR code holds the bytes that start commands, and the bytes of a cut. -/
def mixedReceipt : Receipt :=
  ⟨[.line "5 €" ⟨3, .b, .right, true⟩, .feed 300, .barcode "1\x7b2" .code128,
    .qr "\x1b\x1dVA" 40]⟩

def mixedBlocks : List Bytes := [
  [0x1B, 0x4D, 1, 0x1B, 0x61, 2, 0x1D, 0x21, 0x22, 0x1B, 0x2D, 1, 0x35, 0x20, 0xEE, 0x0A],
  [0x1B, 0x64, 255, 0x1B, 0x64, 45],
  [0x1B, 0x61, 1, 0x1D, 0x48, 2, 0x1D, 0x6B, 73, 6, 0x7B, 0x42, 0x31, 0x7B, 0x7B, 0x32],
  [0x1B, 0x61, 1, 0x1D, 0x28, 0x6B, 4, 0, 0x31, 0x41, 0x32, 0,
    0x1D, 0x28, 0x6B, 3, 0, 0x31, 0x43, 16,
    0x1D, 0x28, 0x6B, 3, 0, 0x31, 0x45, 0x31,
    0x1D, 0x28, 0x6B, 7, 0, 0x31, 0x50, 0x30, 0x1B, 0x1D, 0x56, 0x41,
    0x1D, 0x28, 0x6B, 3, 0, 0x31, 0x51, 0x30]]

theorem mixedReceipt_stays_in_frame :
    mixedReceipt.items.map (Item.render (.ofFile "unused")) = mixedBlocks.map .ok ∧
    (∀ item ∈ mixedReceipt.items, item.IsPlain) ∧
    ∃ tokens : List (List Token), mixedBlocks.map Token.readAll? = tokens.map some ∧
      Token.readAll? (mixedBlocks.flatten ++ Command.cut.bytes) =
        some (tokens.flatten ++ [Command.cut.token]) := by
  have rendered :
      mixedReceipt.items.map (Item.render (.ofFile "unused")) = mixedBlocks.map .ok := by
    rfl
  have plain : ∀ item ∈ mixedReceipt.items, item.IsPlain := by
    decide
  obtain ⟨tokens, _, _, alone, together, _⟩ :=
    receipt_stays_in_frame (.ofFile "unused") mixedReceipt mixedBlocks rendered plain
  exact ⟨rendered, plain, tokens, alone, together⟩

end ThermalPrint
