import ThermalPrint.Printer.Command
import ThermalPrint.Printer.Stream

/-!
# Tokens are found again

A token is whole if its frame is known and it has all the parameters and data that the frame asks
for. Whole tokens that follow one another are read as just these tokens, so no token can take bytes
of the next one. Commands are whole tokens as long as their data fits the bytes that announce its
length.
-/

namespace ThermalPrint

theorem Frame.take?_append {frame : Frame} {parameters data : Bytes}
    (complete : parameters.length = frame.parameters)
    (announced : data.length = frame.announced parameters) (rest : Bytes) :
    frame.take? (parameters ++ data ++ rest) = some (parameters, data, rest) := by
  simp only [take?, List.append_assoc, ← complete, List.take_left, List.drop_left, ← announced]
  simp

namespace Token

def IsWhole : Token → Prop
  | character byte => byte ≠ 0x1B ∧ byte ≠ 0x1D
  | command introducer function parameters data =>
    (introducer = 0x1B ∨ introducer = 0x1D) ∧
      ∃ frame, Frame.of? introducer function = some frame ∧
        parameters.length = frame.parameters ∧ data.length = frame.announced parameters

/-- Whether a token is a command that cuts the paper. -/
def isCut : Token → Bool
  | character _ => false
  | command introducer function _ _ => introducer == 0x1D && function == 0x56

theorem isWhole_of_plain {introducer function : UInt8} {parameters : Bytes}
    (introduces : introducer = 0x1B ∨ introducer = 0x1D)
    (known : Frame.of? introducer function = some (.plain parameters.length)) :
    (command introducer function parameters []).IsWhole :=
  ⟨introduces, _, known, rfl, rfl⟩

theorem next?_append {token : Token} (whole : token.IsWhole) (rest : Bytes) :
    next? (token.bytes ++ rest) = some (token, rest) := by
  cases token with
  | character byte =>
    obtain ⟨notEscape, notGroup⟩ := whole
    simp [bytes, next?, notEscape, notGroup]
  | command introducer function parameters data =>
    obtain ⟨introduces, frame, known, complete, announced⟩ := whole
    have taken := Frame.take?_append complete announced rest
    simp only [bytes, List.cons_append, next?, introduces, if_true, known, Option.bind_some, taken]

theorem readAll?_of_next? {stream rest : Bytes} {token : Token}
    (success : next? stream = some (token, rest)) :
    readAll? stream = (readAll? rest).map (token :: ·) := by
  have nonempty : stream ≠ [] := by
    rintro rfl
    simp [next?] at success
  rw [readAll?, if_neg nonempty]
  split
  · rename_i failure
    rw [success] at failure
    contradiction
  · rename_i taken
    rw [success] at taken
    cases taken
    rfl

theorem readAll?_flatMap_append {tokens : List Token} (whole : ∀ token ∈ tokens, token.IsWhole)
    (rest : Bytes) :
    readAll? (tokens.flatMap bytes ++ rest) = (readAll? rest).map (tokens ++ ·) := by
  induction tokens with
  | nil => simp
  | cons token tokens inductionHypothesis =>
    rw [List.forall_mem_cons] at whole
    rw [List.flatMap_cons, List.append_assoc, readAll?_of_next? (next?_append whole.1 _),
      inductionHypothesis whole.2, Option.map_map]
    rfl

theorem readAll?_flatMap {tokens : List Token} (whole : ∀ token ∈ tokens, token.IsWhole) :
    readAll? (tokens.flatMap bytes) = some tokens := by
  have read := readAll?_flatMap_append whole []
  rw [List.append_nil] at read
  rw [read, readAll?]
  simp

theorem flatMap_bytes_characters (content : Bytes) :
    (content.map character).flatMap bytes = content := by
  induction content with
  | nil => rfl
  | cons byte rest inductionHypothesis => simp [bytes, inductionHypothesis]

end Token

theorem Bytes.toNat_ofLength {length : Nat} (short : length < 65536) :
    (UInt8.ofNat length).toNat + 256 * (UInt8.ofNat (length / 256)).toNat = length := by
  simp only [UInt8.toNat_ofNat']
  omega

namespace Command

def qrToken (function : UInt8) (parameters : Bytes) : Token :=
  .command 0x1D 0x28 (0x6B :: Bytes.ofLength (parameters.length + 2))
    (0x31 :: function :: parameters)

/-- A command with the data that belongs to it. A header has none: the dots that it announces are
not part of the command. -/
def token : Command → Token
  | cut => .command 0x1D 0x56 [0x41, 0x96] []
  | reset => .command 0x1B 0x40 [] []
  | selectCodeTable table => .command 0x1B 0x74 [table.code] []
  | smoothing enabled => .command 0x1D 0x62 [if enabled then 1 else 0] []
  | selectFont font => .command 0x1B 0x4D [font.code] []
  | selectAlignment alignment => .command 0x1B 0x61 [alignment.code] []
  | characterSize width height =>
    .command 0x1D 0x21 [(clampByte 1 8 width - 1) <<< 4 ||| (clampByte 1 8 height - 1)] []
  | underlineOff => .command 0x1B 0x2D [0] []
  | underlineOn => .command 0x1B 0x2D [1] []
  | feed lines => .command 0x1B 0x64 [lines] []
  | barcodeTextBelow => .command 0x1D 0x48 [0x02] []
  | barcode symbology payload =>
    .command 0x1D 0x6B [symbology.code, UInt8.ofNat payload.length] payload
  | qrModel => qrToken 0x41 [0x32, 0x00]
  | qrModuleSize size => qrToken 0x43 [clampByte 1 16 size]
  | qrErrorCorrection => qrToken 0x45 [0x31]
  | qrStore data => qrToken 0x50 (0x30 :: data)
  | qrPrint => qrToken 0x51 [0x30]
  | rasterHeader widthBytes height =>
    .command 0x1D 0x76
      ([0x30, ImageMode.raster.code] ++ Bytes.ofLength widthBytes.toNat ++
        Bytes.ofLength height.toNat) []
  | columnsHeader mode => .command 0x1B 0x2A [mode.code] []
  | noLineSpacing => .command 0x1B 0x33 [0] []
  | usualLineSpacing => .command 0x1B 0x32 [] []

/-- The length of the data fits the bytes that announce it. Nothing is said of headers, which
announce what follows the command. -/
def Fits : Command → Prop
  | barcode _ payload => payload.length < 256
  | qrStore data => data.length + 3 < 65536
  | rasterHeader .. | columnsHeader _ => False
  | _ => True

@[simp]
theorem bytes_token (command : Command) : command.token.bytes = command.bytes := by
  cases command <;>
    simp [token, qrToken, Token.bytes, bytes, qrCommand, Bytes.ofLength, escape, group]

theorem isWhole_qrToken {function : UInt8} {parameters : Bytes}
    (short : parameters.length + 2 < 65536) : (qrToken function parameters).IsWhole := by
  refine ⟨.inr rfl, ⟨3, Frame.lengthAt 1⟩, rfl, rfl, ?_⟩
  have announced := Bytes.toNat_ofLength short
  simpa [Frame.lengthAt, Bytes.ofLength] using announced.symm

theorem isWhole_token {command : Command} (fits : command.Fits) : command.token.IsWhole := by
  cases command with
  | barcode symbology payload =>
    refine ⟨.inr rfl, ⟨2, fun parameters => (parameters.getD 1 0).toNat⟩, rfl, rfl, ?_⟩
    have short : payload.length < 256 := fits
    simp [Nat.mod_eq_of_lt short]
  | qrStore data => exact isWhole_qrToken fits
  | qrModel => exact isWhole_qrToken (by decide)
  | qrModuleSize size => exact isWhole_qrToken (by simp)
  | qrErrorCorrection => exact isWhole_qrToken (by decide)
  | qrPrint => exact isWhole_qrToken (by decide)
  | rasterHeader | columnsHeader => exact fits.elim
  | cut | smoothing | characterSize | barcodeTextBelow =>
    exact Token.isWhole_of_plain (.inr rfl) rfl
  | reset | selectCodeTable | selectFont | selectAlignment | underlineOff | underlineOn | feed
  | noLineSpacing | usualLineSpacing => exact Token.isWhole_of_plain (.inl rfl) rfl

theorem flatMap_bytes_tokens (commands : List Command) :
    (commands.map token).flatMap Token.bytes = commands.flatMap bytes := by
  simp [List.flatMap_map]

end Command

end ThermalPrint
