import ThermalPrint.Proofs.Printer.Paper
import ThermalPrint.Proofs.Qr.Drawing

/-!
# The mode of pictures does not show

A picture, or a QR code that the printer cannot draw itself, looks the same on paper in both modes,
and none of its dots is outside the paper.
-/

namespace ThermalPrint

/-- A block chooses an alignment and then draws just some dots. -/
def DrawsAligned (block : Bytes) (alignment : Alignment) (isBlack : Nat → Nat → Bool) : Prop :=
  ∃ tokens, Token.readAll? block = some ((Command.selectAlignment alignment).token :: tokens) ∧
    ∀ x y, Paper.fresh.shows tokens x y = isBlack x y

theorem DrawsAligned.isBlack_unique {block : Bytes} {alignment other : Alignment}
    {isBlack otherIsBlack : Nat → Nat → Bool} (draws : DrawsAligned block alignment isBlack)
    (drawsOther : DrawsAligned block other otherIsBlack) : isBlack = otherIsBlack := by
  obtain ⟨tokens, read, shows⟩ := draws
  obtain ⟨otherTokens, otherRead, otherShows⟩ := drawsOther
  rw [read] at otherRead
  obtain ⟨_, sameTokens⟩ := List.cons.inj (Option.some.inj otherRead)
  funext x y
  rw [← shows, sameTokens, otherShows]

theorem Bitmap.drawsAligned_send {bitmap : Bitmap} (narrow : bitmap.width < 65536)
    (padded : bitmap.IsPadded) (alignment : Alignment) (mode : ImageMode) :
    DrawsAligned ((Command.selectAlignment alignment).bytes ++ bitmap.send mode) alignment
      bitmap.isBlack := by
  have whole : ∀ token ∈ (Command.selectAlignment alignment).token :: bitmap.tokens mode,
      token.IsWhole := by
    rw [List.forall_mem_cons]
    exact ⟨Command.isWhole_token trivial, isWhole_of_mem_tokens (fits_of_narrow narrow mode)⟩
  have read := Token.readAll?_flatMap whole
  rw [List.flatMap_cons, Command.bytes_token,
    flatMap_bytes_tokens (fits_of_narrow narrow mode)] at read
  exact ⟨bitmap.tokens mode, read, Paper.shows_tokens narrow padded mode⟩

theorem Bitmap.lt_width_of_isBlack {bitmap : Bitmap} {x y : Nat}
    (black : bitmap.isBlack x y = true) : x < bitmap.width := by
  simp only [isBlack, Bool.and_eq_true, decide_eq_true_eq] at black
  exact black.1.1

/-- The dots of an item are sent one by one: it is a picture, or a QR code that the printer does not
draw itself. -/
def Item.isSentInDots (profile : Profile) : Item → Bool
  | .picture .. => true
  | .qr .. => !profile.nativeQr
  | _ => false

theorem render_qr_of_drawn {profile : Profile} {code : String} {size : Int64} {bitmap : Bitmap}
    (foreign : profile.nativeQr = false)
    (drawn : Qr.bitmap? code (clampToByte size 16).toNat profile.width.toNat = some bitmap)
    (mode : ImageMode) : (Item.qr code size).render { profile with imageMode := mode } =
      .ok ((Command.selectAlignment .center).bytes ++ bitmap.send mode) := by
  simp only [Item.render, renderQr, foreign, drawn, Bool.false_eq_true, if_false]
  rfl

/-- In both modes rendering fails for the same reason, be it an error or a panic, or it succeeds and
gives blocks that choose the same alignment and then draw the same dots, all of them on the
paper. -/
theorem modes_draw_alike (profile : Profile) (item : Item)
    (inDots : item.isSentInDots profile = true) :
    (∃ failure, ∀ mode, item.render { profile with imageMode := mode } = .error failure) ∨
    (∃ alignment isBlack,
      (∀ mode, ∃ block, item.render { profile with imageMode := mode } = .ok block ∧
        DrawsAligned block alignment isBlack) ∧
      ∀ x y, isBlack x y = true → x < max profile.width.toNat 1) := by
  have paper := profile.width.toNat_lt
  cases item with
  | picture data alignment dithering =>
    cases found : Artwork.ofText data dithering profile.width with
    | error failure =>
      left
      refine ⟨failure, ?_⟩
      intro mode
      simp only [Item.render, renderPicture, found]
    | ok artwork =>
      right
      have fits := Artwork.width_bitmap_le found
      refine ⟨alignment, artwork.bitmap.isBlack, ?_, ?_⟩
      · intro mode
        refine ⟨_, ?_, Bitmap.drawsAligned_send (by omega) artwork.isPadded_bitmap alignment mode⟩
        simp only [Item.render, renderPicture, found, Artwork.send]
      · intro x y black
        have inside := Bitmap.lt_width_of_isBlack black
        omega
  | qr code size =>
    have foreign : profile.nativeQr = false := by
      simpa [Item.isSentInDots] using inDots
    cases drawn : Qr.bitmap? code (clampToByte size 16).toNat profile.width.toNat with
    | none =>
      left
      refine ⟨.error .qrTooLong, ?_⟩
      intro mode
      simp only [Item.render, renderQr, foreign, drawn, Bool.false_eq_true, if_false]
      rfl
    | some bitmap =>
      right
      have fits := Qr.width_le_of_bitmap? drawn
      have padded := Qr.isPadded_of_bitmap? drawn
      refine ⟨.center, bitmap.isBlack, ?_, ?_⟩
      · intro mode
        exact ⟨_, render_qr_of_drawn foreign drawn mode,
          Bitmap.drawsAligned_send (by omega) padded .center mode⟩
      · intro x y black
        have inside := Bitmap.lt_width_of_isBlack black
        omega
  | _ => simp [Item.isSentInDots] at inDots

/-- A QR code for a printer that draws none: both modes draw it, and the corner of its first finder
pattern is black. -/
theorem foreignQr_drawn_alike :
    let profile := { Profile.ofFile "unused" with nativeQr := false }
    (Item.qr "A" 4).isSentInDots profile = true ∧
    ∃ alignment isBlack,
      (∀ mode, ∃ block, (Item.qr "A" 4).render { profile with imageMode := mode } = .ok block ∧
        DrawsAligned block alignment isBlack) ∧
      (∀ x y, isBlack x y = true → x < max profile.width.toNat 1) ∧ isBlack 16 16 = true := by
  intro profile
  obtain ⟨symbol, encoded, side, corner⟩ : ∃ symbol : Qr.Symbol,
      Qr.Symbol.encode? (Bytes.ofText "A") = some symbol ∧ symbol.side = 21 ∧
        symbol.modules[0]? = some true := by
    let layout : Qr.Layout := ⟨Bytes.ofText "A", 1, [⟨.alphanumeric, 1⟩]⟩
    have planned : Qr.Layout.of? (Bytes.ofText "A") = some layout := by decide +kernel
    refine ⟨.ofLayout layout, ?_, Qr.Symbol.side_ofLayout layout, Qr.Symbol.corner_ofLayout layout⟩
    rw [Qr.Symbol.encode?, planned, Option.map_some]
  have foreign : profile.nativeQr = false := rfl
  have drawn : Qr.bitmap? "A" (clampToByte 4 16).toNat profile.width.toNat =
      some (symbol.magnify 4) := by
    have paper : profile.width.toNat = 384 := rfl
    have size : Qr.moduleSize 21 (clampToByte 4 16).toNat 384 = 4 := by decide
    rw [Qr.bitmap?_eq encoded, side, paper, size]
    rfl
  have rendered := render_qr_of_drawn foreign drawn .raster
  have width : (symbol.magnify 4).width = 116 := by
    change (symbol.side + 8) * 4 = 116
    rw [side]
  rcases modes_draw_alike profile (.qr "A" 4) rfl with
    ⟨failure, fails⟩ | ⟨alignment, isBlack, draws, inside⟩
  · have impossible := rendered.symm.trans (fails .raster)
    cases impossible
  · obtain ⟨block, own, drawsBlock⟩ := draws .raster
    obtain rfl := Except.ok.inj (rendered.symm.trans own)
    have sends := Bitmap.drawsAligned_send (by rw [width]; decide) (Qr.isPadded_of_bitmap? drawn)
      .center .raster
    obtain rfl := drawsBlock.isBlack_unique sends
    refine ⟨rfl, alignment, _, draws, inside, ?_⟩
    have dark : symbol.IsDarkAt 4 16 16 := by
      rw [Qr.Symbol.IsDarkAt, side]
      exact ⟨by decide, by decide, corner⟩
    have shown := Qr.Symbol.isShownBy_magnify symbol 4
    have here : 16 < (symbol.magnify 4).width ∧ 16 < (symbol.magnify 4).height := by
      rw [shown.height, side, width]
      decide
    have dot := shown.dots 16 16 here.1 here.2
    rw [Bitmap.get?_eq_some_get here.1 here.2] at dot
    simp [Bitmap.isBlack, here, Option.some.inj dot, dark]

end ThermalPrint
