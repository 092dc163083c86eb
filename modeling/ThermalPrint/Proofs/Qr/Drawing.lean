import ThermalPrint.Proofs.Picture.SetDots
import ThermalPrint.Proofs.Picture.Width
import ThermalPrint.Receipt.Render

/-!
# Drawn QR codes show their symbols

A magnified symbol has a square of dots for each of its modules and a white border that is four
modules wide. It is what comes of setting the dots of the dark modules on a white square one after
the other, and none of these dots is outside of the square.
-/

namespace ThermalPrint.Qr

namespace Symbol

/-- Whether a dot of a magnified symbol belongs to a dark module. -/
def IsDarkAt (symbol : Symbol) (size x y : Nat) : Prop :=
  (quietZone ≤ x / size ∧ x / size < symbol.side + quietZone) ∧
    (quietZone ≤ y / size ∧ y / size < symbol.side + quietZone) ∧
    symbol.modules[(y / size - quietZone) * symbol.side + (x / size - quietZone)]? = some true

instance (symbol : Symbol) (size x y : Nat) : Decidable (symbol.IsDarkAt size x y) :=
  inferInstanceAs (Decidable ((_ ∧ _) ∧ (_ ∧ _) ∧ _))

/-- What is asked of a bitmap that shows a symbol with modules of some size. -/
structure IsShownBy (symbol : Symbol) (size : Nat) (bitmap : Bitmap) : Prop where
  width : bitmap.width = (symbol.side + 8) * size
  height : bitmap.height = (symbol.side + 8) * size
  dots : ∀ x y, x < bitmap.width → y < bitmap.height →
    bitmap.get? x y = some (decide (symbol.IsDarkAt size x y))
  quietZone : ∀ x y, x < bitmap.width → y < bitmap.height →
    (x < 4 * size ∨ (symbol.side + 4) * size ≤ x ∨ y < 4 * size ∨ (symbol.side + 4) * size ≤ y) →
    bitmap.get? x y = some false
  padding : ∀ x y, bitmap.width ≤ x → x < 8 * bitmap.widthBytes → y < bitmap.height →
    bitmap.get? x y = some false
  inside : ∀ dot ∈ symbol.darkDots size, dot.x < bitmap.width ∧ dot.y < bitmap.height
  painted : symbol.paint? size = some bitmap

variable {symbol : Symbol} {size : Nat}

/-! ### Dots of dark modules -/

theorem exists_offset_iff (size dot place : Nat) :
    (∃ offset < size, dot = place * size + offset) ↔ 0 < size ∧ dot / size = place := by
  constructor
  · rintro ⟨offset, inside, rfl⟩
    exact ⟨Nat.zero_lt_of_lt inside, place_div inside place⟩
  · rintro ⟨positive, rfl⟩
    exact ⟨dot % size, Nat.mod_lt dot positive, (Nat.div_add_mod' dot size).symm⟩

theorem mem_moduleDots {column row : Nat} {dot : ColoredDot} :
    dot ∈ moduleDots column row size ↔ dot.isBlack = true ∧ 0 < size ∧
      dot.x / size = column + Qr.quietZone ∧ dot.y / size = row + Qr.quietZone := by
  obtain ⟨x, y, isBlack⟩ := dot
  have inColumn := exists_offset_iff size x (column + Qr.quietZone)
  have inRow := exists_offset_iff size y (row + Qr.quietZone)
  simp only [moduleDots, List.mem_flatMap, List.mem_map, List.mem_range, ColoredDot.mk.injEq]
  constructor
  · rintro ⟨down, downInside, right, rightInside, rfl, rfl, rfl⟩
    obtain ⟨positive, atColumn⟩ := inColumn.mp ⟨right, rightInside, rfl⟩
    obtain ⟨_, atRow⟩ := inRow.mp ⟨down, downInside, rfl⟩
    exact ⟨rfl, positive, atColumn, atRow⟩
  · rintro ⟨black, positive, atColumn, atRow⟩
    obtain ⟨right, rightInside, rfl⟩ := inColumn.mpr ⟨positive, atColumn⟩
    obtain ⟨down, downInside, rfl⟩ := inRow.mpr ⟨positive, atRow⟩
    exact ⟨down, downInside, right, rightInside, rfl, rfl, black.symm⟩

theorem mem_darkDots {dot : ColoredDot} :
    dot ∈ symbol.darkDots size ↔
      dot.isBlack = true ∧ 0 < size ∧ symbol.IsDarkAt size dot.x dot.y := by
  simp only [darkDots, List.mem_flatMap, Prod.exists, List.mk_mem_zipIdx_iff_getElem?,
    Array.getElem?_toList]
  constructor
  · rintro ⟨isDark, index, found, member⟩
    cases isDark with
    | false => simp at member
    | true =>
      obtain ⟨black, positive, column, row⟩ := mem_moduleDots.mp (by simpa using member)
      obtain ⟨inside, _⟩ := Array.getElem?_eq_some_iff.mp found
      rw [symbol.size_modules] at inside
      have rowInside : index / symbol.side < symbol.side := Nat.div_lt_of_lt_mul inside
      have columnInside : index % symbol.side < symbol.side :=
        Nat.mod_lt _ (Nat.zero_lt_of_lt rowInside)
      rw [IsDarkAt, column, row, Nat.add_sub_cancel, Nat.add_sub_cancel, Nat.div_add_mod']
      exact ⟨black, positive, ⟨Nat.le_add_left _ _, Nat.add_lt_add_right columnInside _⟩,
        ⟨Nat.le_add_left _ _, Nat.add_lt_add_right rowInside _⟩, found⟩
  · rintro ⟨black, positive, ⟨fromLeft, toRight⟩, ⟨fromTop, toBottom⟩, found⟩
    have columnInside : dot.x / size - Qr.quietZone < symbol.side := by omega
    refine ⟨true, _, found, ?_⟩
    rw [if_pos rfl, mem_moduleDots, place_mod columnInside, place_div columnInside]
    exact ⟨black, positive, by omega, by omega⟩

theorem darkDots_inside {dot : ColoredDot} (member : dot ∈ symbol.darkDots size) :
    dot.x < (symbol.side + 8) * size ∧ dot.y < (symbol.side + 8) * size := by
  obtain ⟨_, positive, ⟨_, toRight⟩, ⟨_, toBottom⟩, _⟩ := mem_darkDots.mp member
  have within {place : Nat} (before : place / size < symbol.side + Qr.quietZone) :
      place < (symbol.side + 8) * size :=
    (Nat.div_lt_iff_lt_mul positive).mp (Nat.lt_of_lt_of_le before (by simp [Qr.quietZone]))
  exact ⟨within toRight, within toBottom⟩

/-! ### The magnified symbol -/

theorem magnify_eq (symbol : Symbol) (size : Nat) :
    symbol.magnify size = .ofFn ((symbol.side + 8) * size) ((symbol.side + 8) * size) fun x y =>
      decide (symbol.IsDarkAt size x y) := by
  have dark (x y : Nat) :
      (decide (Qr.quietZone ≤ x / size) && decide (x / size < symbol.side + Qr.quietZone) &&
        decide (Qr.quietZone ≤ y / size) && decide (y / size < symbol.side + Qr.quietZone) &&
        symbol.isDark (x / size - Qr.quietZone) (y / size - Qr.quietZone)) =
          decide (symbol.IsDarkAt size x y) := by
    rw [Bool.eq_iff_iff]
    simp [IsDarkAt, isDark, Option.getD_eq_iff, and_assoc]
  unfold magnify
  simp only [dark]
  rfl

theorem get?_magnify {x y : Nat} (inRow : x < 8 * bytesPerRow ((symbol.side + 8) * size))
    (above : y < (symbol.side + 8) * size) :
    (symbol.magnify size).get? x y =
      some (decide (x < (symbol.side + 8) * size) && decide (symbol.IsDarkAt size x y)) := by
  rw [magnify_eq, Bitmap.get?_ofFn _ _ _ inRow above]

/-- The dots of the dark modules, set one after the other, draw the magnified symbol. -/
theorem paint?_eq_magnify (symbol : Symbol) (size : Nat) :
    symbol.paint? size = some (symbol.magnify size) := by
  let blank := Bitmap.white ((symbol.side + 8) * size) ((symbol.side + 8) * size)
  have inside : ∀ dot ∈ symbol.darkDots size, dot.x < blank.width ∧ dot.y < blank.height :=
    fun _ member => darkDots_inside member
  obtain ⟨painted, set, width, height, dots⟩ := Bitmap.exists_setAll? inside
  suffices painted = symbol.magnify size by
    rw [← this]
    exact set
  have sameWidth : painted.width = (symbol.side + 8) * size := width
  have sameHeight : painted.height = (symbol.side + 8) * size := height
  refine @Bitmap.ext_dots painted (symbol.magnify size) sameWidth sameHeight ?_
  intro x y inRow above
  rw [Bitmap.widthBytes, sameWidth] at inRow
  rw [sameHeight] at above
  have black : ∀ dot ∈ symbol.darkDots size, dot.isBlack = true :=
    fun _ member => (mem_darkDots.mp member).1
  rw [dots x y inRow, ColoredDot.lastColor?_of_black black, Bitmap.get?_white _ _ inRow above,
    get?_magnify inRow above]
  by_cases member : ⟨x, y, true⟩ ∈ symbol.darkDots size
  · have inside := (darkDots_inside member).1
    have dark := (mem_darkDots.mp member).2.2
    simp [member, inside, dark]
  · have positive : 0 < size := Nat.pos_of_mul_pos_left (Nat.zero_lt_of_lt above)
    have notDark : ¬symbol.IsDarkAt size x y := fun dark =>
      member (mem_darkDots.mpr ⟨rfl, positive, dark⟩)
    simp [member, notDark]

theorem isShownBy_magnify (symbol : Symbol) (size : Nat) :
    symbol.IsShownBy size (symbol.magnify size) where
  width := rfl
  height := rfl
  dots := by
    intro x y (inside : x < (symbol.side + 8) * size) above
    have inRow := Nat.lt_of_lt_of_le inside (symbol.magnify size).width_le_eight_mul_widthBytes
    simp [get?_magnify inRow above, inside]
  quietZone := by
    intro x y (inside : x < (symbol.side + 8) * size) above border
    have positive : 0 < size := Nat.pos_of_mul_pos_left (Nat.zero_lt_of_lt above)
    have inRow := Nat.lt_of_lt_of_le inside (symbol.magnify size).width_le_eight_mul_widthBytes
    have light : ¬symbol.IsDarkAt size x y := by
      rintro ⟨⟨fromLeft, toRight⟩, ⟨fromTop, toBottom⟩, _⟩
      rw [Nat.le_div_iff_mul_le positive, Qr.quietZone] at fromLeft fromTop
      rw [Nat.div_lt_iff_lt_mul positive, Qr.quietZone] at toRight toBottom
      omega
    simp [get?_magnify inRow above, light]
  padding := by
    intro x y (outside : (symbol.side + 8) * size ≤ x) inRow above
    have notInside : ¬x < (symbol.side + 8) * size := Nat.not_lt.mpr outside
    simp [get?_magnify inRow above, notInside]
  inside _ member := darkDots_inside member
  painted := paint?_eq_magnify symbol size

/-- What holds of some symbols holds of the best of them. -/
theorem foldl_better_invariant {motive : Symbol → Prop} {drawn : Nat → Symbol × Nat}
    (holds : ∀ mask, motive (drawn mask).1) (masks : List Nat) {best : Symbol × Nat}
    (holdsOfBest : motive best.1) :
    motive (masks.foldl (fun best mask => better best (drawn mask)) best).1 := by
  induction masks generalizing best with
  | nil => exact holdsOfBest
  | cons mask masks inductionHypothesis =>
    apply inductionHypothesis
    change motive (better best (drawn mask)).1
    unfold better
    split
    · exact holds mask
    · exact holdsOfBest

theorem exists_draw_eq_ofLayout (layout : Layout) :
    ∃ mask, ofLayout layout = draw layout.version (dataModules layout) mask := by
  unfold ofLayout
  apply foldl_better_invariant
    (motive := fun symbol => ∃ mask, symbol = draw layout.version (dataModules layout) mask)
  · intro mask
    exact ⟨mask, rfl⟩
  · exact ⟨0, rfl⟩

theorem side_ofLayout (layout : Layout) : (ofLayout layout).side = Qr.side layout.version := by
  obtain ⟨mask, drawn⟩ := exists_draw_eq_ofLayout layout
  rw [drawn]
  rfl

/-- The first module is the corner of a finder pattern. -/
theorem corner_ofLayout (layout : Layout) : (ofLayout layout).modules[0]? = some true := by
  obtain ⟨mask, drawn⟩ := exists_draw_eq_ofLayout layout
  have side : 0 < Qr.side layout.version := Nat.lt_of_lt_of_le (by decide) (Nat.le_add_right 17 _)
  have modules : 0 < Qr.side layout.version * Qr.side layout.version := Nat.mul_pos side side
  rw [drawn, draw, Array.getElem?_ofFn, dif_pos modules]
  simp [fixedColor?, finderColor, ringAround, distance]

end Symbol

/-! ### Symbols on paper -/

section Paper

variable {content : String} {symbol : Symbol}

theorem moduleSize_eq_zero_iff (symbolSide wanted paperWidth : Nat) :
    moduleSize symbolSide wanted paperWidth = 0 ↔ paperWidth < symbolSide + 8 := by
  have narrow : paperWidth / (symbolSide + 8) = 0 ↔ paperWidth < symbolSide + 8 :=
    Nat.div_eq_zero_iff_lt (Nat.succ_pos _)
  have least (room : Nat) : min (min (max wanted 1) 16) room = 0 ↔ room = 0 := by omega
  exact (least _).trans narrow

theorem bitmap?_eq (encoded : Symbol.encode? (Bytes.ofText content) = some symbol)
    (wanted paperWidth : Nat) :
    bitmap? content wanted paperWidth =
      if paperWidth < symbol.side + 8 then none
      else some (symbol.magnify (moduleSize symbol.side wanted paperWidth)) := by
  rw [bitmap?, encoded]
  simp only [← moduleSize_eq_zero_iff symbol.side wanted paperWidth]
  rfl

theorem renderQr_eq_error_iff (encoded : Symbol.encode? (Bytes.ofText content) = some symbol)
    {profile : Profile} (drawn : profile.nativeQr = false) (size : Int64) :
    renderQr profile content size = .error .qrTooLong ↔
      profile.width.toNat < symbol.side + 8 := by
  rw [renderQr, if_neg (by simp [drawn]), bitmap?_eq encoded]
  by_cases narrow : profile.width.toNat < symbol.side + 8 <;> simp [narrow]

/-- A QR code is too long for the paper exactly if its symbol and the white border around it are
wider than the paper even with modules of one dot. Otherwise its modules have the size that is asked
for, or the greatest size that the paper has room for, and the bitmap shows just the symbol. -/
theorem bitmap_shows_symbol (encoded : Symbol.encode? (Bytes.ofText content) = some symbol)
    (wanted : UInt8) (paperWidth : UInt16) :
    (bitmap? content wanted.toNat paperWidth.toNat = none ↔
      paperWidth.toNat < symbol.side + 8) ∧
    (∀ profile : Profile, profile.nativeQr = false → ∀ itemSize,
      renderQr profile content itemSize = .error .qrTooLong ↔
        profile.width.toNat < symbol.side + 8) ∧
    (symbol.side + 8 ≤ paperWidth.toNat →
      let size := min (min (max wanted.toNat 1) 16) (paperWidth.toNat / (symbol.side + 8))
      1 ≤ size ∧ (symbol.side + 8) * size ≤ paperWidth.toNat ∧
      ∃ bitmap, bitmap? content wanted.toNat paperWidth.toNat = some bitmap ∧
        symbol.IsShownBy size bitmap) := by
  refine ⟨?_, fun _ drawn itemSize => renderQr_eq_error_iff encoded drawn itemSize, ?_⟩
  · rw [bitmap?_eq encoded]
    by_cases narrow : paperWidth.toNat < symbol.side + 8 <;> simp [narrow]
  · intro wide size
    have sameSize : moduleSize symbol.side wanted.toNat paperWidth.toNat = size := rfl
    have someDots : size ≠ 0 := by
      rw [← sameSize, Ne, moduleSize_eq_zero_iff]
      exact Nat.not_lt.mpr wide
    refine ⟨Nat.pos_of_ne_zero someDots,
      moduleSize_mul_le symbol.side wanted.toNat paperWidth.toNat,
      symbol.magnify size, ?_, Symbol.isShownBy_magnify symbol size⟩
    rw [bitmap?_eq encoded, if_neg (Nat.not_lt.mpr wide), sameSize]

end Paper

/-- A symbol of 25 modules, on paper that is 70 dots wide: there is room for modules of two dots. -/
theorem webLink_shown :
    ∃ symbol, Symbol.encode? (Bytes.ofText "https://example.com") = some symbol ∧
      symbol.side = 25 ∧
      (∀ profile : Profile, profile.nativeQr = false → profile.width = 70 → ∀ itemSize,
        renderQr profile "https://example.com" itemSize ≠ .error .qrTooLong) ∧
      ∃ bitmap, bitmap? "https://example.com" 16 70 = some bitmap ∧
        symbol.IsShownBy 2 bitmap := by
  let layout : Layout := ⟨Bytes.ofText "https://example.com", 2, [⟨.byte, 19⟩]⟩
  have planned : Layout.of? (Bytes.ofText "https://example.com") = some layout := by decide +kernel
  have encoded : Symbol.encode? (Bytes.ofText "https://example.com") =
      some (Symbol.ofLayout layout) := by
    rw [Symbol.encode?, planned, Option.map_some]
  have side : (Symbol.ofLayout layout).side = 25 := Symbol.side_ofLayout layout
  obtain ⟨_, notTooLong, shown⟩ := bitmap_shows_symbol encoded 16 70
  rw [side] at notTooLong shown
  obtain ⟨_, _, bitmap, drawn, shows⟩ := shown (by decide)
  refine ⟨_, encoded, side, ?_, bitmap, drawn, shows⟩
  intro profile drawn width itemSize
  rw [Ne, notTooLong profile drawn itemSize, width]
  decide

end ThermalPrint.Qr
