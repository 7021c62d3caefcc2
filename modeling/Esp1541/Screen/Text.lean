import Esp1541.Screen.Framebuffer

/-!
# Text on Pi1541.h's Screen

`WriteChar` draws one character from a bitmap font, eight pixels wide and `fontHeight`
rows high, and `PrintText` lays out a string with it, one cell of `BitFontWth` pixels per
character and a new line for each `'\r'` or `'\n'`.

`WriteChar` stops at the first glyph row with `y + py > height`, so it still draws the row
`y + py = height`, the first row past the framebuffer. Its stores are all below
`(height + 1) * pitch`, and a character drawn at `y = height` whose glyph starts with a
lit pixel does store there (`writeChar_overruns_by_one_row`).

`PrintText` returns the number of characters before the terminating zero. Its cursors are
`int`s that start from the `uint32_t` `x` and `y`. The height it reports is `y` plus a font
height for every line break, modulo `2^32`, so a `"\r\n"` pair counts as two lines; while
no `xCursor` passes `INT_MAX`, the width is `MAX(0, xCursor)` at the end of its longest
line, so cells left of the screen, from an `x` past `2^31`, do not count
(`printText_measures`). When it
draws, each of its stores is a store of `DrawRectangle` or `WriteChar` at the cursor, so
none is further than one row past the framebuffer; when it only measures it stores nothing
(`printText_stores`).
-/

namespace Pi1541

/-! ## Fonts -/

/-- `BitFontHt`: the height of the VGA font. -/
def bitFontHt : Nat := 16

/-- `BitFontWth`: the width of a character cell. -/
def bitFontWth : Nat := 8

/-- `vga2screen`: the PETSCII codes of the shifted space and two card symbols, drawn from
the VGA font as a space, an `X` and an `O`. -/
def vga2screen (c : BitVec 8) : BitVec 8 :=
  if c = 160 then 0x20 else if c = 209 then 0x58 else if c = 215 then 0x4F else c

/-- What `WriteChar` and `PrintText` read from outside the file: `CBMFont` (null until a
character ROM is loaded), `avpriv_vga16_font`, and `petscii2screen`. -/
structure Fonts where
  cbmFont : Option (Nat → BitVec 8)
  vga16Font : Nat → BitVec 8
  petscii2screen : BitVec 8 → BitVec 8

/-- The font, the font height and the character code `WriteChar` draws `c` with. -/
def Fonts.select (fonts : Fonts) (petscii : Bool) (c : BitVec 8) :
    (Nat → BitVec 8) × Nat × BitVec 8 :=
  match petscii, fonts.cbmFont with
  | true, some cbmFont => (cbmFont, 8, fonts.petscii2screen c)
  | _, _ => (fonts.vga16Font, bitFontHt, if petscii then vga2screen c else c)

/-- The font height of `PrintText`: `if (petscii && CBMFont) fontHeight = 8; else
fontHeight = BitFontHt;`. -/
def Fonts.fontHeight (fonts : Fonts) (petscii : Bool) : Nat :=
  if petscii ∧ fonts.cbmFont.isSome then 8 else bitFontHt

/-! ## WriteChar -/

namespace Screen

/-- The `px` loop of `WriteChar` with `n` columns left, at `px = 8 - n`: a column at or past
the right edge is skipped by `continue` (and `b` is not shifted); otherwise the pixel is
plotted when the top bit of `b` is set, and `b` shifts left. -/
def charColumns (scr : Screen) (x y : Nat) (colour : RGBA) : Nat → BitVec 8 → List Store
  | 0, _ => []
  | n + 1, b =>
    if (x + (7 - n)) % 2 ^ 32 ≥ scr.width then scr.charColumns x y colour n b
    else (if b &&& 0x80 = 0x80 then scr.plotPixelFn (scr.pixelOffset (7 - n + x) y) colour
      else []) ++ scr.charColumns x y colour n (b <<< 1)

/-- The `py` loop of `WriteChar`: the rows of glyph `c` of a font, up to the first one with
`y + py > height`, where it returns. -/
def glyph (scr : Screen) (fontBitMap : Nat → BitVec 8) (fontHeight x y c : Nat)
    (colour : RGBA) : List Store :=
  ((List.range fontHeight).takeWhile fun py => !decide ((y + py) % 2 ^ 32 > scr.height)).flatMap
    fun py => scr.charColumns x (y + py) colour 8 (fontBitMap (c * fontHeight + py))

/-- `WriteChar`: nothing unless the screen is open; then the glyph of the font it selects. -/
def writeChar (scr : Screen) (fonts : Fonts) (petscii : Bool) (x y : Nat) (c : BitVec 8)
    (colour : RGBA) : List Store :=
  if scr.opened then
    match fonts.select petscii c with
    | (fontBitMap, fontHeight, c) => scr.glyph fontBitMap fontHeight x y c.toNat colour
  else []

variable {scr : Screen} {colour : RGBA}

theorem mem_charColumns {x y n : Nat} {b : BitVec 8} {w : Store}
    (hw : w ∈ scr.charColumns x y colour n b) :
    ∃ px < 8, (px + x) % 2 ^ 32 < scr.width ∧
      w ∈ scr.plotPixelFn (scr.pixelOffset (px + x) y) colour := by
  induction n generalizing b with
  | zero => cases hw
  | succ n ih =>
    simp only [charColumns] at hw
    split at hw
    · exact ih hw
    · rcases List.mem_append.1 hw with hw | hw
      · split at hw
        · exact ⟨7 - n, by omega, by omega, hw⟩
        · cases hw
      · exact ih hw

theorem mem_glyph {fontBitMap : Nat → BitVec 8} {fontHeight x y c : Nat} {w : Store}
    (hw : w ∈ scr.glyph fontBitMap fontHeight x y c colour) :
    ∃ py, (y + py) % 2 ^ 32 ≤ scr.height ∧
      w ∈ scr.charColumns x (y + py) colour 8 (fontBitMap (c * fontHeight + py)) := by
  obtain ⟨py, hpy, hw⟩ := List.mem_flatMap.1 hw
  have := List.mem_takeWhile_imp hpy
  simp only [gt_iff_lt, Bool.not_eq_true', decide_eq_false_iff_not, not_lt] at this
  exact ⟨py, this, hw⟩

theorem writeChar_eq {fonts : Fonts} {petscii : Bool} {x y : Nat} {c : BitVec 8}
    (ho : scr.opened = true) :
    scr.writeChar fonts petscii x y c colour =
      scr.glyph (fonts.select petscii c).1 (fonts.select petscii c).2.1 x y
        (fonts.select petscii c).2.2.toNat colour := by
  simp only [writeChar, ho, if_true]

/-- The first column of a glyph row is drawn when it is on the screen and lit. -/
theorem charColumns_first {x y : Nat} {b : BitVec 8} (hx : x % 2 ^ 32 < scr.width)
    (hb : b &&& 0x80 = 0x80) :
    scr.plotPixelFn (scr.pixelOffset x y) colour <+: scr.charColumns x y colour 8 b := by
  rw [show (8 : Nat) = 7 + 1 from rfl, charColumns]
  simp only [Nat.sub_self, Nat.add_zero, Nat.zero_add, not_le.2 hx, if_false, hb, if_true]
  exact List.prefix_append _ _

/-- The first row of a glyph is drawn when it is not below the screen. -/
theorem charColumns_prefix_glyph {fontBitMap : Nat → BitVec 8} {n x y c : Nat}
    (hy : y % 2 ^ 32 ≤ scr.height) :
    scr.charColumns x y colour 8 (fontBitMap (c * (n + 1))) <+:
      scr.glyph fontBitMap (n + 1) x y c colour := by
  simp only [glyph, List.range_succ_eq_map, List.takeWhile_cons, Nat.add_zero, gt_iff_lt,
    not_lt.2 hy, decide_False, Bool.not_false, if_true, List.flatMap_cons]
  exact List.prefix_append _ _

variable (h : scr.Sound)
include h

/-- A store of `WriteChar` is at most one row past the framebuffer. -/
theorem Sound.writeChar_lt {fonts : Fonts} {petscii : Bool} {x y : Nat} {c : BitVec 8}
    {w : Store} (hw : w ∈ scr.writeChar fonts petscii x y c colour) :
    w.1 < (scr.height + 1) * scr.pitch := by
  by_cases ho : scr.opened = true
  · rw [writeChar_eq ho] at hw
    obtain ⟨py, hpy, hw⟩ := mem_glyph hw
    obtain ⟨px, -, hpx, hw⟩ := mem_charColumns hw
    rw [← scr.pixelOffset_mod] at hw
    calc w.1 < ((y + py) % 2 ^ 32 + 1) * scr.pitch := h.store_lt_row hpx hpy hw
      _ ≤ (scr.height + 1) * scr.pitch := Nat.mul_le_mul_right _ (by omega)
  · simp [writeChar, ho] at hw

/-- A character drawn at the bottom edge whose glyph starts with a lit pixel stores a byte
of the row below the framebuffer. -/
theorem Sound.writeChar_row_height {fonts : Fonts} {petscii : Bool} {x : Nat} {c : BitVec 8}
    (ho : scr.opened = true) (hx : x < scr.width) (hh : 0 < (fonts.select petscii c).2.1)
    (hb : (fonts.select petscii c).1 ((fonts.select petscii c).2.2.toNat *
      (fonts.select petscii c).2.1) &&& 0x80 = 0x80) :
    ∃ w ∈ scr.writeChar fonts petscii x scr.height c colour, scr.height * scr.pitch ≤ w.1 := by
  have hx32 : x < 2 ^ 32 := hx.trans h.width_lt
  have hp : 0 < scr.pitch := lt_of_lt_of_le (Nat.mul_pos (by omega) h.bytes_pos) h.rowFits
  have hhe : scr.height < 2 ^ 32 :=
    calc scr.height ≤ scr.height * scr.pitch := Nat.le_mul_of_pos_right _ hp
      _ < (scr.height + 1) * scr.pitch := Nat.mul_lt_mul_of_pos_right (Nat.lt_succ_self _) hp
      _ < 2 ^ 32 := h.addressable
  obtain ⟨v, vs, hv⟩ := List.exists_cons_of_length_pos
    (by rw [h.length_pixelBytes]; exact h.bytes_pos : 0 < (pixelBytes scr.bpp colour).length)
  obtain ⟨n, hn⟩ : ∃ n, (fonts.select petscii c).2.1 = n + 1 :=
    ⟨_, (Nat.succ_pred_eq_of_pos hh).symm⟩
  rw [hn] at hb
  refine ⟨(scr.pixelOffset x scr.height, v), ?_, ?_⟩
  · rw [writeChar_eq ho, hn]
    refine ((charColumns_first (by rwa [Nat.mod_eq_of_lt hx32]) hb).trans
      (charColumns_prefix_glyph (by rw [Nat.mod_eq_of_lt hhe]))).subset ?_
    rw [h.plotPixelFn_eq, hv, storeBytes]
    exact List.mem_cons_self _ _
  · simp only [h.pixelOffset_eq hx.le le_rfl]
    omega

/-- `WriteChar` draws at most one row past the framebuffer, and does draw there: a
character at the bottom edge `y = height` whose glyph starts with a lit pixel stores into
the row below the last. -/
theorem writeChar_overruns_by_one_row (fonts : Fonts) (petscii : Bool) (x y : Nat)
    (c : BitVec 8) (colour : RGBA) :
    (∀ w ∈ scr.writeChar fonts petscii x y c colour, w.1 < (scr.height + 1) * scr.pitch) ∧
    (scr.opened = true → x < scr.width → 0 < (fonts.select petscii c).2.1 →
      (fonts.select petscii c).1 ((fonts.select petscii c).2.2.toNat *
        (fonts.select petscii c).2.1) &&& 0x80 = 0x80 →
      ∃ w ∈ scr.writeChar fonts petscii x scr.height c colour, scr.height * scr.pitch ≤ w.1) :=
  ⟨fun _ hw => h.writeChar_lt hw, fun ho hx hh hb => h.writeChar_row_height ho hx hh hb⟩

omit h in
/-- On a 16-bit screen of two rows of four pixels, a block character written at `y = 2`
stores into the third row, which the framebuffer does not have. -/
theorem writeChar_overruns_by_one_row_block :
    (⟨4, 2, 16, 8, true⟩ : Screen).Sound ∧
      ∃ w ∈ (⟨4, 2, 16, 8, true⟩ : Screen).writeChar ⟨none, fun _ => 0xFF, id⟩ false 0 2 0x41
        0xFFFFFFFF, 2 * 8 ≤ w.1 :=
  have hs : (⟨4, 2, 16, 8, true⟩ : Screen).Sound := ⟨by decide, by decide, by decide⟩
  ⟨hs, (writeChar_overruns_by_one_row hs _ false 0 0 0x41 0xFFFFFFFF).2 rfl (by decide)
    (by decide) (by decide)⟩

end Screen

/-! ## PrintText -/

/-- `(int)v` for a `uint32_t` `v`: the two's complement reading GCC gives the conversion. -/
def toI32 (v : Nat) : Int := if v % 2 ^ 32 < 2 ^ 31 then v % 2 ^ 32 else v % 2 ^ 32 - 2 ^ 32

/-- `(uint32_t)v` for an `int` `v`: `v` modulo `2^32`. -/
def toU32 (v : Int) : Nat := (v % 2 ^ 32).toNat

theorem toU32_toI32 (v : Nat) : toU32 (toI32 v) = v % 2 ^ 32 := by
  unfold toU32 toI32; split <;> omega

theorem toU32_lt (v : Int) : toU32 v < 2 ^ 32 := by
  unfold toU32; omega

/-- The locals of `PrintText`'s loop, and the stores it has made so far. The cursors are
`int`; `len` is an `int` too, and counts characters of a string in memory. -/
structure TextCursor where
  xCursor : Int
  yCursor : Int
  len : Nat
  width : Nat
  stores : List Store
  deriving Repr

/-- `*height = yCursor`, into a `uint32_t`. -/
def TextCursor.height (st : TextCursor) : Nat := toU32 st.yCursor

/-- `'\r'` or `'\n'`: the characters `PrintText` takes for a line break. -/
def isLineBreak (c : BitVec 8) : Bool := c == 0x0D || c == 0x0A

namespace Screen

/-- One pass of `PrintText`'s loop, on the character `c`. Outside a line break: unless only
measuring, `DrawRectangle(xCursor, yCursor, xCursor + BitFontWth, yCursor + fontHeight)`
and `WriteChar` at the cursor, whose `int`s reach their `uint32_t` parameters modulo `2^32`
(`yCursor + fontHeight` is already a `uint32_t` sum); then `xCursor += BitFontWth`, an `int`
sum (undefined past `INT_MAX`, where the model keeps counting), and `*width = MAX(*width,
(uint32_t)MAX(0, xCursor))`. At a line break: `xCursor = x`, and `yCursor += fontHeight`,
a `uint32_t` sum stored back into the `int`. -/
def printChar (scr : Screen) (fonts : Fonts) (petscii : Bool) (x : Nat)
    (txtColour bkColour : RGBA) (measureOnly : Bool) (st : TextCursor) (c : BitVec 8) :
    TextCursor :=
  if c ≠ 0x0D ∧ c ≠ 0x0A then
    { xCursor := st.xCursor + bitFontWth
      yCursor := st.yCursor
      len := st.len + 1
      width := max st.width (toU32 (max 0 (st.xCursor + bitFontWth)))
      stores := if measureOnly then st.stores else
        st.stores ++ scr.drawRectangle (toU32 st.xCursor) (toU32 st.yCursor)
          (toU32 (st.xCursor + bitFontWth)) ((toU32 st.yCursor + fonts.fontHeight petscii) % 2 ^ 32)
          bkColour ++
          scr.writeChar fonts petscii (toU32 st.xCursor) (toU32 st.yCursor) c txtColour }
  else
    { st with
      xCursor := toI32 x
      yCursor := toI32 (toU32 st.yCursor + fonts.fontHeight petscii)
      len := st.len + 1 }

/-- `PrintText`: the loop over the characters before the terminating zero, from
`xCursor = x` and `yCursor = y`. It returns `len`, and `*width` and `*height` when they are
asked for. -/
def printText (scr : Screen) (fonts : Fonts) (petscii : Bool) (x y : Nat) (ptr : List (BitVec 8))
    (txtColour bkColour : RGBA) (measureOnly : Bool) : TextCursor :=
  (ptr.takeWhile (· != 0)).foldl (scr.printChar fonts petscii x txtColour bkColour measureOnly)
    ⟨toI32 x, toI32 y, 0, 0, []⟩

/-- `MeasureText`: `PrintText(petscii, 0, 0, ptr, 0, 0, true, width, height)`. -/
def measureText (scr : Screen) (fonts : Fonts) (petscii : Bool) (ptr : List (BitVec 8)) :
    TextCursor :=
  scr.printText fonts petscii 0 0 ptr 0 0 true

end Screen

/-- The `*width` a line of `n` characters started at `x` reaches: `MAX(0, xCursor)` after its
last character; a line with none leaves `*width` alone. -/
def lineEdge (x n : Nat) : Nat := if n = 0 then 0 else (toI32 x + bitFontWth * n).toNat

/-- The right edge of the longest of `lines`, each started at `x`. -/
def widestEdge (x : Nat) (lines : List (List (BitVec 8))) : Nat :=
  (lines.map fun l => lineEdge x l.length).foldr max 0

/-- `widestEdge` when the first line already holds `m` characters. -/
def widestEdgeFrom (x m : Nat) : List (List (BitVec 8)) → Nat
  | [] => 0
  | l :: ls => max (lineEdge x (m + l.length)) (widestEdge x ls)

theorem widestEdgeFrom_zero (x : Nat) (lines : List (List (BitVec 8))) :
    widestEdgeFrom x 0 lines = widestEdge x lines := by
  cases lines <;> simp [widestEdgeFrom, widestEdge]

/-- Lines further right reach further. -/
theorem lineEdge_mono (x : Nat) {m n : Nat} (h : m ≤ n) : lineEdge x m ≤ lineEdge x n := by
  unfold lineEdge bitFontWth; split_ifs <;> omega

namespace Screen

variable (scr : Screen) (fonts : Fonts) (petscii : Bool) (x : Nat) (txtColour bkColour : RGBA)
  (measureOnly : Bool)

theorem printChar_of_lineBreak {st : TextCursor} {c : BitVec 8} (hc : isLineBreak c = true) :
    scr.printChar fonts petscii x txtColour bkColour measureOnly st c =
      { st with
        xCursor := toI32 x
        yCursor := toI32 (toU32 st.yCursor + fonts.fontHeight petscii)
        len := st.len + 1 } := by
  simp only [isLineBreak, Bool.or_eq_true, beq_iff_eq] at hc
  simp only [printChar, if_neg (not_and_or.2 (hc.imp not_not_intro not_not_intro))]

theorem printChar_of_printable {st : TextCursor} {c : BitVec 8} (hc : isLineBreak c = false) :
    scr.printChar fonts petscii x txtColour bkColour measureOnly st c =
      { xCursor := st.xCursor + bitFontWth
        yCursor := st.yCursor
        len := st.len + 1
        width := max st.width (toU32 (max 0 (st.xCursor + bitFontWth)))
        stores := if measureOnly then st.stores else
          st.stores ++ scr.drawRectangle (toU32 st.xCursor) (toU32 st.yCursor)
            (toU32 (st.xCursor + bitFontWth))
            ((toU32 st.yCursor + fonts.fontHeight petscii) % 2 ^ 32) bkColour ++
            scr.writeChar fonts petscii (toU32 st.xCursor) (toU32 st.yCursor) c txtColour } := by
  simp only [isLineBreak, Bool.or_eq_false_iff, beq_eq_false_iff_ne] at hc
  simp only [printChar, if_pos hc]

theorem len_foldl_printChar (s : List (BitVec 8)) (st : TextCursor) :
    (s.foldl (scr.printChar fonts petscii x txtColour bkColour measureOnly) st).len =
      st.len + s.length := by
  induction s generalizing st with
  | nil => rfl
  | cons c s ih =>
    rw [List.foldl_cons, ih]
    cases hc : isLineBreak c
    · rw [printChar_of_printable _ _ _ _ _ _ _ hc]; dsimp only [List.length_cons]; omega
    · rw [printChar_of_lineBreak _ _ _ _ _ _ _ hc]; dsimp only [List.length_cons]; omega

/-- The `uint32_t` height moves down a font height at each line break, modulo `2^32`. -/
theorem height_foldl_printChar (s : List (BitVec 8)) (st : TextCursor) :
    (s.foldl (scr.printChar fonts petscii x txtColour bkColour measureOnly) st).height =
      (st.height + fonts.fontHeight petscii * s.countP isLineBreak) % 2 ^ 32 := by
  induction s generalizing st with
  | nil => simp only [List.foldl_nil, List.countP_nil, Nat.mul_zero, Nat.add_zero,
      TextCursor.height, Nat.mod_eq_of_lt (toU32_lt _)]
  | cons c s ih =>
    rw [List.foldl_cons, ih, List.countP_cons]
    cases hc : isLineBreak c
    · rw [printChar_of_printable _ _ _ _ _ _ _ hc]; rfl
    · rw [printChar_of_lineBreak _ _ _ _ _ _ _ hc]
      simp only [TextCursor.height, toU32_toI32, if_true, Nat.mul_succ]
      omega

/-- The loop's `*width`: from a cursor `m` cells into a line whose edge `*width` already
covers, the widest edge of the lines still to come, as long as no `xCursor` passes
`INT_MAX`. -/
theorem width_foldl_printChar (s : List (BitVec 8)) (st : TextCursor) (m : Nat)
    (hx : st.xCursor = toI32 x + bitFontWth * m) (hw : lineEdge x m ≤ st.width)
    (hmax : toI32 x + bitFontWth * (m + s.length) < 2 ^ 31) :
    (s.foldl (scr.printChar fonts petscii x txtColour bkColour measureOnly) st).width =
      max st.width (widestEdgeFrom x m (s.splitOnP isLineBreak)) := by
  induction s generalizing st m with
  | nil => simp [widestEdgeFrom, widestEdge, hw]
  | cons c s ih =>
    rw [List.foldl_cons, List.splitOnP_cons]
    simp only [List.length_cons, bitFontWth] at hx hmax ih
    cases hc : isLineBreak c
    · obtain ⟨l, ls, hls⟩ := List.exists_cons_of_ne_nil (List.splitOnP_ne_nil isLineBreak s)
      have hedge : toU32 (max 0 (st.xCursor + bitFontWth)) = lineEdge x (m + 1) := by
        simp only [toU32, lineEdge, bitFontWth, hx, Nat.add_one_ne_zero, if_false]; omega
      have hmono := lineEdge_mono x (Nat.le_add_right (m + 1) l.length)
      rw [printChar_of_printable _ _ _ _ _ _ _ hc, ih _ (m + 1)
        (by simp only [hx, bitFontWth]; omega) (by rw [hedge]; exact le_max_right _ _)
        (by omega), hls, hedge]
      simp only [Bool.false_eq_true, if_false, List.modifyHead_cons, widestEdgeFrom,
        List.length_cons] at hmono ⊢
      rw [show m + (l.length + 1) = m + 1 + l.length by omega]
      omega
    · rw [printChar_of_lineBreak _ _ _ _ _ _ _ hc, ih _ 0 (by simp) (by simp [lineEdge])
        (by omega), if_pos rfl, widestEdgeFrom_zero]
      simp only [widestEdgeFrom, List.length_nil, Nat.add_zero]
      omega

/-- A carriage return and a line feed are two line breaks: `"A\r\nB"` measures four
characters, two lines down, one cell wide. -/
example : (⟨640, 480, 32, 2560, true⟩ : Screen).measureText ⟨none, fun _ => 0, id⟩ false
    [0x41, 0x0D, 0x0A, 0x42, 0, 0x43] = ⟨8, 32, 4, 8, []⟩ := rfl

/-- From `x = 2^32 - 16`, the `int` `-16`, `"ABC"` reaches `*width = 8`: `MAX(0, xCursor)`
keeps the cells left of the screen from counting. -/
example : ((⟨640, 480, 32, 2560, true⟩ : Screen).printText ⟨none, fun _ => 0, id⟩ false
    (2 ^ 32 - 16) 0 [0x41, 0x42, 0x43, 0] 0 0 true).width = 8 := by decide

theorem stores_foldl_printChar_measure (s : List (BitVec 8)) (st : TextCursor) :
    (s.foldl (scr.printChar fonts petscii x txtColour bkColour true) st).stores = st.stores := by
  induction s generalizing st with
  | nil => rfl
  | cons c s ih =>
    rw [List.foldl_cons, ih]
    cases hc : isLineBreak c
    · rw [printChar_of_printable _ _ _ _ _ _ _ hc]; rfl
    · rw [printChar_of_lineBreak _ _ _ _ _ _ _ hc]

theorem stores_foldl_printChar_lt {scr : Screen} (h : scr.Sound) (s : List (BitVec 8))
    (st : TextCursor) (hst : ∀ w ∈ st.stores, w.1 < (scr.height + 1) * scr.pitch) :
    ∀ w ∈ (s.foldl (scr.printChar fonts petscii x txtColour bkColour measureOnly) st).stores,
      w.1 < (scr.height + 1) * scr.pitch := by
  induction s generalizing st with
  | nil => exact hst
  | cons c s ih =>
    rw [List.foldl_cons]
    refine ih _ ?_
    cases hc : isLineBreak c
    · rw [printChar_of_printable _ _ _ _ _ _ _ hc]
      split
      · exact hst
      · intro w hw
        rcases List.mem_append.1 hw with hw | hw
        · rcases List.mem_append.1 hw with hw | hw
          · exact hst w hw
          · exact (h.drawRectangle_within hw).trans_le (Nat.mul_le_mul_right _ (Nat.le_succ _))
        · exact h.writeChar_lt hw
    · rwa [printChar_of_lineBreak _ _ _ _ _ _ _ hc]

/-- `PrintText` stores nothing when it only measures, and when it draws, nothing further
than one row past the framebuffer. -/
theorem printText_stores {scr : Screen} (h : scr.Sound) (y : Nat) (ptr : List (BitVec 8)) :
    (scr.printText fonts petscii x y ptr txtColour bkColour true).stores = [] ∧
    ∀ w ∈ (scr.printText fonts petscii x y ptr txtColour bkColour measureOnly).stores,
      w.1 < (scr.height + 1) * scr.pitch :=
  ⟨stores_foldl_printChar_measure _ _ _ _ _ _ _ _,
    stores_foldl_printChar_lt _ _ _ _ _ _ h _ _ (fun _ hw => absurd hw (List.not_mem_nil _))⟩

/-- On a 32-bit screen of 640 by 480, `"A\r\nB"` printed in the bottom row stays within one
row past the framebuffer. -/
theorem printText_stores_bottom :
    (⟨640, 480, 32, 2560, true⟩ : Screen).Sound ∧
      ∀ w ∈ ((⟨640, 480, 32, 2560, true⟩ : Screen).printText ⟨none, fun _ => 0xFF, id⟩ false
        0 464 [0x41, 0x0D, 0x0A, 0x42, 0] 0xFFFFFFFF 0 false).stores, w.1 < 481 * 2560 :=
  have hs : (⟨640, 480, 32, 2560, true⟩ : Screen).Sound := ⟨by decide, by decide, by decide⟩
  ⟨hs, (printText_stores _ _ _ 0xFFFFFFFF 0 false hs 464 [0x41, 0x0D, 0x0A, 0x42, 0]).2⟩

end Screen

end Pi1541
