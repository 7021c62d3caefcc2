import Mathlib.Data.BitVec
import Mathlib.Logic.Function.Basic

/-!
# The framebuffer of Pi1541.h's Screen

`Screen` draws into a linear framebuffer the VideoCore mailbox hands to `Open`: `height`
rows of `pitch` bytes, each row holding `width` pixels of `bpp >> 3` bytes. Every drawing
routine ends in `plotPixelFn`, which `Open` chose from the depth: a 32-bit word, three
bytes blue-green-red, a 16-bit RGB565 value, or one byte. Here a routine is the list of
byte stores it makes, in order, and `applyStores` does them on a framebuffer.

A mode is `Sound` when its depth is one `Open` knows, a row's pixels fit in its pitch and
the framebuffer (with one row to spare) is addressable by the `uint32_t` offsets the code
computes. Then distinct pixels own disjoint bytes (`pixel_inj`), and `DrawRectangle`
paints exactly the rectangle that `ClipRect` leaves: each of its pixels reads back the
colour's bytes, and every other byte, those past the framebuffer included, keeps its value
(`drawRectangle_paints_clipped_rectangle`).
-/

namespace Pi1541

/-! ## Colours and pixel stores -/

/-- `RGBA`: a `uint32_t` colour, red in the low byte. -/
abbrev RGBA := BitVec 32

/-- `RED(colour)`: `(uint8_t)(colour & 0xFF)`. -/
def red (colour : RGBA) : BitVec 8 := colour.setWidth 8

/-- `GREEN(colour)`: `(uint8_t)((colour >> 8) & 0xFF)`. -/
def green (colour : RGBA) : BitVec 8 := (colour >>> 8).setWidth 8

/-- `BLUE(colour)`: `(uint8_t)((colour >> 16) & 0xFF)`. -/
def blue (colour : RGBA) : BitVec 8 := (colour >>> 16).setWidth 8

/-- `ALPHA(colour)`: `(uint8_t)((colour >> 24) & 0xFF)`. -/
def alpha (colour : RGBA) : BitVec 8 := (colour >>> 24).setWidth 8

/-- A byte store `framebuffer[offset] = value`. -/
abbrev Store := Nat × BitVec 8

/-- The bytes `bs` stored from `offset` on: a little-endian store of a wider value. -/
def storeBytes : Nat → List (BitVec 8) → List Store
  | _, [] => []
  | offset, b :: bs => (offset, b) :: storeBytes (offset + 1) bs

/-- `PlotPixel32`: the word store `*(RGBA*)&framebuffer[pixel_offset] = Colour`. -/
def plotPixel32 (pixelOffset : Nat) (colour : RGBA) : List Store :=
  storeBytes pixelOffset [red colour, green colour, blue colour, alpha colour]

/-- `PlotPixel24`: blue, green and red at three successive bytes. -/
def plotPixel24 (pixelOffset : Nat) (colour : RGBA) : List Store :=
  storeBytes pixelOffset [blue colour, green colour, red colour]

/-- The RGB565 value `PlotPixel16` stores: `((RED >> 3) << 11) | ((GREEN >> 2) << 5) | (BLUE >> 3)`. -/
def rgb565 (colour : RGBA) : BitVec 16 :=
  ((red colour >>> 3).setWidth 16 <<< 11) ||| ((green colour >>> 2).setWidth 16 <<< 5) |||
    (blue colour >>> 3).setWidth 16

/-- `PlotPixel16`: the `unsigned short` store of `rgb565 colour`. -/
def plotPixel16 (pixelOffset : Nat) (colour : RGBA) : List Store :=
  storeBytes pixelOffset [(rgb565 colour).setWidth 8, (rgb565 colour >>> 8).setWidth 8]

/-- `PlotPixel8`: the red byte. -/
def plotPixel8 (pixelOffset : Nat) (colour : RGBA) : List Store :=
  storeBytes pixelOffset [red colour]

/-- The bytes one pixel of `colour` takes at depth `bpp`, in the order they are stored. -/
def pixelBytes (bpp : Nat) (colour : RGBA) : List (BitVec 8) :=
  match bpp with
  | 32 => [red colour, green colour, blue colour, alpha colour]
  | 24 => [blue colour, green colour, red colour]
  | 8 => [red colour]
  | _ => [(rgb565 colour).setWidth 8, (rgb565 colour >>> 8).setWidth 8]

/-! ## The screen -/

/-- The members of `Screen` its drawing code reads: the mode the mailbox granted, and `opened`. -/
structure Screen where
  width : Nat
  height : Nat
  bpp : Nat
  pitch : Nat
  opened : Bool
  deriving DecidableEq, Repr

/-- The framebuffer's bytes, by offset from `framebuffer`. -/
abbrev Framebuffer := Nat → BitVec 8

/-- The stores `ws` done one after another on `fb`. -/
def applyStores (ws : List Store) (fb : Framebuffer) : Framebuffer :=
  ws.foldl (fun fb w => Function.update fb w.1 w.2) fb

namespace Screen

/-- The size `Open` asks the mailbox for: the desired one, clamped to 320..1024 by 240..720.
The mode the mailbox then grants is the screen's. -/
def openSize (widthDesired heightDesired : Nat) : Nat × Nat :=
  (min (max widthDesired 320) 1024, min (max heightDesired 240) 720)

/-- `plotPixelFn`, as the `switch (bpp)` of `Open` sets it: 16 bits for a depth it does not know. -/
def plotPixelFn (scr : Screen) : Nat → RGBA → List Store :=
  match scr.bpp with
  | 32 => plotPixel32
  | 24 => plotPixel24
  | 8 => plotPixel8
  | _ => plotPixel16

/-- `x * (bpp >> 3) + y * pitch`, in `uint32_t`: the offset where pixel `(x, y)` starts. -/
def pixelOffset (scr : Screen) (x y : Nat) : Nat :=
  (x * (scr.bpp >>> 3) + y * scr.pitch) % 2 ^ 32

/-- `ClipRect` on a column: `if (x > width) x = width;`. -/
def clipX (scr : Screen) (x : Nat) : Nat := min x scr.width

/-- `ClipRect` on a row: `if (y > height) y = height;`. -/
def clipY (scr : Screen) (y : Nat) : Nat := min y scr.height

/-- `DrawRectangle`: after `ClipRect`, row by row, the pixels `x1 ≤ x < x2` of the rows
`y1 ≤ y < y2`. -/
def drawRectangle (scr : Screen) (x1 y1 x2 y2 : Nat) (colour : RGBA) : List Store :=
  (List.range' (scr.clipY y1) (scr.clipY y2 - scr.clipY y1)).flatMap fun y =>
    (List.range' (scr.clipX x1) (scr.clipX x2 - scr.clipX x1)).flatMap fun x =>
      scr.plotPixelFn (scr.pixelOffset x y) colour

/-- `Clear`: `DrawRectangle(0, 0, width, height, colour)`. -/
def clear (scr : Screen) (colour : RGBA) : List Store :=
  scr.drawRectangle 0 0 scr.width scr.height colour

/-- `PlotPixel`: one pixel, dropped unless it is on the screen. The code's `x < 0 || y < 0`
never holds of its `uint32_t` arguments. -/
def plotPixel (scr : Screen) (x y : Nat) (colour : RGBA) : List Store :=
  if x ≥ scr.width ∨ y ≥ scr.height then [] else scr.plotPixelFn (scr.pixelOffset x y) colour

/-- `PlotImage`: the `w` by `h` pixels of `image`, row by row, each through `PlotPixel` at
`(x + px, y + py)`; the `int` coordinates reach `PlotPixel` as `uint32_t`. -/
def plotImage (scr : Screen) (image : Nat → RGBA) (x y w h : Int) : List Store :=
  (List.range h.toNat).flatMap fun py => (List.range w.toNat).flatMap fun px =>
    scr.plotPixel ((x + px) % 2 ^ 32).toNat ((y + py) % 2 ^ 32).toNat (image (py * w.toNat + px))

/-- The pixels `DrawRectangle` paints: those of the rectangle `ClipRect` leaves. -/
def InRect (scr : Screen) (x1 y1 x2 y2 x y : Nat) : Prop :=
  scr.clipX x1 ≤ x ∧ x < scr.clipX x2 ∧ scr.clipY y1 ≤ y ∧ y < scr.clipY y2

instance (scr : Screen) (x1 y1 x2 y2 x y : Nat) : Decidable (scr.InRect x1 y1 x2 y2 x y) :=
  inferInstanceAs (Decidable (_ ∧ _))

/-- The bytes of pixel `(x, y)` in `fb`. -/
def readPixel (scr : Screen) (fb : Framebuffer) (x y : Nat) : List (BitVec 8) :=
  (List.range (scr.bpp >>> 3)).map fun k => fb (scr.pixelOffset x y + k)

/-- A mode the drawing code is written for: a depth `Open` knows, rows long enough for
their pixels, and a framebuffer with a row to spare below `2^32`. -/
structure Sound (scr : Screen) : Prop where
  depth : scr.bpp = 8 ∨ scr.bpp = 16 ∨ scr.bpp = 24 ∨ scr.bpp = 32
  rowFits : scr.width * (scr.bpp >>> 3) ≤ scr.pitch
  addressable : (scr.height + 1) * scr.pitch < 2 ^ 32

end Screen

/-! ## Stores -/

/-- A store of `storeBytes` puts the byte of its index at its offset. -/
theorem mem_storeBytes {w : Store} (offset : Nat) (bs : List (BitVec 8)) :
    w ∈ storeBytes offset bs ↔ offset ≤ w.1 ∧ bs[w.1 - offset]? = some w.2 := by
  induction bs generalizing offset with
  | nil => simp [storeBytes]
  | cons b bs ih =>
    obtain ⟨a, v⟩ := w
    rw [storeBytes, List.mem_cons, ih, Prod.mk.injEq]
    rcases Nat.lt_trichotomy a offset with h | rfl | h
    · simp [h.ne, show ¬offset ≤ a by omega, show ¬offset + 1 ≤ a by omega]
    · simp [eq_comm]
    · obtain ⟨d, rfl⟩ := Nat.exists_eq_add_of_lt h
      simp [show offset + d + 1 - offset = d + 1 by omega, show offset + d + 1 ≠ offset by omega,
        h.le]

@[simp]
theorem length_storeBytes (offset : Nat) (bs : List (BitVec 8)) :
    (storeBytes offset bs).length = bs.length := by
  induction bs generalizing offset <;> simp [storeBytes, *]

/-- A byte no store names keeps its value. -/
theorem applyStores_of_forall_ne {ws : List Store} {a : Nat} (h : ∀ w ∈ ws, w.1 ≠ a)
    (fb : Framebuffer) : applyStores ws fb a = fb a := by
  induction ws generalizing fb with
  | nil => rfl
  | cons w ws ih =>
    simp only [List.mem_cons, forall_eq_or_imp] at h
    rw [applyStores, List.foldl_cons, ← applyStores, ih h.2, Function.update_noteq h.1.symm]

/-- A byte every store to which writes `v`, and some store does, ends as `v`. -/
theorem applyStores_of_mem {ws : List Store} {a : Nat} {v : BitVec 8} (hmem : (a, v) ∈ ws)
    (h : ∀ w ∈ ws, w.1 = a → w.2 = v) (fb : Framebuffer) : applyStores ws fb a = v := by
  induction ws generalizing fb with
  | nil => cases hmem
  | cons w ws ih =>
    rw [applyStores, List.foldl_cons, ← applyStores]
    by_cases hws : ∃ w ∈ ws, w.1 = a
    · obtain ⟨w', hw', rfl⟩ := hws
      exact ih (by simpa [← h w' (.tail _ hw') rfl] using hw')
        (fun w hw => h w (.tail _ hw)) _
    · push_neg at hws
      rcases List.mem_cons.1 hmem with rfl | hin
      · rw [applyStores_of_forall_ne hws, Function.update_same]
      · exact absurd rfl (hws _ hin)

/-! ## Pixel layout of a sound mode -/

/-- The offset depends on the coordinates only modulo `2^32`, as `uint32_t` arithmetic does. -/
theorem Screen.pixelOffset_mod (scr : Screen) (x y : Nat) :
    scr.pixelOffset (x % 2 ^ 32) (y % 2 ^ 32) = scr.pixelOffset x y := by
  simp only [Screen.pixelOffset, Nat.add_mod (_ * _), Nat.mul_mod (_ % _), Nat.mod_mod]
  simp only [← Nat.mul_mod, ← Nat.add_mod]

/-- Two places in mixed radix `m` agree only digit by digit. -/
theorem add_mul_inj {m a c : Nat} (y y' : Nat) (ha : a < m) (hc : c < m) (h : a + y * m = c + y' * m) :
    a = c ∧ y = y' := by
  have hm : 0 < m := by omega
  constructor
  · simpa [Nat.add_mul_mod_self_right, Nat.mod_eq_of_lt ha, Nat.mod_eq_of_lt hc] using
      congrArg (· % m) h
  · simpa [Nat.add_mul_div_right _ _ hm, Nat.div_eq_of_lt ha, Nat.div_eq_of_lt hc] using
      congrArg (· / m) h

namespace Screen.Sound

variable {scr : Screen} (h : scr.Sound)
include h

theorem bytes_pos : 0 < scr.bpp >>> 3 := by
  rcases h.depth with h | h | h | h <;> simp [h]

theorem length_pixelBytes (colour : RGBA) : (pixelBytes scr.bpp colour).length = scr.bpp >>> 3 := by
  rcases h.depth with h | h | h | h <;> simp [h, pixelBytes]

theorem plotPixelFn_eq (offset : Nat) (colour : RGBA) :
    scr.plotPixelFn offset colour = storeBytes offset (pixelBytes scr.bpp colour) := by
  rcases h.depth with h | h | h | h <;> simp [Screen.plotPixelFn, h, pixelBytes] <;> rfl

theorem width_lt : scr.width < 2 ^ 32 :=
  calc scr.width ≤ scr.width * (scr.bpp >>> 3) := Nat.le_mul_of_pos_right _ h.bytes_pos
    _ ≤ scr.pitch := h.rowFits
    _ ≤ (scr.height + 1) * scr.pitch := Nat.le_mul_of_pos_left _ (Nat.succ_pos _)
    _ < 2 ^ 32 := h.addressable

/-- A byte of a visible column lies in its row. -/
theorem column_lt_pitch {x k : Nat} (hx : x < scr.width) (hk : k < scr.bpp >>> 3) :
    x * (scr.bpp >>> 3) + k < scr.pitch :=
  calc x * (scr.bpp >>> 3) + k < (x + 1) * (scr.bpp >>> 3) := by rw [Nat.succ_mul]; omega
    _ ≤ scr.width * (scr.bpp >>> 3) := Nat.mul_le_mul_right _ hx
    _ ≤ scr.pitch := h.rowFits

/-- Offsets up to the row below the last do not wrap. -/
theorem pixelOffset_eq {x y : Nat} (hx : x ≤ scr.width) (hy : y ≤ scr.height) :
    scr.pixelOffset x y = x * (scr.bpp >>> 3) + y * scr.pitch := by
  have hxb : x * (scr.bpp >>> 3) ≤ scr.pitch := (Nat.mul_le_mul_right _ hx).trans h.rowFits
  have hyp : y * scr.pitch ≤ scr.height * scr.pitch := Nat.mul_le_mul_right _ hy
  have := h.addressable
  rw [Nat.succ_mul] at this
  exact Nat.mod_eq_of_lt (by omega)

/-- Distinct visible pixels own disjoint bytes. -/
theorem pixel_inj {x y k x' y' k' : Nat} (hx : x < scr.width) (hx' : x' < scr.width)
    (hk : k < scr.bpp >>> 3) (hk' : k' < scr.bpp >>> 3)
    (he : x * (scr.bpp >>> 3) + y * scr.pitch + k = x' * (scr.bpp >>> 3) + y' * scr.pitch + k') :
    x = x' ∧ y = y' ∧ k = k' := by
  obtain ⟨hrow, rfl⟩ := add_mul_inj y y' (h.column_lt_pitch hx hk)
    (h.column_lt_pitch hx' hk') (by omega)
  obtain ⟨rfl, rfl⟩ := add_mul_inj x x' hk hk' (by omega)
  exact ⟨rfl, rfl, rfl⟩

/-- A store of pixel `(x, y)`, at most one row or one column past the screen, is one of
the colour's bytes at its place. -/
theorem mem_plotPixelFn {x y : Nat} {colour : RGBA} (hx : x ≤ scr.width) (hy : y ≤ scr.height)
    {w : Store} (hw : w ∈ scr.plotPixelFn (scr.pixelOffset x y) colour) :
    ∃ k < scr.bpp >>> 3, w.1 = x * (scr.bpp >>> 3) + y * scr.pitch + k ∧
      (pixelBytes scr.bpp colour)[k]? = some w.2 := by
  rw [h.plotPixelFn_eq, mem_storeBytes, h.pixelOffset_eq hx hy] at hw
  refine ⟨w.1 - (x * (scr.bpp >>> 3) + y * scr.pitch), ?_, by omega, hw.2⟩
  have := (List.getElem?_eq_some_iff.1 hw.2).1
  rwa [h.length_pixelBytes] at this

/-- A store of a visible column of row `y` is in that row. -/
theorem store_lt_row {x y : Nat} {colour : RGBA} (hx : x < scr.width) (hy : y ≤ scr.height)
    {w : Store} (hw : w ∈ scr.plotPixelFn (scr.pixelOffset x y) colour) :
    w.1 < (y + 1) * scr.pitch := by
  obtain ⟨k, hk, hwk, -⟩ := h.mem_plotPixelFn hx.le hy hw
  have := h.column_lt_pitch hx hk
  rw [Nat.succ_mul]
  omega

/-- A byte of a pixel on the screen is in the framebuffer. -/
theorem pixel_lt_framebuffer {x y k : Nat} (hx : x < scr.width) (hy : y < scr.height)
    (hk : k < scr.bpp >>> 3) : scr.pixelOffset x y + k < scr.height * scr.pitch := by
  rw [h.pixelOffset_eq hx.le hy.le]
  have := h.column_lt_pitch hx hk
  have : (y + 1) * scr.pitch ≤ scr.height * scr.pitch := Nat.mul_le_mul_right _ hy
  rw [Nat.succ_mul] at this
  omega

end Screen.Sound

/-! ## DrawRectangle -/

namespace Screen

variable {scr : Screen} {x1 y1 x2 y2 : Nat} {colour : RGBA}

theorem mem_drawRectangle {w : Store} : w ∈ scr.drawRectangle x1 y1 x2 y2 colour ↔
    ∃ x y, scr.InRect x1 y1 x2 y2 x y ∧ w ∈ scr.plotPixelFn (scr.pixelOffset x y) colour := by
  simp only [drawRectangle, InRect, List.mem_flatMap, List.mem_range'_1]
  constructor
  · rintro ⟨y, ⟨hy1, hy2⟩, x, ⟨hx1, hx2⟩, hw⟩
    exact ⟨x, y, ⟨hx1, by omega, hy1, by omega⟩, hw⟩
  · rintro ⟨x, y, ⟨hx1, hx2, hy1, hy2⟩, hw⟩
    exact ⟨y, ⟨hy1, by omega⟩, x, ⟨hx1, by omega⟩, hw⟩

theorem InRect.visible {x y : Nat} (hr : scr.InRect x1 y1 x2 y2 x y) :
    x < scr.width ∧ y < scr.height := by
  simp only [InRect, clipX, clipY] at hr; omega

variable (h : scr.Sound)
include h

/-- Each byte of a pixel of the clipped rectangle ends as that byte of the colour. -/
theorem Sound.drawRectangle_byte {x y k : Nat} {v : BitVec 8} (hr : scr.InRect x1 y1 x2 y2 x y)
    (hv : (pixelBytes scr.bpp colour)[k]? = some v) (fb : Framebuffer) :
    applyStores (scr.drawRectangle x1 y1 x2 y2 colour) fb (scr.pixelOffset x y + k) = v := by
  have hk : k < scr.bpp >>> 3 := h.length_pixelBytes colour ▸ (List.getElem?_eq_some_iff.1 hv).1
  apply applyStores_of_mem
  · refine mem_drawRectangle.2 ⟨x, y, hr, ?_⟩
    rw [h.plotPixelFn_eq, mem_storeBytes]
    simpa using hv
  · intro w hw hwa
    obtain ⟨x', y', hr', hw'⟩ := mem_drawRectangle.1 hw
    obtain ⟨k', hk', hwk, hv'⟩ := h.mem_plotPixelFn hr'.visible.1.le hr'.visible.2.le hw'
    rw [h.pixelOffset_eq hr.visible.1.le hr.visible.2.le] at hwa
    obtain ⟨rfl, rfl, rfl⟩ := h.pixel_inj hr'.visible.1 hr.visible.1 hk' hk (hwk ▸ hwa)
    exact Option.some_injective _ (hv'.symm.trans hv)

/-- A byte outside every pixel of the clipped rectangle keeps its value. -/
theorem Sound.drawRectangle_frame {a : Nat}
    (ha : ∀ x y, scr.InRect x1 y1 x2 y2 x y →
      a < scr.pixelOffset x y ∨ scr.pixelOffset x y + (scr.bpp >>> 3) ≤ a) (fb : Framebuffer) :
    applyStores (scr.drawRectangle x1 y1 x2 y2 colour) fb a = fb a := by
  refine applyStores_of_forall_ne (fun w hw hwa => ?_) fb
  obtain ⟨x, y, hr, hw'⟩ := mem_drawRectangle.1 hw
  obtain ⟨k, hk, hwk, -⟩ := h.mem_plotPixelFn hr.visible.1.le hr.visible.2.le hw'
  have := ha x y hr
  rw [h.pixelOffset_eq hr.visible.1.le hr.visible.2.le] at this
  omega

/-- `DrawRectangle` stores nothing at or past the end of the framebuffer. -/
theorem Sound.drawRectangle_within {w : Store} (hw : w ∈ scr.drawRectangle x1 y1 x2 y2 colour) :
    w.1 < scr.height * scr.pitch := by
  obtain ⟨x, y, hr, hw'⟩ := mem_drawRectangle.1 hw
  obtain ⟨k, hk, hwk, -⟩ := h.mem_plotPixelFn hr.visible.1.le hr.visible.2.le hw'
  have := h.pixel_lt_framebuffer hr.visible.1 hr.visible.2 hk
  rw [h.pixelOffset_eq hr.visible.1.le hr.visible.2.le] at this
  omega

/-- `DrawRectangle` paints exactly the rectangle `ClipRect` leaves: each of its pixels reads
back as the colour's bytes, and every byte outside its pixels keeps its value. -/
theorem drawRectangle_paints_clipped_rectangle (x1 y1 x2 y2 : Nat) (colour : RGBA)
    (fb : Framebuffer) :
    (∀ x y, scr.InRect x1 y1 x2 y2 x y →
      scr.readPixel (applyStores (scr.drawRectangle x1 y1 x2 y2 colour) fb) x y =
        pixelBytes scr.bpp colour) ∧
    (∀ a, (∀ x y, scr.InRect x1 y1 x2 y2 x y →
        a < scr.pixelOffset x y ∨ scr.pixelOffset x y + (scr.bpp >>> 3) ≤ a) →
      applyStores (scr.drawRectangle x1 y1 x2 y2 colour) fb a = fb a) := by
  refine ⟨fun x y hr => List.ext_getElem (by simp [readPixel, h.length_pixelBytes]) ?_,
    fun a ha => h.drawRectangle_frame ha fb⟩
  intro k hk _
  simp only [readPixel, List.getElem_map, List.getElem_range]
  exact h.drawRectangle_byte hr (List.getElem?_eq_getElem _) fb

omit h in
/-- A 16-bit screen of two rows of four pixels: a rectangle reaching past the right edge
paints the last pixel of its row. -/
theorem drawRectangle_paints_clipped_rectangle_row :
    (⟨4, 2, 16, 8, true⟩ : Screen).Sound ∧
      (⟨4, 2, 16, 8, true⟩ : Screen).readPixel
        (applyStores ((⟨4, 2, 16, 8, true⟩ : Screen).drawRectangle 1 0 9 1 0xFF8000) fun _ => 0)
        3 0 = pixelBytes 16 0xFF8000 :=
  have hs : (⟨4, 2, 16, 8, true⟩ : Screen).Sound := ⟨by decide, by decide, by decide⟩
  ⟨hs, (drawRectangle_paints_clipped_rectangle hs 1 0 9 1 0xFF8000 _).1 3 0 (by decide)⟩

end Screen

end Pi1541
