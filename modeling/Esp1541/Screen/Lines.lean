import Esp1541.Screen.Framebuffer
import Mathlib.Algebra.Order.Group.Int
import Mathlib.Algebra.BigOperators.Group.List

/-!
# Lines and scrolling on Pi1541.h's Screen

`DrawLine` clips both ends to the screen and steps `eulerMax + 1` points from one end to
the other, where `eulerMax` is the larger of the two distances, dividing by `eulerMax` at
every step. Its products `dx0 * i` are `int`s, which the model does not wrap: on a screen
narrower and shorter than `46341` pixels they stay below `2^31`. There, when the clipped
ends coincide, the step is a division by zero, undefined in C; otherwise the first point
plotted is the clipped start and the last the clipped end (`drawLine_plots_clipped_ends`). `ClipRect` pulls a coordinate back to `width` or
`height` themselves, so an end at or past an edge is plotted just outside the screen, and
one at or past the bottom edge in the row below the framebuffer.

`ScrollArea` moves each pixel of an area one place to the left with a 16-bit copy. Both
bytes of a copy are loaded before either is stored and the columns go left to right, so
every copy reads bytes no earlier copy wrote. At 16 bits a pixel that shifts takes the
whole of its right neighbour; at 24 and 32 bits only the neighbour's first two bytes move
and the rest of the pixel stays (`scrollArea_moves_two_bytes`). The guard
`if (x2 - 1 <= x1) return;` is computed in `uint32_t`: a right edge of 0 wraps to
`2^32 - 1` and the loop runs over `2^32 - 1 - x1` columns of every row
(`scrollMoves_length`).
-/

namespace Pi1541

/-! ## DrawLine -/

namespace Screen

/-- `DrawLine`: after `ClipRect`, the points `(x1 + dx0 * i / eulerMax, y1 + dy0 * i / eulerMax)`
for `0 ≤ i ≤ eulerMax`, with `int` division, which truncates. When the clipped ends
coincide, `eulerMax` is 0 and the first point divides by zero: there is no result. -/
def drawLine (scr : Screen) (x1 y1 x2 y2 : Nat) (colour : RGBA) : Option (List Store) :=
  let x1 := scr.clipX x1
  let y1 := scr.clipY y1
  let x2 := scr.clipX x2
  let y2 := scr.clipY y2
  let dx0 : Int := x2 - x1
  let dy0 : Int := y2 - y1
  let eulerMax := max dx0.natAbs dy0.natAbs
  if eulerMax = 0 then none
  else some ((List.range (eulerMax + 1)).flatMap fun i =>
    let ox := (dx0 * i).tdiv eulerMax + x1
    let oy := (dy0 * i).tdiv eulerMax + y1
    scr.plotPixelFn ((ox * (scr.bpp >>> 3 : Nat) + oy * (scr.pitch : Nat)) % 2 ^ 32).toNat colour)

/-- `DrawLineV`: the column `x` from row `y1` to row `y2`, unclipped. For `y2 = 2^32 - 1`
the `uint32_t` loop `y <= y2` never ends: there is no result. -/
def drawLineV (scr : Screen) (x y1 y2 : Nat) (colour : RGBA) : Option (List Store) :=
  if y2 = 2 ^ 32 - 1 then none
  else some ((List.range' y1 (y2 + 1 - y1)).flatMap fun y =>
    scr.plotPixelFn (scr.pixelOffset x y) colour)

/-- The offset `DrawLine` computes in `int` for a point with non-negative coordinates. -/
theorem lineOffset_eq (scr : Screen) (x y : Nat) :
    (((x : Int) * (scr.bpp >>> 3 : Nat) + (y : Int) * (scr.pitch : Nat)) % 2 ^ 32).toNat =
      scr.pixelOffset x y := by
  push_cast [pixelOffset, ← Int.natCast_mod]
  rfl

variable (scr : Screen) (x1 y1 x2 y2 : Nat) (colour : RGBA)

theorem drawLine_eq_none_iff :
    scr.drawLine x1 y1 x2 y2 colour = none ↔ scr.clipX x1 = scr.clipX x2 ∧ scr.clipY y1 = scr.clipY y2 := by
  simp only [drawLine, Nat.max_eq_zero_iff, Int.natAbs_eq_zero, sub_eq_zero, Nat.cast_inj]
  split_ifs with h
  · exact iff_of_true (by simp) ⟨h.1.symm, h.2.symm⟩
  · exact iff_of_false (by simp) fun hc => h ⟨hc.1.symm, hc.2.symm⟩

/-- Two columns `ClipRect` leaves are at most the width apart. -/
theorem natAbs_clipX_sub_le (a b : Nat) : ((scr.clipX a : Int) - scr.clipX b).natAbs ≤ scr.width := by
  unfold clipX; omega

/-- Two rows `ClipRect` leaves are at most the height apart. -/
theorem natAbs_clipY_sub_le (a b : Nat) : ((scr.clipY a : Int) - scr.clipY b).natAbs ≤ scr.height := by
  unfold clipY; omega

/-- A distance and a step count of at most `46340` multiply to less than `2^31`. -/
theorem natAbs_mul_lt_int {d : Int} {i : Nat} (hd : d.natAbs ≤ 46340) (hi : i ≤ 46340) :
    (d * i).natAbs < 2 ^ 31 := by
  rw [Int.natAbs_mul, Int.natAbs_ofNat]
  exact (Nat.mul_le_mul hd hi).trans_lt (by decide)

/-- On a screen narrower and shorter than `46341` pixels, where the loop's `int` products
`dx0 * i` and `dy0 * i` cannot overflow, `DrawLine` divides by zero exactly when the clipped
ends coincide; otherwise it plots the clipped start first and the clipped end last. -/
theorem drawLine_plots_clipped_ends (hb : max scr.width scr.height < 46341) :
    (∀ i ≤ max ((scr.clipX x2 : Int) - scr.clipX x1).natAbs ((scr.clipY y2 : Int) - scr.clipY y1).natAbs,
      (((scr.clipX x2 : Int) - scr.clipX x1) * i).natAbs < 2 ^ 31 ∧
      (((scr.clipY y2 : Int) - scr.clipY y1) * i).natAbs < 2 ^ 31) ∧
    (scr.drawLine x1 y1 x2 y2 colour = none ↔
      scr.clipX x1 = scr.clipX x2 ∧ scr.clipY y1 = scr.clipY y2) ∧
    ∀ ws, scr.drawLine x1 y1 x2 y2 colour = some ws →
      scr.plotPixelFn (scr.pixelOffset (scr.clipX x1) (scr.clipY y1)) colour <+: ws ∧
      scr.plotPixelFn (scr.pixelOffset (scr.clipX x2) (scr.clipY y2)) colour <:+ ws := by
  refine ⟨fun i hi => ?_, drawLine_eq_none_iff scr x1 y1 x2 y2 colour, fun ws hws => ?_⟩
  · have hmax : max scr.width scr.height ≤ 46340 := Nat.le_of_lt_succ hb
    have hx := (scr.natAbs_clipX_sub_le x2 x1).trans ((le_max_left _ _).trans hmax)
    have hy := (scr.natAbs_clipY_sub_le y2 y1).trans ((le_max_right _ _).trans hmax)
    have hi' : i ≤ 46340 := hi.trans (max_le hx hy)
    exact ⟨natAbs_mul_lt_int hx hi', natAbs_mul_lt_int hy hi'⟩
  simp only [drawLine] at hws
  split_ifs at hws with he
  obtain rfl := Option.some_injective _ hws
  have he' : ((max (((scr.clipX x2 : Int) - scr.clipX x1).natAbs)
      (((scr.clipY y2 : Int) - scr.clipY y1).natAbs) : Nat) : Int) ≠ 0 := by exact_mod_cast he
  constructor
  · rw [List.range_succ_eq_map, List.flatMap_cons]
    simp only [Nat.cast_zero, mul_zero, Int.zero_tdiv, zero_add, lineOffset_eq]
    exact List.prefix_append _ _
  · rw [List.range_succ, List.flatMap_append, List.flatMap_singleton]
    simp only [Int.mul_tdiv_cancel _ he', sub_add_cancel, lineOffset_eq]
    exact List.suffix_append _ _

/-- On a screen of two rows of four pixels, a line to `(9, 9)` ends on `(4, 2)`: its last
pixel starts past the end of the framebuffer's 16 bytes. -/
theorem drawLine_plots_clipped_ends_corner :
    max (⟨4, 2, 16, 8, true⟩ : Screen).width (⟨4, 2, 16, 8, true⟩ : Screen).height < 46341 ∧
    ∃ ws, (⟨4, 2, 16, 8, true⟩ : Screen).drawLine 0 0 9 9 0xFFFFFFFF = some ws ∧
      (⟨4, 2, 16, 8, true⟩ : Screen).plotPixelFn 24 0xFFFFFFFF <:+ ws :=
  ⟨by decide, _, rfl,
    ((drawLine_plots_clipped_ends ⟨4, 2, 16, 8, true⟩ 0 0 9 9 0xFFFFFFFF (by decide)).2.2 _ rfl).2⟩

end Screen

/-! ## ScrollArea -/

/-- The 16-bit copy `*(unsigned short*)&framebuffer[dest] = *(unsigned short*)&framebuffer[src]`
of a `(dest, src)` pair: both bytes are loaded before either is stored. -/
def move16 (fb : Framebuffer) (m : Nat × Nat) : Framebuffer :=
  let lo := fb m.2
  let hi := fb (m.2 + 1)
  Function.update (Function.update fb m.1 lo) (m.1 + 1) hi

namespace Screen

/-- The 16-bit copies `ScrollArea` makes, in order, as `(dest, src)` offsets: none when
`x2 - 1 <= x1` in `uint32_t` after `ClipRect`; otherwise, row by row, pixel `x + 1` onto
pixel `x` for `x1 ≤ x < x2 - 1`. -/
def scrollMoves (scr : Screen) (x1 y1 x2 y2 : Nat) : List (Nat × Nat) :=
  let x1 := scr.clipX x1
  let y1 := scr.clipY y1
  let x2 := scr.clipX x2
  let y2 := scr.clipY y2
  if (x2 + (2 ^ 32 - 1)) % 2 ^ 32 ≤ x1 then []
  else (List.range' y1 (y2 - y1)).flatMap fun y =>
    (List.range' x1 ((x2 + (2 ^ 32 - 1)) % 2 ^ 32 - x1)).map fun x =>
      (scr.pixelOffset x y, scr.pixelOffset (x + 1) y)

/-- `ScrollArea`: its copies, one after another. -/
def scrollArea (scr : Screen) (x1 y1 x2 y2 : Nat) (fb : Framebuffer) : Framebuffer :=
  (scr.scrollMoves x1 y1 x2 y2).foldl move16 fb

/-- The pixels `ScrollArea` copies onto: `x1 ≤ x < x2 - 1` of the rows `y1 ≤ y < y2`,
after `ClipRect`. -/
def InScroll (scr : Screen) (x1 y1 x2 y2 x y : Nat) : Prop :=
  scr.clipX x1 ≤ x ∧ x + 1 < scr.clipX x2 ∧ scr.clipY y1 ≤ y ∧ y < scr.clipY y2

end Screen

instance (scr : Screen) (x1 y1 x2 y2 x y : Nat) : Decidable (scr.InScroll x1 y1 x2 y2 x y) :=
  inferInstanceAs (Decidable (_ ∧ _))

theorem move16_of_ne {fb : Framebuffer} {d s z : Nat} (h0 : z ≠ d) (h1 : z ≠ d + 1) :
    move16 fb (d, s) z = fb z := by
  simp only [move16, Function.update_noteq h1, Function.update_noteq h0]

theorem move16_dest (fb : Framebuffer) (d s : Nat) {k : Nat} (hk : k < 2) :
    move16 fb (d, s) (d + k) = fb (s + k) := by
  obtain rfl | rfl : k = 0 ∨ k = 1 := by omega
  · simp only [move16, Nat.add_zero, Function.update_noteq (Nat.ne_of_lt (Nat.lt_succ_self d)),
      Function.update_same]
  · simp only [move16, Function.update_same]

/-- A byte no step of a loop writes keeps its value over the loop. -/
theorem foldl_frame {α : Type} {F : Framebuffer → α → Framebuffer} {z : Nat} (l : List α)
    (h : ∀ i ∈ l, ∀ fb, F fb i z = fb z) (fb : Framebuffer) : l.foldl F fb z = fb z := by
  induction l generalizing fb with
  | nil => rfl
  | cons i l ih =>
    rw [List.foldl_cons, ih (fun j hj => h j (.tail _ hj)), h i (.head _)]

/-- A byte written by one step `j` of a loop over `a ≤ i < a + n`, from a byte no earlier
step writes, and written by no later step, ends as that byte was before the loop. -/
theorem foldl_range'_apply {F : Framebuffer → Nat → Framebuffer} {a n j z z' : Nat}
    (hj : a ≤ j ∧ j < a + n) (hval : ∀ fb, F fb j z = fb z')
    (hbefore : ∀ i, a ≤ i → i < j → ∀ fb, F fb i z' = fb z')
    (hafter : ∀ i, j < i → i < a + n → ∀ fb, F fb i z = fb z) (fb : Framebuffer) :
    (List.range' a n).foldl F fb z = fb z' := by
  obtain ⟨m, hm⟩ : ∃ m, a + n = j + 1 + m := ⟨a + n - (j + 1), by omega⟩
  have hsplit : List.range' a n = List.range' a (j - a) ++ j :: List.range' (j + 1) m := by
    have := List.range'_append a (j - a) (m + 1) 1
    rw [show a + 1 * (j - a) = j by omega, List.range'_succ, show m + 1 + (j - a) = n by omega]
      at this
    exact this.symm
  rw [hsplit, List.foldl_append, List.foldl_cons,
    foldl_frame _ (fun i hi => hafter i (by simp at hi; omega) (by simp at hi; omega)), hval,
    foldl_frame _ (fun i hi => hbefore i (by simp at hi; omega) (by simp at hi; omega))]

theorem foldl_flatMap {α β γ : Type} (l : List α) (g : α → List β) (f : γ → β → γ) (init : γ) :
    (l.flatMap g).foldl f init = l.foldl (fun acc a => (g a).foldl f acc) init := by
  induction l generalizing init <;> simp [List.flatMap_cons, List.foldl_append, *]

namespace Screen

variable {scr : Screen} {x1 y1 x2 y2 : Nat}

/-- `ScrollArea` as its two loops, when the right edge is not 0. -/
theorem scrollArea_eq (hw : scr.width < 2 ^ 32) (hpos : 0 < scr.clipX x2) (fb : Framebuffer) :
    scr.scrollArea x1 y1 x2 y2 fb =
      if scr.clipX x2 - 1 ≤ scr.clipX x1 then fb
      else (List.range' (scr.clipY y1) (scr.clipY y2 - scr.clipY y1)).foldl (fun fb y =>
        (List.range' (scr.clipX x1) (scr.clipX x2 - 1 - scr.clipX x1)).foldl (fun fb x =>
          move16 fb (scr.pixelOffset x y, scr.pixelOffset (x + 1) y)) fb) fb := by
  have hx2 : scr.clipX x2 ≤ scr.width := min_le_right _ _
  have hr : (scr.clipX x2 + (2 ^ 32 - 1)) % 2 ^ 32 = scr.clipX x2 - 1 := by omega
  simp only [scrollArea, scrollMoves, hr]
  split_ifs
  · rfl
  · simp only [foldl_flatMap, List.foldl_map]

theorem InScroll.visible {x y : Nat} (hs : scr.InScroll x1 y1 x2 y2 x y) :
    x + 1 < scr.width ∧ y < scr.height := by
  simp only [InScroll, clipX, clipY] at hs; omega

variable (h : scr.Sound)
include h

/-- Bytes of distinct pixels, or distinct bytes of one pixel, have distinct offsets. -/
theorem Sound.offset_ne {x y k x' y' : Nat} (k' : Nat) (hx : x < scr.width) (hx' : x' < scr.width)
    (hy : y ≤ scr.height) (hy' : y' ≤ scr.height) (hk : k < scr.bpp >>> 3)
    (hk' : k' < scr.bpp >>> 3) (hne : ¬(x = x' ∧ y = y' ∧ k = k')) :
    scr.pixelOffset x y + k ≠ scr.pixelOffset x' y' + k' := by
  rw [h.pixelOffset_eq hx.le hy, h.pixelOffset_eq hx'.le hy']
  exact fun he => hne (h.pixel_inj hx hx' hk hk' he)

/-- A copy onto pixel `(i, y')` leaves every byte but its first two alone. -/
theorem Sound.move16_pixel {x y k i y' : Nat} (hb : 2 ≤ scr.bpp >>> 3) (hx : x < scr.width)
    (hi : i < scr.width) (hy : y ≤ scr.height) (hy' : y' ≤ scr.height) (hk : k < scr.bpp >>> 3)
    (hne : ¬(x = i ∧ y = y' ∧ k < 2)) (fb : Framebuffer) (src : Nat) :
    move16 fb (scr.pixelOffset i y', src) (scr.pixelOffset x y + k) =
      fb (scr.pixelOffset x y + k) := by
  have h0 := h.offset_ne 0 hx hi hy hy' hk (by omega) (by omega)
  rw [Nat.add_zero] at h0
  exact move16_of_ne h0 (h.offset_ne 1 hx hi hy hy' hk (by omega) (by omega))

/-- `ScrollArea` copies the first two bytes of each pixel of its area from the pixel to its
right, as it was before the call, and leaves every other byte of the area's pixels; outside
the first two bytes of the area's pixels nothing changes. -/
theorem scrollArea_moves_two_bytes (hb : 2 ≤ scr.bpp >>> 3) (x1 y1 x2 y2 : Nat)
    (fb : Framebuffer) :
    (∀ x y k, scr.InScroll x1 y1 x2 y2 x y → k < scr.bpp >>> 3 →
      scr.scrollArea x1 y1 x2 y2 fb (scr.pixelOffset x y + k) =
        if k < 2 then fb (scr.pixelOffset (x + 1) y + k) else fb (scr.pixelOffset x y + k)) ∧
    (0 < scr.clipX x2 → ∀ a, (∀ x y, scr.InScroll x1 y1 x2 y2 x y →
        a ≠ scr.pixelOffset x y ∧ a ≠ scr.pixelOffset x y + 1) →
      scr.scrollArea x1 y1 x2 y2 fb a = fb a) := by
  have hcw : scr.clipX x2 ≤ scr.width := min_le_right _ _
  have hch : scr.clipY y2 ≤ scr.height := min_le_right _ _
  constructor
  · intro x y k hs hk
    obtain ⟨hx1, hx2, hy1, hy2⟩ := hs
    rw [scrollArea_eq h.width_lt (by omega), if_neg (by omega)]
    split_ifs with hk2
    · refine foldl_range'_apply ⟨hy1, by omega⟩ (fun fb => ?_)
        (fun i _ hi fb => foldl_frame _ (fun x' hx' fb => ?_) fb)
        (fun i hi hi' fb => foldl_frame _ (fun x' hx' fb => ?_) fb) fb
      · refine foldl_range'_apply (j := x) ⟨hx1, by omega⟩ (fun fb => move16_dest fb _ _ hk2)
          (fun i _ hi fb => ?_) (fun i hi hi' fb => ?_) fb
        · exact h.move16_pixel hb (by omega) (by omega) (by omega) (by omega) hk (by omega) _ _
        · exact h.move16_pixel hb (by omega) (by omega) (by omega) (by omega) hk (by omega) _ _
      all_goals
        simp only [List.mem_range'_1] at hx'
        exact h.move16_pixel hb (by omega) (by omega) (by omega) (by omega) hk (by omega) _ _
    · refine foldl_frame _ (fun y' hy' fb => foldl_frame _ (fun x' hx' fb => ?_) fb) fb
      simp only [List.mem_range'_1] at hx' hy'
      exact h.move16_pixel hb (by omega) (by omega) (by omega) (by omega) hk (by omega) _ _
  · intro hpos a ha
    rw [scrollArea_eq h.width_lt hpos]
    split_ifs
    · rfl
    · refine foldl_frame _ (fun y hy fb => foldl_frame _ (fun x hx fb => ?_) fb) fb
      simp only [List.mem_range'_1] at hx hy
      have := ha x y ⟨by omega, by omega, by omega, by omega⟩
      exact move16_of_ne this.1 this.2

omit h in
/-- On a 32-bit screen, scrolling the first row moves the red byte of pixel 0 in from
pixel 1 and leaves its blue byte. -/
theorem scrollArea_moves_two_bytes_rgba :
    (⟨4, 2, 32, 16, true⟩ : Screen).Sound ∧ 2 ≤ 32 >>> 3 ∧
      (⟨4, 2, 32, 16, true⟩ : Screen).scrollArea 0 0 4 1 (fun a => BitVec.ofNat 8 a) 0 = 4 ∧
      (⟨4, 2, 32, 16, true⟩ : Screen).scrollArea 0 0 4 1 (fun a => BitVec.ofNat 8 a) 2 = 2 :=
  have hs : (⟨4, 2, 32, 16, true⟩ : Screen).Sound := ⟨by decide, by decide, by decide⟩
  have hm := (scrollArea_moves_two_bytes hs (by decide) 0 0 4 1 fun a => BitVec.ofNat 8 a).1
  ⟨hs, by decide, (hm 0 0 0 (by decide) (by decide)).trans (if_pos (by decide)),
    (hm 0 0 2 (by decide) (by decide)).trans (if_neg (by decide))⟩

end Screen

/-- The number of 16-bit copies `ScrollArea` makes: `x2 - 1 - x1` on each row of the
clipped area, except that a right edge of 0 counts as `2^32`, because the `uint32_t`
subtraction `x2 - 1` wraps and the guard lets it through. -/
theorem scrollMoves_length (scr : Screen) (x1 y1 x2 y2 : Nat) (hx2 : x2 < 2 ^ 32) :
    (scr.scrollMoves x1 y1 x2 y2).length = (scr.clipY y2 - scr.clipY y1) *
      ((if scr.clipX x2 = 0 then 2 ^ 32 else scr.clipX x2) - 1 - scr.clipX x1) := by
  have hc : scr.clipX x2 < 2 ^ 32 := lt_of_le_of_lt (min_le_left _ _) hx2
  rw [show (if scr.clipX x2 = 0 then 2 ^ 32 else scr.clipX x2) - 1 =
    (scr.clipX x2 + (2 ^ 32 - 1)) % 2 ^ 32 by split_ifs <;> omega]
  simp only [Screen.scrollMoves]
  split_ifs with hg
  · rw [List.length_nil, Nat.sub_eq_zero_of_le hg, Nat.mul_zero]
  · simp [List.length_flatMap, Function.comp_def]

/-- A scroll whose right edge is 0 copies across `2^32 - 1` columns of its one row. -/
theorem scrollMoves_length_zero_edge :
    0 < 2 ^ 32 ∧ ((⟨4, 2, 16, 8, true⟩ : Screen).scrollMoves 0 0 0 1).length = 2 ^ 32 - 1 :=
  ⟨by decide, (scrollMoves_length ⟨4, 2, 16, 8, true⟩ 0 0 0 1 (by decide)).trans rfl⟩

end Pi1541
