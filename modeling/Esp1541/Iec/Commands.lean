import Mathlib.Data.BitVec

/-!
# The inline logic of iec_commands.h

`TimerMicroSeconds` counts microseconds against a timeout. `Start(amount)`
clears the count and sets the timeout; `Tick()` waits a microsecond, counts it and says
whether the count has reached the timeout. Both fields are `uint32_t`.

After `Start(n)` and `k < 2^32` ticks the timer has timed out exactly when `n ≤ k`
(`start_ticks_timedOut`): no tick before the `n`-th reports a timeout, and every tick
from it on does. The count wraps at `2^32`, so a positive timeout that is not collected is
forgotten: the tick that wraps the count stops reporting it, and the next `n - 1` ticks
do not report it either (`ticks_forget_timeout`).

A `Channel` of `IEC_Commands` buffers `0x1000` bytes behind a `uint32_t` cursor.
`CanFit(bytes)` is `bytes <= sizeof(buffer) - cursor`: while the cursor is in the buffer it
holds exactly when the bytes fit (`canFit_iff`). Past the end the subtraction wraps and
the guard fails open: a channel whose cursor is beyond `0x1000` says through `WriteFull()`
that it is full, and still says one more byte fits (`canFit_past_end`).
-/

namespace Iec

/-- The data members of `TimerMicroSeconds`. -/
structure TimerMicroSeconds where
  count : BitVec 32
  timeout : BitVec 32
  deriving DecidableEq, Repr

namespace TimerMicroSeconds

/-- The constructor: `count = 0; timeout = 0`. -/
def init : TimerMicroSeconds := ⟨0, 0⟩

/-- `Start(amount)`: `count = 0; timeout = amount`. -/
def start (amount : BitVec 32) : TimerMicroSeconds := ⟨0, amount⟩

/-- `TimedOut()`: `count >= timeout`, unsigned. -/
def timedOut (t : TimerMicroSeconds) : Bool := decide (t.timeout ≤ t.count)

/-- `Tick()`: `delay_us(1); count++; return TimedOut();`. The delay is the host's. -/
def tick (t : TimerMicroSeconds) : Bool × TimerMicroSeconds :=
  let t' := { t with count := t.count + 1 }
  (t'.timedOut, t')

/-- `k` calls of `Tick()`. -/
def ticks : Nat → TimerMicroSeconds → TimerMicroSeconds
  | 0, t => t
  | k + 1, t => ticks k (tick t).2

/-- `k` ticks add `k` to the count, modulo `2^32`, and leave the timeout. -/
theorem ticks_eq (k : Nat) (t : TimerMicroSeconds) :
    ticks k t = { t with count := t.count + BitVec.ofNat 32 k } := by
  induction k generalizing t with
  | zero => simp only [ticks, BitVec.ofNat_eq_ofNat, BitVec.add_zero]
  | succ k ih =>
    rw [ticks, ih]
    simp only [tick, BitVec.add_assoc, TimerMicroSeconds.mk.injEq, and_true]
    congr 1
    apply BitVec.eq_of_toNat_eq
    simp only [BitVec.toNat_add, BitVec.toNat_ofNat, show (1 : BitVec 32).toNat = 1 from rfl]
    omega

/-- After `Start(n)` and any `k` ticks, the timer has timed out exactly when `n` is at
most the count, `k` modulo `2^32`. -/
theorem timedOut_ticks_start (n : BitVec 32) (k : Nat) :
    (ticks k (start n)).timedOut = true ↔ n.toNat ≤ k % 2 ^ 32 := by
  rw [ticks_eq]
  simp only [timedOut, start, zero_add, decide_eq_true_eq, BitVec.le_def, BitVec.toNat_ofNat]

/-- After `Start(n)` and `k < 2^32` ticks, the timer has timed out exactly when `n ≤ k`;
this is what the `k`-th `Tick()` returns. -/
theorem start_ticks_timedOut (n : BitVec 32) {k : Nat} (hk : k < 2 ^ 32) :
    (ticks k (start n)).timedOut = true ↔ n.toNat ≤ k := by
  rw [timedOut_ticks_start, Nat.mod_eq_of_lt hk]

/-- A timeout of 1000 µs: the 999th tick does not report it, the 1000th does. -/
theorem start_ticks_timedOut_thousand :
    999 < 2 ^ 32 ∧ 1000 < 2 ^ 32 ∧
      (ticks 999 (start 1000)).timedOut = false ∧ (ticks 1000 (start 1000)).timedOut = true :=
  ⟨by decide, by decide,
    Bool.eq_false_iff.mpr fun h => absurd ((start_ticks_timedOut 1000 (by decide)).mp h) (by decide),
    (start_ticks_timedOut 1000 (by decide)).mpr (by decide)⟩

/-- A positive timeout that keeps ticking is forgotten: the last tick before the count
wraps reports it, and the tick that wraps the count and the `n - 1` after it do not. -/
theorem ticks_forget_timeout (n : BitVec 32) (hn : 0 < n.toNat) :
    (ticks (2 ^ 32 - 1) (start n)).timedOut = true ∧
      ∀ k < n.toNat, (ticks (2 ^ 32 + k) (start n)).timedOut = false := by
  have hlt := n.isLt
  refine ⟨(timedOut_ticks_start n _).mpr (by omega), fun k hk => ?_⟩
  rw [Bool.eq_false_iff, Ne, timedOut_ticks_start]
  omega

/-- A timeout of 1000 µs is reported at tick `2^32 - 1`, and not at tick `2^32 + 999`. -/
theorem ticks_forget_timeout_thousand :
    0 < (1000 : BitVec 32).toNat ∧ (ticks (2 ^ 32 - 1) (start 1000)).timedOut = true ∧
      (ticks (2 ^ 32 + 999) (start 1000)).timedOut = false :=
  have h := ticks_forget_timeout 1000 (by decide)
  ⟨by decide, h.1, h.2 999 (by decide)⟩

end TimerMicroSeconds

/-- The one data member of `IEC_Commands::Channel` its inline guards read. -/
structure Channel where
  cursor : BitVec 32
  deriving DecidableEq, Repr

namespace Channel

/-- `sizeof(buffer)`: `uint8_t buffer[0x1000]`. -/
def bufferSize : BitVec 32 := 0x1000

/-- `WriteFull()`: `cursor >= sizeof(buffer)`. -/
def WriteFull (c : Channel) : Bool := decide (bufferSize ≤ c.cursor)

/-- `CanFit(bytes)`: `bytes <= sizeof(buffer) - cursor`, in `uint32_t`. -/
def CanFit (c : Channel) (bytes : BitVec 32) : Bool := decide (bytes ≤ bufferSize - c.cursor)

/-- While the cursor is in the buffer, the room left is `0x1000 - cursor`, with no wrap. -/
theorem toNat_room (c : Channel) (hc : c.cursor.toNat ≤ 0x1000) :
    (bufferSize - c.cursor).toNat = 0x1000 - c.cursor.toNat := by
  rw [BitVec.toNat_sub_of_le (by rw [BitVec.le_def]; exact hc)]
  rfl

/-- While the cursor is in the buffer, `CanFit(bytes)` holds exactly when `bytes` more
bytes end inside it. -/
theorem canFit_iff (c : Channel) (hc : c.cursor.toNat ≤ 0x1000) (bytes : BitVec 32) :
    c.CanFit bytes = true ↔ c.cursor.toNat + bytes.toNat ≤ 0x1000 := by
  simp only [CanFit, decide_eq_true_eq, BitVec.le_def, toNat_room c hc]
  omega

/-- A cursor at `0x0FFF` leaves room for one byte and no more. -/
theorem canFit_iff_last_byte :
    (0xFFF : BitVec 32).toNat ≤ 0x1000 ∧
      (⟨0xFFF⟩ : Channel).CanFit 1 = true ∧ (⟨0xFFF⟩ : Channel).CanFit 2 = false :=
  ⟨by decide, (canFit_iff ⟨0xFFF⟩ (by decide) 1).mpr (by decide),
    Bool.eq_false_iff.mpr fun h => absurd ((canFit_iff ⟨0xFFF⟩ (by decide) 2).mp h) (by decide)⟩

/-- Past the end of the buffer the guard fails open: the channel is full, and still one
more byte fits. -/
theorem canFit_past_end (c : Channel) (hc : 0x1000 < c.cursor.toNat) :
    c.WriteFull = true ∧ c.CanFit 1 = true := by
  have hle : c.cursor.toNat ≤ 2 ^ 32 - 1 := Nat.le_pred_of_lt c.cursor.isLt
  simp only [WriteFull, CanFit, bufferSize, decide_eq_true_eq, BitVec.le_def, BitVec.toNat_sub]
  show 0x1000 ≤ c.cursor.toNat ∧ 1 ≤ (2 ^ 32 - c.cursor.toNat + 0x1000) % 2 ^ 32
  omega

/-- A cursor one past the end. -/
theorem canFit_past_end_one :
    0x1000 < (0x1001 : BitVec 32).toNat ∧
      (⟨0x1001⟩ : Channel).WriteFull = true ∧ (⟨0x1001⟩ : Channel).CanFit 1 = true :=
  ⟨by decide, canFit_past_end ⟨0x1001⟩ (by decide)⟩

end Channel

end Iec
