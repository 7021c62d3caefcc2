import Mathlib.Data.Nat.Digits
import Mathlib.Data.BitVec

/-!
# Number printing of UARTManager

`_print_number(n, base)` spells an `unsigned long` into the back of a buffer of
`8 * sizeof(long) + 1` chars and hands the string to `write`. A base below 2 is taken as
10. The loop divides by the base until the quotient is 0, storing each remainder as a digit
`0`-`9` or `A`-`Z`, last digit first, so `0` is spelt `"0"`.

On the ESP32's 32-bit `long`, the string is the base's digits of `n`, most significant first,
at most 32 of them, which fit the buffer before its zero byte; read back in the base, when it
is at most 36, they give `n` again (`printNumber_writes_digits`). An uninitialised manager
returns `-1` and writes nothing.

`print(long n, int base)` passes its `base` through `_print_number`'s `uint8_t` parameter,
so it is read modulo 256, and only base 10 prints a sign: in any other base a negative `n`
is spelt as the `unsigned long` `n + 2^32` (`printLong_spells`).
-/

namespace Uart

/-! ## _print_number -/

/-- `c < 10 ? c + '0' : c + 'A' - 10` for the `char` `c`, stored back into a `char`.
Whether `char` is signed is the compiler's choice; the comparison reads `c` either way. -/
def digitChar (signedChar : Bool) (c : BitVec 8) : BitVec 8 :=
  if (if signedChar then c.slt 10 else c.ult 10) then c + 0x30 else c + 0x37

/-- The base after `if (base < 2) base = 10;`. -/
def radix (base : BitVec 8) : Nat := if base < 2 then 10 else base.toNat

theorem two_le_radix (base : BitVec 8) : 2 ≤ radix base := by
  unfold radix
  split
  · decide
  · rename_i h; rw [BitVec.not_lt, BitVec.le_def] at h; exact h

/-- The `do { ... } while (n)` loop of `_print_number`: `m = n; n /= base;` takes the
remainder `m - base * n` into the `char` `c` and stores its digit in front of the string
spelt so far, until the quotient is 0. -/
def printDigits (signedChar : Bool) (base : Nat) (hb : 2 ≤ base) (n : Nat)
    (str : List (BitVec 8)) : List (BitVec 8) :=
  let str := digitChar signedChar (BitVec.ofNat 8 (n - base * (n / base))) :: str
  if n / base = 0 then str else printDigits signedChar base hb (n / base) str
termination_by n
decreasing_by exact Nat.div_lt_self (Nat.pos_of_ne_zero fun h0 => by simp_all) hb

/-- `_print_number(n, base)`: the string it hands to `write`; `none` when the manager is
not initialised, where it returns `(size_t)-1` and writes nothing. What `write` returns is
the UART driver's. -/
def printNumber (signedChar initialized : Bool) (n : BitVec 32) (base : BitVec 8) :
    Option (List (BitVec 8)) :=
  if initialized then some (printDigits signedChar (radix base) (two_le_radix base) n.toNat [])
  else none

/-! ## The digits of a number -/

/-- The digits of `m` in base `b`, least significant first, with `0` spelt as one digit. -/
def digitList (b m : Nat) : List Nat := if m = 0 then [0] else Nat.digits b m

/-- The digits of `m` in base `b` as `_print_number`'s characters, most significant first. -/
def digitString (signedChar : Bool) (b m : Nat) : List (BitVec 8) :=
  (digitList b m).reverse.map fun d => digitChar signedChar (BitVec.ofNat 8 d)

/-- The value of a digit character `0`-`9` or `A`-`Z`. -/
def digitValue (c : BitVec 8) : Nat := if c.toNat < 0x3A then c.toNat - 0x30 else c.toNat - 0x37

/-- A string of digit characters read back in base `b`, most significant first. -/
def readNumber (b : Nat) (s : List (BitVec 8)) : Nat :=
  s.foldl (fun acc c => acc * b + digitValue c) 0

theorem digitList_lt {b : Nat} (hb : 2 ≤ b) (m : Nat) : ∀ d ∈ digitList b m, d < b := by
  unfold digitList
  split
  · simp only [List.mem_singleton, forall_eq]; omega
  · exact fun _ hd => Nat.digits_lt_base hb hd

theorem ofDigits_digitList (b m : Nat) : Nat.ofDigits b (digitList b m) = m := by
  unfold digitList
  split
  · simp [*]
  · exact Nat.ofDigits_digits b m

/-- The digit list of a number past the base is its last digit and the digits of the
quotient. -/
theorem digitList_of_div_ne_zero {b m : Nat} (hb : 2 ≤ b) (h : m / b ≠ 0) :
    digitList b m = m % b :: digitList b (m / b) := by
  have hm : m ≠ 0 := fun h0 => h (by rw [h0, Nat.zero_div])
  simp only [digitList, hm, h, if_false]
  exact Nat.digits_def' hb (Nat.pos_of_ne_zero hm)

theorem digitList_of_div_eq_zero {b m : Nat} (hb : 2 ≤ b) (h : m / b = 0) :
    digitList b m = [m % b] := by
  have hlt : m < b := by rwa [Nat.div_eq_zero_iff (by omega)] at h
  rw [Nat.mod_eq_of_lt hlt]
  by_cases hm : m = 0
  · simp [digitList, hm]
  · simp only [digitList, hm, if_false]; exact Nat.digits_of_lt b m hm hlt

/-- The loop spells the digits of `n` in front of the string it starts from. -/
theorem printDigits_eq (signedChar : Bool) {b : Nat} (hb : 2 ≤ b) (n : Nat)
    (str : List (BitVec 8)) : printDigits signedChar b hb n str = digitString signedChar b n ++ str := by
  induction n using Nat.strong_induction_on generalizing str with
  | _ n ih =>
    rw [printDigits, ← Nat.mod_def]
    split
    · rename_i h
      simp [digitString, digitList_of_div_eq_zero hb h]
    · rename_i h
      have hlt : n / b < n := Nat.div_lt_self (Nat.pos_of_ne_zero fun h0 => h (by simp [h0])) hb
      rw [ih _ hlt, digitString, digitString, digitList_of_div_ne_zero hb h]
      simp

theorem printNumber_eq (signedChar : Bool) (n : BitVec 32) (base : BitVec 8) :
    printNumber signedChar true n base = some (digitString signedChar (radix base) n.toNat) := by
  rw [printNumber, if_pos rfl, printDigits_eq, List.append_nil]

/-- The digits of a 32-bit number in any base from 2 are at most 32. -/
theorem length_digitString_le (signedChar : Bool) {b : Nat} (hb : 2 ≤ b) {m : Nat}
    (hm : m < 2 ^ 32) : (digitString signedChar b m).length ≤ 32 := by
  rw [digitString, List.length_map, List.length_reverse, digitList]
  split
  · simp
  · rename_i h
    rw [Nat.digits_len b m hb h]
    have : Nat.log b m < 32 :=
      Nat.log_lt_of_lt_pow h (hm.trans_le (Nat.pow_le_pow_left hb 32))
    omega

/-- Each digit below 36 reads back as itself, whatever the signedness of `char`. -/
theorem digitValue_digitChar (signedChar : Bool) {d : Nat} (hd : d < 36) :
    digitValue (digitChar signedChar (BitVec.ofNat 8 d)) = d := by
  have key : ∀ sc : Bool, ∀ d : Fin 36,
      digitValue (digitChar sc (BitVec.ofNat 8 d.val)) = d.val := by decide
  exact key signedChar ⟨d, hd⟩

theorem foldl_reverse_eq_ofDigits (b : Nat) (L : List Nat) :
    L.reverse.foldl (fun acc d => acc * b + d) 0 = Nat.ofDigits b L := by
  induction L with
  | nil => rfl
  | cons d L ih =>
    rw [List.reverse_cons, List.foldl_append, ih, Nat.ofDigits_cons]
    simp only [List.foldl_cons, List.foldl_nil]
    rw [Nat.mul_comm, Nat.add_comm]

/-- In a base up to 36 the digits read back as the number they spell. -/
theorem readNumber_digitString (signedChar : Bool) {b : Nat} (hb : 2 ≤ b) (hb36 : b ≤ 36)
    (m : Nat) : readNumber b (digitString signedChar b m) = m := by
  have hval : (digitString signedChar b m).map digitValue = (digitList b m).reverse := by
    rw [digitString, List.map_map]
    conv_rhs => rw [← List.map_id (digitList b m).reverse]
    exact List.map_congr_left fun d hd =>
      digitValue_digitChar signedChar
        ((digitList_lt hb m d (List.mem_reverse.mp hd)).trans_le hb36)
  rw [readNumber, ← List.foldl_map digitValue (fun acc d => acc * b + d), hval,
    foldl_reverse_eq_ofDigits, ofDigits_digitList]

/-- `_print_number` writes nothing when the manager is not initialised; otherwise it writes
the digits of `n` in its base, most significant first, at most 32 of them, so the buffer of
`8 * sizeof(long) + 1` chars never overflows; in a base up to 36 they read back as `n`. -/
theorem printNumber_writes_digits (signedChar : Bool) (n : BitVec 32) (base : BitVec 8) :
    printNumber signedChar false n base = none ∧
    printNumber signedChar true n base = some (digitString signedChar (radix base) n.toNat) ∧
    (digitString signedChar (radix base) n.toNat).length ≤ 32 ∧
    (radix base ≤ 36 →
      readNumber (radix base) (digitString signedChar (radix base) n.toNat) = n.toNat) :=
  ⟨rfl, printNumber_eq signedChar n base,
    length_digitString_le signedChar (two_le_radix base) n.isLt,
    fun h36 => readNumber_digitString signedChar (two_le_radix base) h36 n.toNat⟩

/-- In base 16, `1541` is spelt with digits that read back as `1541`. -/
theorem printNumber_writes_digits_hex :
    radix 0x10 ≤ 36 ∧
      readNumber (radix 0x10) (digitString false (radix 0x10) (1541 : BitVec 32).toNat) =
        (1541 : BitVec 32).toNat :=
  ⟨by decide, (printNumber_writes_digits false 1541 0x10).2.2.2 (by decide)⟩

/-! ## print(long, int) -/

/-- `print(long n, int base)`: nothing unless initialised; for base 0 the one byte
`write(n)` sends; in base 10 a negative `n` is `print('-')`, whose bytes `minus` are those of
an overload fnUART.h declares, then `n = -n` spelt in base 10 (`-n` overflows at `LONG_MIN`,
where the model wraps); otherwise `_print_number(n, base)`, which reads `n` as an
`unsigned long` and `base` as a `uint8_t`. -/
def printLong (minus : List (BitVec 8)) (signedChar initialized : Bool) (n base : BitVec 32) :
    Option (List (BitVec 8)) :=
  if !initialized then none
  else if base = 0 then some [n.setWidth 8]
  else if base = 10 then
    if n.slt 0 then (printNumber signedChar initialized (-n) 10).map (minus ++ ·)
    else printNumber signedChar initialized n 10
  else printNumber signedChar initialized n (base.setWidth 8)

/-- A negative `long` is `2^32` below its `unsigned long` reading, so its negation is its
magnitude. -/
theorem toNat_neg_of_toInt_neg {n : BitVec 32} (h : n.toInt < 0) : (-n).toNat = n.toInt.natAbs := by
  rw [BitVec.toNat_neg]
  rw [BitVec.toInt_eq_toNat_cond] at h ⊢
  have := n.isLt
  split at h <;> omega

/-- `print(long n, int base)` in any base but 0: in base 10 a negative `n` is `minus` then
the digits of its magnitude; in every other case it is the digits of `n` read as an
`unsigned long`, in the base `_print_number` makes of `base` modulo 256. -/
theorem printLong_spells (minus : List (BitVec 8)) (signedChar : Bool) (n base : BitVec 32)
    (hb : base ≠ 0) :
    printLong minus signedChar true n base =
      some (if base = 10 ∧ n.toInt < 0 then minus ++ digitString signedChar 10 n.toInt.natAbs
        else digitString signedChar (radix (base.setWidth 8)) n.toNat) := by
  have hslt : n.slt 0 = decide (n.toInt < 0) := by simp [BitVec.slt]
  simp only [printLong, Bool.not_true, Bool.false_eq_true, if_false, if_neg hb, hslt]
  by_cases h10 : base = 10
  · subst h10
    by_cases hn : n.toInt < 0
    · simp [hn, printNumber_eq, toNat_neg_of_toInt_neg hn, radix]
    · simp [hn, printNumber_eq]
  · rw [if_neg h10, if_neg (fun h => h10 h.1), printNumber_eq]

/-- Base `266` is read as base 10 and base `16` prints `-1` as its 32-bit pattern. -/
example : printLong [0x2D] false true (BitVec.ofInt 32 (-1)) 16 = some (digitString false 16 (2 ^ 32 - 1)) ∧
    radix ((266 : BitVec 32).setWidth 8) = 10 :=
  ⟨by rw [printLong_spells _ _ _ _ (by decide)]; rfl, by decide⟩

end Uart
