import Esp1541.Cpu6502.Addressing

/-!
# The opcode bodies against §4.4

§4.4 of the specification says what each opcode body does to the registers and flags
and what it stores, in terms of bytes: N is bit 7 of the result, Z whether it is zero,
the carry of a shift is the bit shifted out, a compare sets C when `reg ≥ m`, `SBX` sets
C when nothing is borrowed, and the magic of `LXA` and `XAA` is `0xEE`.
`Opcode.contract` writes those sentences as an `Effect` on the registers (`Regs`) for the
operand byte `m` and, for a pull, the byte `top` on the stack; `Effect.apply` is what an
effect does to the machine, a store going to `a` under accumulator addressing as
`WriteValue` does.

The code computes on the 16-bit intermediates of m6502.h: `EstablishNZ` tests bits of a
`uint16_t`, shifts keep the bit shifted out in the high byte, `SBX` compares with
`0x100`. The middle section says what each of those reads from the low byte
(`establishNZ_eq`, `establishC_shiftLeft`, `sub_lt_page_iff`). With them every body with
a contract other than `PLP` meets it, for every register value, operand byte, stack byte
and bus (`opcodeCycle_eq_apply_contract`).

`instructionSpec` puts the two layers of the specification together: the state the §4.3
reference hands over (`Mode.handOver`), then the §4.4 contract of the body on it. An
instruction of any of the twenty-two chains that follow §4.3, with any body that has a
contract but `PLP`, leaves that state, up to the intermediate address
(`instructions_meet_spec`).

`PLP` stores the pulled byte with `FLAG_CONSTANT` ORed in, so B comes from the stack and
not from the register (`plp_takes_break_from_stack`); with that one difference every body
with a contract meets it (`opcode_bodies_meet_contract`).
-/

namespace Cpu6502

/-! ## Effects on the registers -/

/-- The registers an opcode body reads and writes. -/
structure Regs where
  a : BitVec 8
  x : BitVec 8
  y : BitVec 8
  sp : BitVec 8
  status : BitVec 8
  deriving DecidableEq, Repr

def M6502.regs (s : M6502) : Regs := ⟨s.a, s.x, s.y, s.sp, s.status⟩

/-- The bus access of a body: none, a store of the result, a push, or a pull. -/
inductive BodyAccess
  | none
  | store (byte : BitVec 8)
  | push (byte : BitVec 8)
  | pull
  deriving DecidableEq, Repr

/-- What a body does: the registers after it, its access, whether it jumps to `ea`, and
whether it holds the IRQ off for one instruction (`CLI`, §4.6). -/
structure Effect where
  regs : Regs
  access : BodyAccess := .none
  jump : Bool := false
  maskIRQ : Bool := false

/-- The effect on the machine: a store goes to `a` under accumulator addressing and to
`ea` otherwise, a push to the slot of `sp` and a pull from the slot above it. -/
def Effect.apply (e : Effect) (s : M6502) : M6502 :=
  let s' := { s with a := e.regs.a, x := e.regs.x, y := e.regs.y, sp := e.regs.sp,
                     status := e.regs.status, pc := if e.jump then s.ea else s.pc,
                     CLIMaskingInterrupt := s.CLIMaskingInterrupt || e.maskIRQ }
  match e.access with
  | .none => s'
  | .store b => if s.addressModeCycleFn = .sb_1_T1 then { s' with a := b } else s'.log (.write s.ea b)
  | .push b => s'.log (.write (stackSlot s.sp) b)
  | .pull => s'.log (.read (stackSlot (s.sp + 1)))

/-! ## The contract of §4.4 -/

/-- N and Z from a result byte: N is its bit 7, Z whether it is zero. -/
def nzFrom (r p : BitVec 8) : BitVec 8 := setNIf r.msb (setZIf (r = 0) p)

/-- The status after a result `v` is loaded: N and Z from `v`. -/
def Regs.load (r : Regs) (v : BitVec 8) : BitVec 8 := nzFrom v r.status

/-- A compare of `reg` with `m`: C when `reg ≥ m`, Z when they are equal, N from the low
byte of `reg - m`. -/
def Regs.compareWith (r : Regs) (reg m : BitVec 8) : BitVec 8 :=
  setNIf (reg - m).msb (setZIf (reg = m) (setCIf (m ≤ reg) r.status))

/-- The effect §4.4 gives a body on the registers `r`, the operand byte `m` and the byte
`top` a pull reads; `none` for the bodies it leaves to other sections (the branches,
`JAM`, the `SHA` family, the decimal-capable `ADC`, `SBC`, `ARR` and the bodies calling
them) and the fused read-modify-writes and `LAX`. -/
def Opcode.contract (op : Opcode) (r : Regs) (m top : BitVec 8) : Option Effect :=
  match op with
  | .AND => some { regs := { r with a := r.a &&& m, status := r.load (r.a &&& m) } }
  | .ORA => some { regs := { r with a := r.a ||| m, status := r.load (r.a ||| m) } }
  | .EOR => some { regs := { r with a := r.a ^^^ m, status := r.load (r.a ^^^ m) } }
  | .LDA => some { regs := { r with a := m, status := r.load m } }
  | .LDX => some { regs := { r with x := m, status := r.load m } }
  | .LDY => some { regs := { r with y := m, status := r.load m } }
  | .TAX => some { regs := { r with x := r.a, status := r.load r.a } }
  | .TAY => some { regs := { r with y := r.a, status := r.load r.a } }
  | .TXA => some { regs := { r with a := r.x, status := r.load r.x } }
  | .TYA => some { regs := { r with a := r.y, status := r.load r.y } }
  | .TSX => some { regs := { r with x := r.sp, status := r.load r.sp } }
  | .TXS => some { regs := { r with sp := r.x } }
  | .INX => some { regs := { r with x := r.x + 1, status := r.load (r.x + 1) } }
  | .DEX => some { regs := { r with x := r.x - 1, status := r.load (r.x - 1) } }
  | .INY => some { regs := { r with y := r.y + 1, status := r.load (r.y + 1) } }
  | .DEY => some { regs := { r with y := r.y - 1, status := r.load (r.y - 1) } }
  | .INC => some { regs := { r with status := r.load (m + 1) }, access := .store (m + 1) }
  | .DEC => some { regs := { r with status := r.load (m - 1) }, access := .store (m - 1) }
  | .ASL => some { regs := { r with status := nzFrom (m <<< 1) (setCIf m.msb r.status) },
                   access := .store (m <<< 1) }
  | .LSR => some { regs := { r with status := nzFrom (m >>> 1) (setCIf (m.getLsbD 0) r.status) },
                   access := .store (m >>> 1) }
  | .ROL =>
    let v := (m <<< 1) ||| (r.status &&& flagCarry)
    some { regs := { r with status := nzFrom v (setCIf m.msb r.status) }, access := .store v }
  | .ROR =>
    let v := (m >>> 1) ||| ((r.status &&& flagCarry) <<< 7)
    some { regs := { r with status := nzFrom v (setCIf (m.getLsbD 0) r.status) },
           access := .store v }
  | .CMP => some { regs := { r with status := r.compareWith r.a m } }
  | .CPX => some { regs := { r with status := r.compareWith r.x m } }
  | .CPY => some { regs := { r with status := r.compareWith r.y m } }
  | .BIT =>
    let p := setNIf m.msb (setVIf (m.getLsbD 6) (setZIf (r.a &&& m = 0) r.status))
    some { regs := { r with status := p } }
  | .CLC => some { regs := { r with status := clearC r.status } }
  | .SEC => some { regs := { r with status := setC r.status } }
  | .CLD => some { regs := { r with status := clearD r.status } }
  | .SED => some { regs := { r with status := setD r.status } }
  | .CLI => some { regs := { r with status := clearI r.status }, maskIRQ := true }
  | .SEI => some { regs := { r with status := setI r.status } }
  | .CLV => some { regs := { r with status := clearV r.status } }
  | .PHA => some { regs := { r with sp := r.sp - 1 }, access := .push r.a }
  | .PHP => some { regs := { r with sp := r.sp - 1 }, access := .push (r.status ||| 0x30) }
  | .PLA => some { regs := { r with a := top, sp := r.sp + 1, status := r.load top },
                   access := .pull }
  | .PLP =>
    let p := setFlag flagConstant (putFlag flagBreak (r.status &&& flagBreak ≠ 0) top)
    some { regs := { r with sp := r.sp + 1, status := p }, access := .pull }
  | .STA => some { regs := r, access := .store r.a }
  | .STX => some { regs := r, access := .store r.x }
  | .STY => some { regs := r, access := .store r.y }
  | .SAX => some { regs := r, access := .store (r.a &&& r.x) }
  | .NOP | .BRK | .JSR | .RTS | .RTI => some { regs := r }
  | .JMP => some { regs := r, jump := true }
  | .ANC =>
    let v := r.a &&& m
    some { regs := { r with a := v, status := setCIf v.msb (r.load v) } }
  | .ASR =>
    let v := r.a &&& m
    some { regs := { r with a := v >>> 1,
                            status := nzFrom (v >>> 1) (setCIf (v.getLsbD 0) r.status) } }
  | .SBX =>
    let v := (r.a &&& r.x) - m
    some { regs := { r with x := v, status := setCIf (m ≤ r.a &&& r.x) (r.load v) } }
  | .LXA =>
    let v := (r.a ||| 0xEE) &&& m
    some { regs := { r with a := v, x := v, status := r.load v } }
  | .XAA =>
    let v := (r.a ||| 0xEE) &&& r.x &&& m
    some { regs := { r with a := v, status := r.load v } }
  | .LAS =>
    let v := r.sp &&& m
    some { regs := { r with a := v, x := v, sp := v, status := r.load v } }
  | _ => none

/-! ## Flags and results from 16-bit intermediates -/

theorem low_byte_eq_zero (v : BitVec 16) : v &&& 0x00FF = 0 ↔ v.setWidth 8 = 0 := by
  simp only [BitVec.toNat_eq, BitVec.toNat_and, BitVec.toNat_setWidth]
  rw [show BitVec.toNat (255 : BitVec 16) = 2 ^ 8 - 1 from rfl, Nat.and_pow_two_sub_one_eq_mod]
  simp

/-- `v & (1 << i)` is nonzero exactly when bit `i` of `v` is set. -/
theorem bit_ne_zero (v : BitVec 16) {i : Nat} (hi : i < 16) :
    v &&& BitVec.twoPow 16 i ≠ 0 ↔ v.getLsbD i = true := by
  rw [BitVec.and_twoPow]
  have h : BitVec.twoPow 16 i ≠ 0 := by
    rw [ne_eq, BitVec.toNat_eq, BitVec.toNat_twoPow,
      Nat.mod_eq_of_lt (Nat.pow_lt_pow_right (by omega) hi)]
    simp
  cases v.getLsbD i
  · simp
  · exact ⟨fun _ => rfl, fun _ => h⟩

theorem decide_bit0 (m : BitVec 8) : decide (m.setWidth 16 &&& 1 ≠ 0) = m.getLsbD 0 := by
  rw [show (1 : BitVec 16) = BitVec.twoPow 16 0 from rfl]
  simp only [bit_ne_zero _ (show 0 < 16 by omega), Bool.decide_eq_true, BitVec.getLsbD_setWidth]
  rfl

theorem decide_bit6 (m : BitVec 8) : decide (m.setWidth 16 &&& 0x40 ≠ 0) = m.getLsbD 6 := by
  rw [show (0x40 : BitVec 16) = BitVec.twoPow 16 6 from rfl]
  simp only [bit_ne_zero _ (show 6 < 16 by omega), Bool.decide_eq_true, BitVec.getLsbD_setWidth]
  rfl

theorem decide_bit7 (v : BitVec 16) : decide (v &&& 0x0080 ≠ 0) = (v.setWidth 8).msb := by
  rw [show (0x0080 : BitVec 16) = BitVec.twoPow 16 7 from rfl]
  simp only [bit_ne_zero v (show 7 < 16 by omega), BitVec.msb_setWidth'', Bool.decide_eq_true]

theorem establishZ_eq (v : BitVec 16) : establishZ v = setZIf (v.setWidth 8 = 0) := by
  simp only [establishZ, low_byte_eq_zero]

theorem establishN_eq (v : BitVec 16) : establishN v = setNIf (v.setWidth 8).msb := by
  rw [establishN, decide_bit7]

/-- `EstablishNZ` of a 16-bit intermediate reads its low byte. -/
theorem establishNZ_eq (v : BitVec 16) : establishNZ v = nzFrom (v.setWidth 8) := by
  funext p
  simp only [establishNZ, establishN_eq, establishZ_eq, nzFrom]

/-- A zero-extended byte has nothing in the high byte. -/
theorem setWidth_and_high_byte (c : BitVec 8) : c.setWidth 16 &&& 0xFF00 = 0#16 := by
  revert c
  decide

/-- The bit `m << 1` carries into the high byte is bit 7 of `m`. -/
theorem carry_shiftLeft_one (m : BitVec 8) :
    decide ((m.setWidth 16 <<< 1) &&& 0xFF00 ≠ 0) = m.msb := by
  revert m
  decide

theorem establishC_shiftLeft_one (m : BitVec 8) :
    establishC (m.setWidth 16 <<< 1) = setCIf m.msb := by
  rw [establishC, carry_shiftLeft_one]

/-- The carry of `ROL` is bit 7 of the operand, whatever is shifted in. -/
theorem establishC_shiftLeft (m c : BitVec 8) :
    establishC ((m.setWidth 16 <<< 1) ||| c.setWidth 16) = setCIf m.msb := by
  have h : ∀ x y z : BitVec 16, (x ||| y) &&& z = x &&& z ||| y &&& z := by
    intro x y z
    ext i
    simp only [BitVec.getLsbD_and, BitVec.getLsbD_or, Bool.and_or_distrib_right]
  rw [establishC, h, setWidth_and_high_byte, BitVec.or_zero, carry_shiftLeft_one]

theorem setWidth_shiftLeft_one (m : BitVec 8) : (m.setWidth 16 <<< 1).setWidth 8 = m <<< 1 := by
  ext i
  simp [BitVec.getLsbD_shiftLeft, show (i : Nat) < 16 by omega, show (i : Nat) - 1 < 16 by omega]

theorem setWidth_ushiftRight_one (m : BitVec 8) :
    (m.setWidth 16 >>> 1).setWidth 8 = m >>> 1 := by
  ext i
  simp [BitVec.getLsbD_ushiftRight, show 1 + (i : Nat) < 16 by omega]

theorem setWidth_shiftLeft_seven (m : BitVec 8) : (m.setWidth 16 <<< 7).setWidth 8 = m <<< 7 := by
  ext i
  simp [BitVec.getLsbD_shiftLeft, show (i : Nat) < 16 by omega, show (i : Nat) - 7 < 16 by omega]

theorem setWidth_rotateLeft (m c : BitVec 8) :
    ((m.setWidth 16 <<< 1) ||| c.setWidth 16).setWidth 8 = (m <<< 1) ||| c := by
  rw [BitVec.setWidth_or, setWidth_shiftLeft_one, setWidth_setWidth_byte]

theorem setWidth_rotateRight (m c : BitVec 8) :
    ((m.setWidth 16 >>> 1) ||| (c.setWidth 16 <<< 7)).setWidth 8 = (m >>> 1) ||| (c <<< 7) := by
  rw [BitVec.setWidth_or, setWidth_ushiftRight_one, setWidth_shiftLeft_seven]

theorem setWidth_succ_byte (m : BitVec 8) : (m.setWidth 16 + 1).setWidth 8 = m + 1 := by
  bv_omega

theorem setWidth_pred_byte (m : BitVec 8) : (m.setWidth 16 - 1).setWidth 8 = m - 1 := by
  bv_omega

theorem setWidth_sub_byte (r m : BitVec 8) :
    (r.setWidth 16 - m.setWidth 16).setWidth 8 = r - m := by
  bv_omega

/-- `SBX`'s `result < 0x100` is "no borrow": the operand is at most `a & x`. -/
theorem sub_lt_page_iff (r m : BitVec 8) : r.setWidth 16 - m.setWidth 16 < 0x100 ↔ m ≤ r := by
  bv_omega

theorem lxaMagic_eq : lxaMagic = (0xEE : BitVec 8).setWidth 16 := rfl

theorem xaaMagic_eq : xaaMagic = (0xEE : BitVec 8).setWidth 16 := rfl

/-- `PHP` pushes B and U set. -/
theorem status_or_break_bits (p : BitVec 8) : p ||| flagConstant ||| flagBreak = p ||| 0x30 := by
  rw [BitVec.or_assoc]
  rfl

/-! ## The bodies meet the contract -/

section Contract

variable (ext : OutOfLine) (bus : DataBusReadFn)

/-- Every body with a contract but `PLP`, run on an operand byte `m`, has exactly the
contract's effect: no other register, flag or field changes, and no other access. -/
theorem opcodeCycle_eq_apply_contract (op : Opcode) (hop : op ≠ .PLP) (s : M6502) (m : BitVec 8)
    (hv : s.value = m.setWidth 16) {e : Effect}
    (he : op.contract s.regs m (pulled bus s) = some e) :
    opcodeCycle ext bus op s = e.apply s := by
  obtain ⟨ea, ia, value, pc, opcode, a, x, y, status, sp, c1, c2, c3, c4, t, op', trace⟩ := s
  subst hv
  cases op <;> dsimp only [Opcode.contract] at he <;> first | exact absurd rfl hop | cases he
  all_goals
    dsimp only [opcodeCycle, ANC, AND, ASL, BIT, CLC, CLD, CLI, CLV, CMP, CPX, CPY, DEC, DEX, DEY,
      EOR, INC, INX, INY, JMP, LDA, LDX, LDY, LSR, ORA, PHA, PHP, PLA, ROL, ROR, SEC, SED, SEI,
      STA, STX, STY, TAX, TAY, TSX, TXA, TXS, TYA, ASR, LXA, LAS, SAX, SBX, XAA, compare,
      writeValue, push, pull, pulled, M6502.log, Effect.apply, M6502.regs, Regs.load,
      Regs.compareWith, id]
    simp only [Bool.or_false, Bool.or_true, Bool.false_eq_true, ↓reduceIte,
      stackAddress_eq_stackSlot, establishNZ_eq, establishN_eq, establishZ_eq,
      establishC_shiftLeft, establishC_shiftLeft_one, decide_bit0, decide_bit6, decide_bit7,
      sub_lt_page_iff, lxaMagic_eq, xaaMagic_eq, status_or_break_bits,
      ← BitVec.setWidth_and, ← BitVec.setWidth_or, ← BitVec.setWidth_xor,
      setWidth_setWidth_byte, BitVec.setWidth_eq,
      setWidth_shiftLeft_one, setWidth_ushiftRight_one, setWidth_rotateLeft, setWidth_rotateRight,
      setWidth_sub_byte, setWidth_succ_byte, setWidth_pred_byte, pcl_eq_setWidth]

/-- A body's effect does not read or write the intermediate address. -/
theorem Effect.apply_with_ia (e : Effect) (s : M6502) (i : BitVec 16) :
    e.apply { s with ia := i } = { e.apply s with ia := i } := by
  obtain ⟨regs, access, jump, maskIRQ⟩ := e
  cases access <;> cases jump <;> dsimp only [Effect.apply, ite_true, ite_false, Bool.false_eq_true]
  all_goals first | rfl | split <;> rfl

/-! ## Instructions: §4.3, then §4.4 -/

/-- The state an instruction of the chain `m` with the body `op` leaves, from the state `s`
at its `T1`, as §4.3 and §4.4 give it: the state the chain hands over, then the body's
contract on its registers and operand; `none` where §4.4 gives `op` no contract. -/
def instructionSpec (m : Mode) (op : Opcode) (bus : DataBusReadFn) (s : M6502) :
    Option M6502 :=
  let h := m.handOver bus s
  (op.contract h.regs (h.value.setWidth 8) (pulled bus h)).map
    fun e => { e.apply h with addressModeCycleFn := .InstructionFetch }

/-- The operand the chain hands over is a byte when the state's `value` was one. -/
theorem handOver_value_byte (m : Mode) (s : M6502) {v : BitVec 8}
    (hv : s.value = v.setWidth 16) :
    (m.handOver bus s).value = ((m.handOver bus s).value.setWidth 8).setWidth 16 := by
  simp only [Mode.handOver]
  cases (m.reference bus s).run s.trace |>.1.value with
  | none => simp only [Option.map_none', Option.getD_none, hv, setWidth_setWidth_byte]
  | some w => simp only [Option.map_some', Option.getD_some, setWidth_setWidth_byte]

/-- From its `T1`, an instruction of a chain that follows §4.3 with a body that has a
contract but `PLP` leaves `instructionSpec`, up to the intermediate address. -/
theorem run_cycles_eq_instructionSpec (m : Mode) (hm : m.followsReference) (op : Opcode)
    (hop : op ≠ .PLP) (s : M6502) (hs : s.addressModeCycleFn = m.T1) (ho : s.opcodeCycleFn = op)
    (hv : ∃ v : BitVec 8, s.value = v.setWidth 16) {r : M6502}
    (hr : instructionSpec m op bus s = some r) :
    ∃ i, run ext bus m.cycles s = { r with ia := i } := by
  obtain ⟨i, hrun⟩ := chains_refine_reference ext bus m hm s hs
  obtain ⟨v, hv⟩ := hv
  obtain ⟨e, he, rfl⟩ := Option.map_eq_some'.mp hr
  refine ⟨i, ?_⟩
  rw [hrun, executeOpcode, show ({ m.handOver bus s with ia := i } : M6502).opcodeCycleFn = op
    from ho, opcodeCycle_eq_apply_contract ext bus op hop { m.handOver bus s with ia := i } _
      (handOver_value_byte bus m s hv) he,
    Effect.apply_with_ia]

/-- An instruction of any of the twenty-two chains that follow §4.3, with any body that
has a §4.4 contract but `PLP`, run from its `T1` on a state whose `value` is a byte, leaves
the state the specification gives, up to the intermediate address. -/
theorem instructions_meet_spec (m : Mode) (hm : m.followsReference) (op : Opcode)
    (hop : op ≠ .PLP) (s : M6502) (hs : s.addressModeCycleFn = m.T1) (ho : s.opcodeCycleFn = op)
    (hv : ∃ v : BitVec 8, s.value = v.setWidth 16) {r : M6502}
    (hr : instructionSpec m op bus s = some r) :
    ∃ i, run ext bus m.cycles s = { r with ia := i } :=
  run_cycles_eq_instructionSpec ext bus m hm op hop s hs ho hv hr

end Contract

/-- `LDA $10` against a bus holding `0x80` at `0x10`: the instruction the specification
gives, `a = 0x80` with N set. -/
theorem lda_zero_page_meets_spec :
    let bus := romBus [(0, 0x10), (0x10, 0x80)]
    let s : M6502 := { (default : M6502) with addressModeCycleFn := .zp_2_1_T1,
                                               opcodeCycleFn := .LDA }
    Mode.zp_2_1.followsReference ∧ Opcode.LDA ≠ .PLP ∧ s.addressModeCycleFn = Mode.zp_2_1.T1 ∧
      s.opcodeCycleFn = .LDA ∧ (∃ v : BitVec 8, s.value = v.setWidth 16) ∧
      ∃ r, instructionSpec .zp_2_1 .LDA bus s = some r ∧ ∃ i, run default bus 2 s = { r with ia := i } :=
  ⟨rfl, by decide, rfl, rfl, ⟨0, rfl⟩, _, rfl,
    instructions_meet_spec default _ .zp_2_1 rfl .LDA (by decide) _ rfl rfl ⟨0, rfl⟩ rfl⟩

end Cpu6502
