import Esp1541.Cpu6502.Chains

/-!
# The address-mode chains against the table of §4.3

§4.3 of the specification says, mode by mode, which accesses an instruction makes after
its opcode fetch and what it leaves for the opcode body. `Mode.reference` writes that
table as a program on the bus (`BusProgram`): operand bytes at `pc` and `pc + 1`,
zero-page sums and pointer bytes wrapping in page zero (`(zp + x).setWidth 16`), two-byte
addresses as `hi ++ lo`, the stack at `0x0100 | sp`, dummy reads of the indexed modes at
the un-carried address `hi ++ (lo + i)`, and the second pointer byte of `JMP (ind)` in
the pointer's own page.

A chain follows the table when its run from `T1` is the body applied to the state the
reference hands over (`Mode.handOver`): the same accesses, the same `pc`, `sp` and
status, the effective address and operand byte where the mode forms them, and nothing
else changed but the intermediate address `ia`. Twenty-two of the twenty-nine chains do, for every state and every bus
(`chains_refine_reference`), and no other does (`chain_refines_reference_iff`). The
other seven put an access elsewhere (`indexed_accesses_miss_reference`):

* `abs5_6_2_T3` reads the pointer's low byte with `ea = BUS_READ(ia++)`, and `ia` is 16
  bits wide, so `JMP ($10FF)` reads the high byte at `$1100`, not at `$1000`;
* `absx_3_4_T3` and `absy_3_4_T3` make the dummy read at the base address before adding
  the index, not at the un-carried sum;
* `idy_3_6_T4` (and `idy_Undoc_T4`, `absx_4_4_T3`, `absy_4_4_T3`) add the index first, so
  the dummy read is at the carried address.
-/

namespace Cpu6502

/-! ## Programs on the bus -/

/-- A program of the reference: reads and writes on the bus, with every access made so
far as its state. -/
abbrev BusProgram := StateM (List Access)

/-- A read of `address`, answered by the host from the accesses before it. -/
def busRead (bus : DataBusReadFn) (address : BitVec 16) : BusProgram (BitVec 8) :=
  fun past => (bus past address, past ++ [.read address])

/-- A write of `byte` at `address`. -/
def busWrite (address : BitVec 16) (byte : BitVec 8) : BusProgram Unit :=
  fun past => ((), past ++ [.write address byte])

/-- The stack slot of `sp`: §3 puts the stack at `0x0100 | sp`. -/
def stackSlot (sp : BitVec 8) : BitVec 16 := 0x0100 ||| sp.setWidth 16

/-- What an address mode hands to the opcode body: the `pc`, `sp` and status the body
starts from, the effective address where the mode forms one, and the operand byte where
it reads one. -/
structure Operand where
  pc : BitVec 16
  sp : BitVec 8
  status : BitVec 8
  ea : Option (BitVec 16) := none
  value : Option (BitVec 8) := none

/-- The registers of `s` handed on unchanged, with the `pc` at `pc`. -/
def M6502.operand (s : M6502) (pc : BitVec 16) : Operand :=
  { pc := pc, sp := s.sp, status := s.status }

/-! ## The table of §4.3 -/

/-- The reference of §4.3, written from the specification: the accesses of each mode's
chain and what it hands the body, from the state `s` its `T1` starts in. -/
def Mode.reference (bus : DataBusReadFn) (s : M6502) : Mode → BusProgram Operand
  | .sb_1 => do
    let _ ← busRead bus s.pc
    pure { s.operand s.pc with value := some s.a }
  | .imm_2_1 => do
    let v ← busRead bus s.pc
    pure { s.operand (s.pc + 1) with value := some v }
  | .zp_2_1 => do
    let zp ← busRead bus s.pc
    let v ← busRead bus (zp.setWidth 16)
    pure { s.operand (s.pc + 1) with ea := some (zp.setWidth 16), value := some v }
  | .zp_3_1 => do
    let zp ← busRead bus s.pc
    pure { s.operand (s.pc + 1) with ea := some (zp.setWidth 16) }
  | .zp_4_1 => do
    let zp ← busRead bus s.pc
    let v ← busRead bus (zp.setWidth 16)
    busWrite (zp.setWidth 16) v
    pure { s.operand (s.pc + 1) with ea := some (zp.setWidth 16), value := some v }
  | .abs_2_3 => do
    let lo ← busRead bus s.pc
    let hi ← busRead bus (s.pc + 1)
    let v ← busRead bus (hi ++ lo)
    pure { s.operand (s.pc + 2) with ea := some (hi ++ lo), value := some v }
  | .abs_3_2 => do
    let lo ← busRead bus s.pc
    let hi ← busRead bus (s.pc + 1)
    pure { s.operand (s.pc + 2) with ea := some (hi ++ lo) }
  | .abs_4_2 => do
    let lo ← busRead bus s.pc
    let hi ← busRead bus (s.pc + 1)
    let v ← busRead bus (hi ++ lo)
    busWrite (hi ++ lo) v
    pure { s.operand (s.pc + 2) with ea := some (hi ++ lo), value := some v }
  | .zpx_2_6 => zeroPageIndexedRead s.x
  | .zpy_2_6 => zeroPageIndexedRead s.y
  | .zpx_3_5 => do
    let zp ← busRead bus s.pc
    let _ ← busRead bus (zp.setWidth 16)
    pure { s.operand (s.pc + 1) with ea := some ((zp + s.x).setWidth 16) }
  | .zpy_3_5 => do
    let zp ← busRead bus s.pc
    let _ ← busRead bus (zp.setWidth 16)
    pure { s.operand (s.pc + 1) with ea := some ((zp + s.y).setWidth 16) }
  | .zpx_4_3 => do
    let zp ← busRead bus s.pc
    let _ ← busRead bus (zp.setWidth 16)
    let e := (zp + s.x).setWidth 16
    let v ← busRead bus e
    busWrite e v
    pure { s.operand (s.pc + 1) with ea := some e, value := some v }
  | .idx_2_4 => do
    let e ← indexedIndirect
    let v ← busRead bus e
    pure { s.operand (s.pc + 1) with ea := some e, value := some v }
  | .idx_3_3 => do
    let e ← indexedIndirect
    pure { s.operand (s.pc + 1) with ea := some e }
  | .idx_Undoc => do
    let e ← indexedIndirect
    let v ← busRead bus e
    busWrite e v
    pure { s.operand (s.pc + 1) with ea := some e, value := some v }
  | .absx_3_4 => absoluteIndexedWrite s.x
  | .absy_3_4 => absoluteIndexedWrite s.y
  | .absx_4_4 => absoluteIndexedModify s.x
  | .absy_4_4 => absoluteIndexedModify s.y
  | .idy_3_6 => do
    let e ← indirectIndexed
    pure { s.operand (s.pc + 1) with ea := some e }
  | .idy_Undoc => do
    let e ← indirectIndexed
    let v ← busRead bus e
    busWrite e v
    pure { s.operand (s.pc + 1) with ea := some e, value := some v }
  | .ph_5_1 => do
    let _ ← busRead bus s.pc
    pure (s.operand s.pc)
  | .pl_5_2 => do
    let _ ← busRead bus s.pc
    let _ ← busRead bus (stackSlot s.sp)
    pure (s.operand s.pc)
  | .jsr_5_3 => do
    let lo ← busRead bus s.pc
    let _ ← busRead bus (stackSlot s.sp)
    busWrite (stackSlot s.sp) ((s.pc + 1).extractLsb' 8 8)
    busWrite (stackSlot (s.sp - 1)) ((s.pc + 1).setWidth 8)
    let hi ← busRead bus (s.pc + 1)
    pure { s.operand (hi ++ lo) with sp := s.sp - 2, ea := some (hi ++ lo) }
  | .rts_5_7 => do
    let _ ← busRead bus s.pc
    let _ ← busRead bus (stackSlot s.sp)
    let lo ← busRead bus (stackSlot (s.sp + 1))
    let hi ← busRead bus (stackSlot (s.sp + 2))
    let _ ← busRead bus (hi ++ lo)
    pure { s.operand (hi ++ lo + 1) with sp := s.sp + 2 }
  | .rti_5_5 => do
    let _ ← busRead bus s.pc
    let _ ← busRead bus (stackSlot s.sp)
    let p ← busRead bus (stackSlot (s.sp + 1))
    let lo ← busRead bus (stackSlot (s.sp + 2))
    let hi ← busRead bus (stackSlot (s.sp + 3))
    pure { s.operand (hi ++ lo) with sp := s.sp + 3, status := p }
  | .abs5_6_1 => do
    let lo ← busRead bus s.pc
    let hi ← busRead bus (s.pc + 1)
    pure { s.operand (s.pc + 2) with ea := some (hi ++ lo) }
  | .abs5_6_2 => do
    let lo ← busRead bus s.pc
    let hi ← busRead bus (s.pc + 1)
    let targetLo ← busRead bus (hi ++ lo)
    let targetHi ← busRead bus (hi ++ (lo + 1))
    pure { s.operand (s.pc + 2) with ea := some (targetHi ++ targetLo) }
where
  /-- Zero page indexed, read: the address, a dummy read of it, then the operand at the
  sum in page zero. -/
  zeroPageIndexedRead (i : BitVec 8) : BusProgram Operand := do
    let zp ← busRead bus s.pc
    let _ ← busRead bus (zp.setWidth 16)
    let e := (zp + i).setWidth 16
    let v ← busRead bus e
    pure { s.operand (s.pc + 1) with ea := some e, value := some v }
  /-- `(zp,X)`: the pointer, a dummy read of it, then the two address bytes at
  `ptr + x` and `ptr + x + 1` in page zero. -/
  indexedIndirect : BusProgram (BitVec 16) := do
    let ptr ← busRead bus s.pc
    let _ ← busRead bus (ptr.setWidth 16)
    let lo ← busRead bus ((ptr + s.x).setWidth 16)
    let hi ← busRead bus ((ptr + s.x + 1).setWidth 16)
    pure (hi ++ lo)
  /-- `(zp),Y`, indexed write: the pointer, the two base bytes in page zero, then the
  dummy read at the un-carried address. -/
  indirectIndexed : BusProgram (BitVec 16) := do
    let ptr ← busRead bus s.pc
    let lo ← busRead bus (ptr.setWidth 16)
    let hi ← busRead bus ((ptr + 1).setWidth 16)
    let _ ← busRead bus (hi ++ (lo + s.y))
    pure (hi ++ lo + s.y.setWidth 16)
  /-- Absolute indexed, write: the two base bytes, then the dummy read at the un-carried
  address. -/
  absoluteIndexedWrite (i : BitVec 8) : BusProgram Operand := do
    let lo ← busRead bus s.pc
    let hi ← busRead bus (s.pc + 1)
    let _ ← busRead bus (hi ++ (lo + i))
    pure { s.operand (s.pc + 2) with ea := some (hi ++ lo + i.setWidth 16) }
  /-- Absolute indexed, read-modify-write: as the write, then the operand at the sum and
  its dummy write. -/
  absoluteIndexedModify (i : BitVec 8) : BusProgram Operand := do
    let lo ← busRead bus s.pc
    let hi ← busRead bus (s.pc + 1)
    let _ ← busRead bus (hi ++ (lo + i))
    let e := hi ++ lo + i.setWidth 16
    let v ← busRead bus e
    busWrite e v
    pure { s.operand (s.pc + 2) with ea := some e, value := some v }

/-- The chains m6502.h writes as the table: all but the indexed writes and
read-modify-writes and `JMP (ind)`. -/
def Mode.followsReference : Mode → Bool
  | .absx_3_4 | .absy_3_4 | .absx_4_4 | .absy_4_4 | .idy_3_6 | .idy_Undoc | .abs5_6_2 => false
  | _ => true

/-- The state §4.3 hands the body of an instruction of the chain `m` started in `s`: `s`
with the reference's accesses, `pc`, `sp` and status, its effective address and operand
where it forms them, and the cursor at the chain's last cycle. -/
def Mode.handOver (m : Mode) (bus : DataBusReadFn) (s : M6502) : M6502 :=
  let r := (m.reference bus s).run s.trace
  { s with trace := r.2, pc := r.1.pc, sp := r.1.sp, status := r.1.status,
           ea := r.1.ea.getD s.ea, value := (r.1.value.map (·.setWidth 16)).getD s.value,
           addressModeCycleFn := m.last }

/-! ## Bytes and addresses -/

/-- The code's `lo | (hi << 8)` is the address with high byte `hi` and low byte `lo`. -/
theorem join_eq_append (lo hi : BitVec 8) : lo.setWidth 16 ||| hi.setWidth 16 <<< 8 = hi ++ lo := by
  ext i
  simp only [BitVec.getLsbD_or, BitVec.getLsbD_setWidth, BitVec.getLsbD_shiftLeft,
    BitVec.getLsbD_append]
  by_cases h : (i : Nat) < 8
  · simp [h]
  · simp [h, BitVec.getLsbD_ge lo i (by omega), show (i : Nat) - 8 < 16 by omega]

/-- `0x100 + sp` and `0x0100 | sp` are one slot: the sum never carries out of `sp`. -/
theorem stackAddress_eq_stackSlot (sp : BitVec 8) : stackAddress sp = stackSlot sp := by
  rw [stackAddress, stackSlot, BitVec.add_eq_or_of_and_eq_zero]
  ext i
  simp only [BitVec.getLsbD_and, BitVec.getLsbD_setWidth, BitVec.getLsbD_zero]
  by_cases h : (i : Nat) < 8
  · have h256 : Nat.testBit 256 i = false := by
      rw [show (256 : Nat) = 2 ^ 8 from rfl, Nat.testBit_two_pow]
      simp only [decide_eq_false_iff_not]
      omega
    simp [BitVec.getLsbD_ofNat, h256]
  · simp [BitVec.getLsbD_ge sp i (by omega)]

/-- `(ea + reg) & 0xFF` on a zero-page address is the 8-bit sum. -/
theorem zpIndex_setWidth (zp reg : BitVec 8) :
    zpIndex reg (zp.setWidth 16) = (zp + reg).setWidth 16 := by
  apply BitVec.eq_of_toNat_eq
  simp only [zpIndex, BitVec.toNat_and, BitVec.toNat_add, BitVec.toNat_setWidth]
  rw [show BitVec.toNat (255 : BitVec 16) = 2 ^ 8 - 1 from rfl, Nat.and_pow_two_sub_one_eq_mod]
  omega

/-- `ia & 0xff` one past a zero-page address is the next byte of page zero. -/
theorem zero_page_succ (zp : BitVec 8) :
    (zp.setWidth 16 + 1) &&& 0xff = (zp + 1).setWidth 16 :=
  zpIndex_setWidth zp 1

/-- `(uint8_t)(pc >> 8)`, the byte `JSR` pushes first, is the high byte. -/
theorem pch_eq_extractLsb (v : BitVec 16) : (v >>> 8).setWidth 8 = v.extractLsb' 8 8 := by
  ext i
  simp [BitVec.getLsbD_extractLsb']

/-- `pc & 0xff` is the low byte. -/
theorem pcl_eq_setWidth (v : BitVec 16) : (v &&& 0xff).setWidth 8 = v.setWidth 8 := by
  apply BitVec.eq_of_toNat_eq
  simp only [BitVec.toNat_and, BitVec.toNat_setWidth]
  rw [show BitVec.toNat (255 : BitVec 16) = 2 ^ 8 - 1 from rfl, Nat.and_pow_two_sub_one_eq_mod]
  omega

theorem setWidth_setWidth_byte (v : BitVec 8) : (v.setWidth 16).setWidth 8 = v := by
  apply BitVec.eq_of_toNat_eq
  simp only [BitVec.toNat_setWidth]
  omega

theorem pc_add_one_add_one (v : BitVec 16) : v + 1 + 1 = v + 2 := by bv_omega
theorem sp_add_one_add_one (v : BitVec 8) : v + 1 + 1 = v + 2 := by bv_omega
theorem sp_add_two_add_one (v : BitVec 8) : v + 2 + 1 = v + 3 := by bv_omega
theorem sp_sub_one_sub_one (v : BitVec 8) : v - 1 - 1 = v - 2 := by bv_omega

/-! ## The chains refine the table -/

section Refinement

variable (ext : OutOfLine) (bus : DataBusReadFn)

/-- Each of the twenty-two chains that follow the table, from its `T1` in any state and
against any bus, runs its body once, in the state the reference hands over; only the
intermediate address `ia` is left to the code. -/
theorem chains_refine_reference (m : Mode) (hm : m.followsReference) (s : M6502)
    (hs : s.addressModeCycleFn = m.T1) :
    ∃ i, run ext bus m.cycles s = executeOpcode ext bus { m.handOver bus s with ia := i } := by
  obtain ⟨ea, ia, value, pc, opcode, a, x, y, status, sp, c1, c2, c3, c4, t, op, trace⟩ := s
  subst hs
  rw [run_cycles_eq_callStages ext bus m _ rfl]
  cases m <;> first | exact absurd hm (by decide) | skip
  all_goals
    dsimp only [Mode.stages, callStages, List.foldl, stageCycle, sb_1_T1, imm_2_1_T1,
      zp_2_1_T1, zp_2_1_T2, zp_3_1_T1, zp_3_1_T2, zp_4_1_T1, zp_4_1_T2, zp_4_1_T3, zp_4_1_T4,
      abs_2_3_T1, abs_2_3_T2, abs_2_3_T3, abs_3_2_T1, abs_3_2_T2, abs_3_2_T3,
      abs_4_2_T1, abs_4_2_T2, abs_4_2_T3, abs_4_2_T4, abs_4_2_T5,
      zpx_2_6_T1, zpx_2_6_T2, zpx_2_6_T3, zpx_3_5_T1, zpx_3_5_T2, zpx_3_5_T3,
      zpx_4_3_T1, zpx_4_3_T2, zpx_4_3_T3, zpx_4_3_T4, zpx_4_3_T5,
      zpy_2_6_T1, zpy_2_6_T2, zpy_2_6_T3, zpy_3_5_T1, zpy_3_5_T2, zpy_3_5_T3,
      idx_2_4_T1, idx_2_4_T2, idx_2_4_T3, idx_2_4_T4, idx_2_4_T5,
      idx_3_3_T1, idx_3_3_T2, idx_3_3_T3, idx_3_3_T4, idx_3_3_T5,
      idx_Undoc_T1, idx_Undoc_T2, idx_Undoc_T3, idx_Undoc_T4, idx_Undoc_T5, idx_Undoc_T6,
      idx_Undoc_T7, ph_5_1_T1, ph_5_1_T2, pl_5_2_T1, pl_5_2_T2, pl_5_2_T3,
      jsr_5_3_T1, jsr_5_3_T2, jsr_5_3_T3, jsr_5_3_T4, jsr_5_3_T5,
      rts_5_7_T1, rts_5_7_T2, rts_5_7_T3, rts_5_7_T4, rts_5_7_T5,
      rti_5_5_T1, rti_5_5_T2, rti_5_5_T3, rti_5_5_T4, rti_5_5_T5, abs5_6_1_T1, abs5_6_1_T2,
      fetchEa, fetchEaHigh, fetchIa, dummyReadPc, dummyReadEa, dummyReadIa, dummyReadStack,
      readValue, readValueExecute, writeBack, zpIndexReadValue, indexPointerLow, pointerHigh,
      pushPch, pushPcl, push, pull, pulled, M6502.log, Mode.handOver, Mode.last,
      Mode.reference, Mode.reference.zeroPageIndexedRead, Mode.reference.indexedIndirect,
      M6502.operand, busRead, busWrite, bind, StateT.bind, pure, StateT.pure, StateT.run,
      Option.getD, Option.map]
    try simp only [join_eq_append, stackAddress_eq_stackSlot, zpIndex_setWidth, zero_page_succ,
      pch_eq_extractLsb, pcl_eq_setWidth, setWidth_setWidth_byte, pc_add_one_add_one,
      sp_add_one_add_one, sp_add_two_add_one, sp_sub_one_sub_one]
    exact ⟨_, rfl⟩

/-- Under a body that does nothing, a run that follows the table leaves its accesses. -/
theorem trace_run_of_handOver {m : Mode} {s : M6502} (hop : s.opcodeCycleFn = .NOP)
    (h : ∃ i, run ext bus m.cycles s = executeOpcode ext bus { m.handOver bus s with ia := i }) :
    (run ext bus m.cycles s).trace = ((m.reference bus s).run s.trace).2 := by
  obtain ⟨i, h⟩ := h
  rw [h, executeOpcode]
  simp only [Mode.handOver, hop]
  rfl

end Refinement

/-- A chain refines the table for every out-of-line part, bus and state exactly when it is
one of the twenty-two: each of the other seven misses it on some operand. -/
theorem chain_refines_reference_iff (m : Mode) :
    (∀ (ext : OutOfLine) (bus : DataBusReadFn) (s : M6502), s.addressModeCycleFn = m.T1 →
      ∃ i, run ext bus m.cycles s = executeOpcode ext bus { m.handOver bus s with ia := i }) ↔
      m.followsReference := by
  refine ⟨fun h => ?_, fun hm ext bus s hs => chains_refine_reference ext bus m hm s hs⟩
  -- The operand `$12FF`, or the pointer `$FF` to `$FFFF`, with both indexes at 1.
  have key := trace_run_of_handOver default (romBus [(0, 0xFF), (1, 0x12), (0xFF, 0xFF)]) rfl
    (h default _ { (default : M6502) with x := 1, y := 1, addressModeCycleFn := m.T1,
                                          opcodeCycleFn := .NOP } rfl)
  cases m <;> first | rfl | exact absurd key (by decide)

/-- `JMP ($10FF)`, `STA $1234,X` with `x = 1`, and `STA ($10),Y` with the pointer
`$12FF` and `y = 1`, each against a bus holding only the operand bytes. -/
theorem indexed_accesses_miss_reference :
    (run default (romBus [(0, 0xFF), (1, 0x10)]) 4
        { (default : M6502) with addressModeCycleFn := .abs5_6_2_T1,
                                 opcodeCycleFn := .JMP }).trace =
      [.read 0, .read 1, .read 0x10FF, .read 0x1100] ∧
    (run default (romBus [(0, 0x34), (1, 0x12)]) 4
        { (default : M6502) with x := 1, addressModeCycleFn := .absx_3_4_T1,
                                 opcodeCycleFn := .STA }).trace =
      [.read 0, .read 1, .read 0x1234, .write 0x1235 0] ∧
    (run default (romBus [(0, 0x10), (0x10, 0xFF), (0x11, 0x12)]) 5
        { (default : M6502) with y := 1, addressModeCycleFn := .idy_3_6_T1,
                                 opcodeCycleFn := .STA }).trace =
      [.read 0, .read 0x10, .read 0x11, .read 0x1300, .write 0x1300 0] := by
  decide

end Cpu6502
