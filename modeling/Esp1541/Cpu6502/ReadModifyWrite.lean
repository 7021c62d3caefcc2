import Esp1541.Cpu6502.BodySpec
import Esp1541.Cpu6502.CycleLaw

/-!
# Read-modify-write bodies

§4.4 calls the undocumented `DCP`, `SLO`, `RLA` and `SRE` compositions: each fuses a
documented read-modify-write (`DEC`, `ASL`, `ROL`, `LSR`) with a documented operation on
`a` (`CMP`, `ORA`, `AND`, `EOR`). m6502.h does not call the two bodies; it recomputes the
second one's flags inline, `DCP` with its own arithmetic (`EstablishNZ(a - result)` where
`CMP` sets Z from `a == value` and N from a 16-bit difference). Read at bytes
(`DCP_of_byte`, `DEC_of_byte`, `CMP_of_byte`, …), every fused body is the documented pair
run in sequence, the second body reading the byte the first wrote at `ea`
(`inSequence`): the same `a`, the same status and the same single store
(`fused_bodies_eq_pairs`). The later flag updates replace the earlier ones
(`nzFrom_nzFrom`, `compare_nzFrom`). `ISB` and `RRA` end in `SBC` and `ADC`, which m6502.cpp
defines; when those ignore the N and Z they are given (`IgnoresNZ`), `ISB` is `INC` then
`SBC` and `RRA` is `ROR` then `ADC`, state for state (`isb_rra_eq_pairs`).

The shifts also run under accumulator addressing. `sb_1_T1` copies `a` into `value` and
calls `ExecuteOpcode`, which runs the body before it schedules the fetch, so the body's
`WriteValue` still sees `sb_1_T1` and stores into `a`; at the last cycle of a memory
read-modify-write chain it writes at `ea`. From the same operand byte and status the two
runs compute the same byte and the same flags (`shift_accumulator_eq_memory`).
-/

namespace Cpu6502

/-! ## Later flag updates replace earlier ones -/

theorem nzFrom_nzFrom (r r' p : BitVec 8) : nzFrom r (nzFrom r' p) = nzFrom r p := by
  simp only [nzFrom, setNIf, setZIf]
  rw [putFlag_comm (by decide) _ _ (putFlag _ _ p), putFlag_putFlag, putFlag_putFlag]

/-- A compare after a load: its N, Z and C replace the load's N and Z. -/
theorem compare_nzFrom (reg m r p : BitVec 8) (c : Bool) :
    setNIf (reg - m).msb (setZIf (reg = m) (setCIf c (nzFrom r p))) =
      nzFrom (reg - m) (setCIf c p) := by
  have hz : decide (reg = m) = decide (reg - m = 0) :=
    decide_eq_decide.mpr ⟨by bv_omega, by bv_omega⟩
  simp only [nzFrom, setNIf, setZIf, setCIf, hz]
  rw [putFlag_comm (f := flagCarry) (by decide), putFlag_comm (f := flagZero) (by decide),
    putFlag_putFlag, putFlag_comm (f := flagCarry) (by decide), putFlag_putFlag]

/-- N and Z are the only bits `nzFrom` touches. -/
theorem nzFrom_or_nz (r p : BitVec 8) :
    nzFrom r p ||| (flagSign ||| flagZero) = p ||| (flagSign ||| flagZero) := by
  rw [nzFrom, setNIf, putFlag_or_of_le (by decide), setZIf, putFlag_or_of_le (by decide)]

/-- `x & 0xff` is the low byte of `x`. -/
theorem and_ff_eq_setWidth (x : BitVec 16) : x &&& 0xff = (x.setWidth 8).setWidth 16 := by
  apply BitVec.eq_of_toNat_eq
  simp only [BitVec.toNat_and, BitVec.toNat_setWidth]
  rw [show BitVec.toNat (255 : BitVec 16) = 2 ^ 8 - 1 from rfl, Nat.and_pow_two_sub_one_eq_mod]
  omega

/-! ## The bodies at bytes -/

section Bytes

variable (s : M6502) {m : BitVec 8} (hv : s.value = m.setWidth 16)
  (hw : s.addressModeCycleFn ≠ .sb_1_T1)

include hv hw

theorem DEC_of_byte :
    DEC s = { s with status := nzFrom (m - 1) s.status }.log (.write s.ea (m - 1)) := by
  simp only [DEC, writeValue, hw, reduceIte, hv, establishNZ_eq, setWidth_pred_byte]

theorem ASL_of_byte :
    ASL s = { s with status := nzFrom (m <<< 1) (setCIf m.msb s.status) }.log
      (.write s.ea (m <<< 1)) := by
  simp only [ASL, writeValue, hw, reduceIte, hv, establishNZ_eq, setWidth_shiftLeft_one,
    establishC_shiftLeft_one]

theorem ROL_of_byte :
    ROL s =
      { s with
        status := nzFrom ((m <<< 1) ||| (s.status &&& flagCarry)) (setCIf m.msb s.status) }.log
        (.write s.ea ((m <<< 1) ||| (s.status &&& flagCarry))) := by
  simp only [ROL, writeValue, hw, reduceIte, hv, establishNZ_eq, setWidth_rotateLeft,
    establishC_shiftLeft]

theorem LSR_of_byte :
    LSR s = { s with status := nzFrom (m >>> 1) (setCIf (m.getLsbD 0) s.status) }.log
      (.write s.ea (m >>> 1)) := by
  simp only [LSR, writeValue, hw, reduceIte, hv, establishNZ_eq, setWidth_ushiftRight_one,
    decide_bit0]

theorem DCP_of_byte :
    DCP s = { s with status := nzFrom (s.a - (m - 1)) (setCIf (m - 1 ≤ s.a) s.status) }.log
      (.write s.ea (m - 1)) := by
  simp only [DCP, writeValue, hw, reduceIte, hv, pcl_eq_setWidth, setWidth_pred_byte,
    establishNZ_eq, setWidth_sub_byte]

theorem SLO_of_byte :
    SLO s = { s with a := s.a ||| (m <<< 1),
                     status := nzFrom (s.a ||| (m <<< 1)) (setCIf m.msb s.status) }.log
      (.write s.ea (m <<< 1)) := by
  simp only [SLO, writeValue, hw, reduceIte, hv, establishNZ_eq, setWidth_shiftLeft_one,
    establishC_shiftLeft_one, setWidth_setWidth_byte]

theorem RLA_of_byte :
    RLA s =
      { s with
        a := s.a &&& ((m <<< 1) ||| (s.status &&& flagCarry)),
        status :=
          nzFrom (s.a &&& ((m <<< 1) ||| (s.status &&& flagCarry))) (setCIf m.msb s.status) }.log
        (.write s.ea ((m <<< 1) ||| (s.status &&& flagCarry))) := by
  simp only [RLA, writeValue, hw, reduceIte, hv, establishNZ_eq, setWidth_rotateLeft,
    establishC_shiftLeft, setWidth_setWidth_byte]

theorem SRE_of_byte :
    SRE s = { s with a := s.a ^^^ (m >>> 1),
                     status := nzFrom (s.a ^^^ (m >>> 1)) (setCIf (m.getLsbD 0) s.status) }.log
      (.write s.ea (m >>> 1)) := by
  simp only [SRE, writeValue, hw, reduceIte, hv, establishNZ_eq, setWidth_ushiftRight_one,
    decide_bit0, setWidth_setWidth_byte]

theorem INC_of_byte :
    INC s = { s with status := nzFrom (m + 1) s.status }.log (.write s.ea (m + 1)) := by
  simp only [INC, writeValue, hw, reduceIte, hv, establishNZ_eq, setWidth_succ_byte]

theorem ROR_of_byte :
    ROR s =
      { s with
        status := nzFrom ((m >>> 1) ||| ((s.status &&& flagCarry) <<< 7))
          (setCIf (m.getLsbD 0) s.status) }.log
        (.write s.ea ((m >>> 1) ||| ((s.status &&& flagCarry) <<< 7))) := by
  simp only [ROR, writeValue, hw, reduceIte, hv, establishNZ_eq, setWidth_rotateRight,
    decide_bit0]

theorem ISB_of_byte (ext : OutOfLine) (bus : DataBusReadFn) :
    ISB ext bus s =
      ext.SBC bus ({ s with value := (m + 1).setWidth 16 }.log (.write s.ea (m + 1))) := by
  simp only [ISB, writeValue, hw, reduceIte, hv, zero_page_succ, setWidth_setWidth_byte]

theorem RRA_of_byte (ext : OutOfLine) (bus : DataBusReadFn) :
    RRA ext bus s =
      ext.ADC bus
        ({ s with
           status := setCIf (m.getLsbD 0) s.status,
           value := ((m >>> 1) ||| ((s.status &&& flagCarry) <<< 7)).setWidth 16 }.log
          (.write s.ea ((m >>> 1) ||| ((s.status &&& flagCarry) <<< 7)))) := by
  simp only [RRA, writeValue, hw, reduceIte, hv, and_ff_eq_setWidth, setWidth_rotateRight,
    decide_bit0]
  rfl

omit hw

theorem CMP_of_byte :
    CMP s =
      { s with
        status := setNIf (s.a - m).msb (setZIf (s.a = m) (setCIf (m ≤ s.a) s.status)) } := by
  simp only [CMP, compare, hv, establishN_eq, setWidth_sub_byte, setWidth_setWidth_byte]

theorem ORA_of_byte : ORA s = { s with a := s.a ||| m, status := nzFrom (s.a ||| m) s.status } := by
  simp only [ORA, hv, establishNZ_eq, BitVec.setWidth_or, setWidth_setWidth_byte]

theorem AND_of_byte : AND s = { s with a := s.a &&& m, status := nzFrom (s.a &&& m) s.status } := by
  simp only [AND, hv, establishNZ_eq, BitVec.setWidth_and, setWidth_setWidth_byte]

theorem EOR_of_byte : EOR s = { s with a := s.a ^^^ m, status := nzFrom (s.a ^^^ m) s.status } := by
  simp only [EOR, hv, establishNZ_eq, BitVec.setWidth_xor, setWidth_setWidth_byte]

end Bytes

/-! ## Fused bodies and the pairs they fuse -/

/-- Two bodies run one after the other on one operand, as §4.4 composes the fused ones: the
second reads, as its `value`, the byte the first left at `ea`. -/
def inSequence (first second : M6502 → M6502) (s : M6502) : M6502 :=
  let r := first s
  second { r with value := (ramBus r.trace s.ea).setWidth 16 }

/-- Two runs from `s` that leave the same `a` and status, each making one access: the same
byte written at `ea`. -/
structure SameStore (s r r' : M6502) : Prop where
  a : r.a = r'.a
  status : r.status = r'.status
  store : ∃ b, r.trace = s.trace ++ [.write s.ea b] ∧ r'.trace = s.trace ++ [.write s.ea b]

/-- When the first body stores `b` at `ea`, the second reads `b`. -/
theorem inSequence_of_store {first : M6502 → M6502} (second : M6502 → M6502) {s : M6502}
    {p b : BitVec 8} (h : first s = { s with status := p }.log (.write s.ea b)) :
    inSequence first second s =
      second ({ s with status := p, value := b.setWidth 16 }.log (.write s.ea b)) := by
  simp only [inSequence, h, ramBus, M6502.log_trace, lastWrite_append_write, reduceIte,
    Option.getD_some]
  rfl

section Fused

variable (s : M6502) {m : BitVec 8} (hv : s.value = m.setWidth 16)
  (hw : s.addressModeCycleFn ≠ .sb_1_T1)

include hv hw

theorem DCP_sameStore : SameStore s (DCP s) (inSequence DEC CMP s) := by
  rw [inSequence_of_store CMP (DEC_of_byte s hv hw), DCP_of_byte s hv hw, CMP_of_byte _ rfl]
  exact ⟨rfl, (compare_nzFrom _ _ _ _ _).symm, _, rfl, rfl⟩

theorem SLO_sameStore : SameStore s (SLO s) (inSequence ASL ORA s) := by
  rw [inSequence_of_store ORA (ASL_of_byte s hv hw), SLO_of_byte s hv hw, ORA_of_byte _ rfl]
  exact ⟨rfl, (nzFrom_nzFrom _ _ _).symm, _, rfl, rfl⟩

theorem RLA_sameStore : SameStore s (RLA s) (inSequence ROL AND s) := by
  rw [inSequence_of_store AND (ROL_of_byte s hv hw), RLA_of_byte s hv hw, AND_of_byte _ rfl]
  exact ⟨rfl, (nzFrom_nzFrom _ _ _).symm, _, rfl, rfl⟩

theorem SRE_sameStore : SameStore s (SRE s) (inSequence LSR EOR s) := by
  rw [inSequence_of_store EOR (LSR_of_byte s hv hw), SRE_of_byte s hv hw, EOR_of_byte _ rfl]
  exact ⟨rfl, (nzFrom_nzFrom _ _ _).symm, _, rfl, rfl⟩

end Fused

/-- For every operand byte `m` and every other field, under memory addressing: `DCP`,
`SLO`, `RLA` and `SRE` leave the `a`, the status and the one store at `ea` of `DEC` then
`CMP`, `ASL` then `ORA`, `ROL` then `AND` and `LSR` then `EOR`, the second body reading the
byte the first wrote; `LAX` is `LDA` then `LDX`. -/
theorem fused_bodies_eq_pairs (s : M6502) (m : BitVec 8) (hv : s.value = m.setWidth 16)
    (hw : s.addressModeCycleFn ≠ .sb_1_T1) :
    SameStore s (DCP s) (inSequence DEC CMP s) ∧ SameStore s (SLO s) (inSequence ASL ORA s) ∧
      SameStore s (RLA s) (inSequence ROL AND s) ∧ SameStore s (SRE s) (inSequence LSR EOR s) ∧
      LAX s = LDX (LDA s) :=
  ⟨DCP_sameStore s hv hw, SLO_sameStore s hv hw, RLA_sameStore s hv hw, SRE_sameStore s hv hw,
    rfl⟩

/-- `DCP $10` at the last cycle of `zp_4_1` with `a = 0x7F` and the operand `0x80`: the
byte written is `0x7F`, equal to `a`, as `DEC` then `CMP` finds. -/
theorem fused_bodies_eq_pairs_dcp :
    let s : M6502 := { (default : M6502) with
      a := 0x7F, value := 0x80, status := 0x21, ea := 0x10, addressModeCycleFn := .zp_4_1_T4 }
    s.value = (0x80 : BitVec 8).setWidth 16 ∧ s.addressModeCycleFn ≠ .sb_1_T1 ∧
      SameStore s (DCP s) (inSequence DEC CMP s) :=
  ⟨rfl, by decide, (fused_bodies_eq_pairs _ 0x80 rfl (by decide)).1⟩

/-! ## `ISB` and `RRA` -/

/-- Modelled from the spec: a body of m6502.cpp that sets N and Z from its own result, as
§4.4 gives `ADC` and `SBC`, does the same whatever N and Z it is given. -/
def IgnoresNZ (f : Cycle) : Prop :=
  ∀ bus (s : M6502) (p : BitVec 8),
    p ||| (flagSign ||| flagZero) = s.status ||| (flagSign ||| flagZero) →
      f bus { s with status := p } = f bus s

/-- With `SBC` and `ADC` that ignore the N and Z they are given, `ISB` is `INC` then `SBC`
and `RRA` is `ROR` then `ADC`, on the byte the first wrote, for every operand byte under
memory addressing: the same state, accesses included. -/
theorem isb_rra_eq_pairs (ext : OutOfLine) (bus : DataBusReadFn) (hsbc : IgnoresNZ ext.SBC)
    (hadc : IgnoresNZ ext.ADC) (s : M6502) (m : BitVec 8) (hv : s.value = m.setWidth 16)
    (hw : s.addressModeCycleFn ≠ .sb_1_T1) :
    ISB ext bus s = inSequence INC (ext.SBC bus) s ∧
      RRA ext bus s = inSequence ROR (ext.ADC bus) s := by
  rw [ISB_of_byte s hv hw, RRA_of_byte s hv hw, inSequence_of_store _ (INC_of_byte s hv hw),
    inSequence_of_store _ (ROR_of_byte s hv hw)]
  exact ⟨(hsbc bus _ _ (nzFrom_or_nz _ _)).symm, (hadc bus _ _ (nzFrom_or_nz _ _)).symm⟩

/-- Out-of-line `SBC` and `ADC` that set N and Z and nothing else ignore the N and Z they
are given, and `ISB $10` on `0xFF` is `INC $10` then `SBC`. -/
theorem isb_rra_eq_pairs_zp :
    let setNZ : Cycle := fun _ s => { s with status := s.status ||| (flagSign ||| flagZero) }
    let ext : OutOfLine := { (default : OutOfLine) with SBC := setNZ, ADC := setNZ }
    let s : M6502 := { (default : M6502) with
      value := 0xFF, ea := 0x10, addressModeCycleFn := .zp_4_1_T4 }
    IgnoresNZ ext.SBC ∧ IgnoresNZ ext.ADC ∧ s.value = (0xFF : BitVec 8).setWidth 16 ∧
      s.addressModeCycleFn ≠ .sb_1_T1 ∧
      ISB ext ramBus s = inSequence INC (ext.SBC ramBus) s := by
  intro setNZ ext s
  have h : IgnoresNZ setNZ := fun _ _ _ hp => by simp only [setNZ, hp]
  exact ⟨h, h, rfl, by decide, (isb_rra_eq_pairs ext ramBus h h s 0xFF rfl (by decide)).1⟩

/-! ## Shifts on the accumulator and on memory -/

section Shifts

variable (ext : OutOfLine) (bus : DataBusReadFn)

/-- `sb_1_T1`: a read at `pc`, `value = a`, then the body. -/
theorem step_of_sb_1_T1 {s : M6502} (h : s.addressModeCycleFn = .sb_1_T1) :
    step ext bus s =
      executeOpcode ext bus { s.log (.read s.pc) with value := s.a.setWidth 16 } := by
  rw [step, h]; rfl

/-- The last cycle of a memory read-modify-write chain runs the body and nothing else. -/
theorem step_of_readModifyWrite_last {mode : Mode}
    (hmode : mode ∈ [Mode.zp_4_1, .abs_4_2, .zpx_4_3, .absx_4_4, .absy_4_4]) {s : M6502}
    (h : s.addressModeCycleFn = mode.last) : step ext bus s = executeOpcode ext bus s := by
  simp only [List.mem_cons, List.mem_singleton, List.not_mem_nil, or_false] at hmode
  rw [step, h]
  rcases hmode with rfl | rfl | rfl | rfl | rfl <;> rfl

theorem readModifyWrite_last_ne {mode : Mode}
    (hmode : mode ∈ [Mode.zp_4_1, .abs_4_2, .zpx_4_3, .absx_4_4, .absy_4_4]) :
    mode.last ≠ .sb_1_T1 := by
  simp only [List.mem_cons, List.mem_singleton, List.not_mem_nil, or_false] at hmode
  rcases hmode with rfl | rfl | rfl | rfl | rfl <;> decide

/-- A shift run from `sb_1_T1` with `a = m`, and from the last cycle of a memory
read-modify-write chain with `value = m`, on the same status: the same status, the
accumulator run storing the result in `a` after its one read at `pc`, the memory run
leaving `a` and writing that result once, at `ea`. -/
theorem shift_accumulator_eq_memory {op : Opcode} (hop : op.shifts) {mode : Mode}
    (hmode : mode ∈ [Mode.zp_4_1, .abs_4_2, .zpx_4_3, .absx_4_4, .absy_4_4]) (s : M6502)
    (m : BitVec 8) :
    let acc := step ext bus { s with a := m, addressModeCycleFn := .sb_1_T1, opcodeCycleFn := op }
    let mem := step ext bus
      { s with value := m.setWidth 16, addressModeCycleFn := mode.last, opcodeCycleFn := op }
    acc.status = mem.status ∧ acc.trace = s.trace ++ [.read s.pc] ∧
      mem.trace = s.trace ++ [.write s.ea acc.a] ∧ mem.a = s.a := by
  have hne := readModifyWrite_last_ne hmode
  dsimp only
  rw [step_of_sb_1_T1 ext bus rfl, step_of_readModifyWrite_last ext bus hmode rfl]
  cases op <;> first | exact absurd hop (by decide) |
    simp only [executeOpcode, opcodeCycle, ASL, LSR, ROL, ROR, writeValue, hne, reduceIte,
      M6502.log, and_self]

end Shifts

/-- `ASL` on `0x81` with C clear, as `ASL A` and as `ASL $10,X`: both store `0x02`, the one
in `a`, the other at `ea`. -/
theorem shift_accumulator_eq_memory_asl :
    let s : M6502 := { (default : M6502) with status := 0x20, ea := 0x10 }
    let acc := step default ramBus
      { s with a := 0x81, addressModeCycleFn := .sb_1_T1, opcodeCycleFn := .ASL }
    let mem := step default ramBus
      { s with
        value := (0x81 : BitVec 8).setWidth 16, addressModeCycleFn := Mode.zpx_4_3.last,
        opcodeCycleFn := .ASL }
    Opcode.shifts .ASL ∧
      Mode.zpx_4_3 ∈ [Mode.zp_4_1, .abs_4_2, .zpx_4_3, .absx_4_4, .absy_4_4] ∧
      mem.trace = s.trace ++ [.write s.ea acc.a] ∧ acc.a = 0x02 :=
  ⟨rfl, by decide,
    (@shift_accumulator_eq_memory default ramBus .ASL rfl .zpx_4_3 (by decide) _ 0x81).2.2.1,
    by decide⟩

end Cpu6502
