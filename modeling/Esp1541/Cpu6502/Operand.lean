import Esp1541.Cpu6502.Scratch
import Esp1541.Cpu6502.Status

/-!
# The operand is a byte

`value` is a `uint16_t`, and the shifts, the compares, `INC`, `DEC`, `SBX` and `DCP`
compute on it in 16 bits, with flag formulas that are right for an 8-bit operand. Every
assignment to `value` in m6502.h stores a byte: a bus read, `a` in `sb_1_T1`,
`(value + 1) & 0xff` in `ISB` and `result & 0xff` in `RRA`; every other cycle and body
leaves it alone (`opcodeCycle_value_lt`, `stageCycle_value_lt`). So a byte in `value`
stays a byte along every run, given that the functions of m6502.cpp keep it one
(`KeepsValueByte`, `run_value_lt`).

Neither constructor of m6502.h sets `value`, and no reset cycle assigns it
(`run_reset`): a CPU constructed over storage that held a value above `0xFF`
still holds it at its first instruction fetch (`value_survives_reset`). That value is
never an operand: a body reads `value` only on a chain that sets it
(`Serves.readsScratch`), and such a chain hands its body a byte whatever `value` held
before (`served_operand_is_byte`).
-/

namespace Cpu6502

theorem and_ff_toNat_lt (v : BitVec 16) : (v &&& 0xff).toNat < 256 := by
  rw [BitVec.toNat_and, show BitVec.toNat (255 : BitVec 16) = 2 ^ 8 - 1 from rfl,
    Nat.and_pow_two_sub_one_eq_mod]
  exact Nat.mod_lt _ (by decide)

theorem value_lt_writeValue {b : BitVec 8} {s : M6502} (hs : s.value.toNat < 256) :
    (writeValue b s).value.toNat < 256 := by
  rwa [writeValue_value]

theorem value_lt_branchCondition {flag condition : BitVec 8} {bus : DataBusReadFn} {s : M6502}
    (hs : s.value.toNat < 256) : (branchCondition flag condition bus s).value.toNat < 256 := by
  rwa [branchCondition_value]

/-- The functions of m6502.cpp keep `value` a byte: a hypothesis on the parameters. -/
def KeepsValueByte (ext : OutOfLine) : Prop :=
  ∀ f ∈ [ext.InstructionFetch, ext.InstructionFetchIRQ, ext.rel_5_8_T2, ext.absx_2_5_T3,
    ext.absy_2_5_T3, ext.idy_2_7_T4, ext.brk_5_4_T4, ext.IRQ_T4, ext.ADC, ext.SBC, ext.ARR],
    ∀ bus s, s.value.toNat < 256 → (f bus s).value.toNat < 256

section Invariant

variable {ext : OutOfLine} (bus : DataBusReadFn)

/-- Every body keeps a byte in `value`: `ISB` and `RRA` store a masked byte before they call
`SBC` and `ADC`, and the bodies of m6502.h leave it alone. -/
theorem opcodeCycle_value_lt (hext : KeepsValueByte ext) (op : Opcode) (s : M6502)
    (hs : s.value.toNat < 256) : (opcodeCycle ext bus op s).value.toNat < 256 := by
  cases op
  case ADC | SBC | ARR => exact hext _ (by simp) bus s hs
  case ISB => exact hext _ (by simp) bus _ (by rw [writeValue_value]; exact and_ff_toNat_lt _)
  case RRA => exact hext _ (by simp) bus _ (and_ff_toNat_lt _)
  case BCC | BCS | BEQ | BMI | BNE | BPL | BVC | BVS => exact value_lt_branchCondition hs
  case ASL | DEC | INC | LSR | ROL | ROR | STA | STX | STY | SAX | SHA | SHX | SHY | SHS | DCP
    | SLO | RLA | SRE => exact value_lt_writeValue hs
  all_goals exact hs

/-- Every cycle keeps a byte in `value`; those that assign it store a byte. -/
theorem stageCycle_value_lt (hext : KeepsValueByte ext) (t : Stage) (s : M6502)
    (hs : s.value.toNat < 256) : (stageCycle ext bus t s).value.toNat < 256 := by
  cases hin : t.inHeader
  · obtain ⟨f, hf, h⟩ := stageCycle_of_not_inHeader ext bus hin
    rw [h]
    exact hext f (List.mem_append_left _ hf) bus s hs
  by_cases hrti : t = .rti_5_5_T3
  · subst hrti
    exact hs
  obtain ⟨r, hstep, hr⟩ := stageCycle_frame ext bus hin hrti s
  have hv : r.value.toNat < 256 := by
    rcases hr.value with h | ⟨b, h⟩ <;> rw [h]
    · exact hs
    · exact setWidth_toNat_lt b
  rcases hstep with h | h | h <;> rw [h]
  · exact hv
  all_goals exact opcodeCycle_value_lt bus hext _ r hv

/-- With the functions of m6502.cpp keeping `value` a byte, every run from a state with a
byte in `value` keeps one there. -/
theorem run_value_lt (hext : KeepsValueByte ext) :
    ∀ (n : Nat) (s : M6502), s.value.toNat < 256 → (run ext bus n s).value.toNat < 256
  | 0, _, hs => hs
  | n + 1, s, hs => run_value_lt hext n (step ext bus s) (stageCycle_value_lt bus hext _ s hs)

end Invariant

/-- The out-of-line functions leaving the state as it is keep `value` a byte, and a reset
from a constructed CPU with `value = 0` keeps it one. -/
theorem run_value_lt_reset :
    let ext : OutOfLine := ⟨fun _ s => s, fun _ s => s, fun _ s => s, fun _ s => s,
      fun _ s => s, fun _ s => s, fun _ s => s, fun _ s => s, fun _ s => s, fun _ s => s,
      fun _ s => s⟩
    let s : M6502 := { (default : M6502) with status := flagConstant,
                                               addressModeCycleFn := .Reset_T0 }
    KeepsValueByte ext ∧ s.value.toNat < 256 ∧ (run ext ramBus 7 s).value.toNat < 256 := by
  intro ext s
  have hkeep : KeepsValueByte ext := fun f hf _ _ hs => by
    simp only [ext, List.mem_cons, List.mem_singleton, or_self, List.not_mem_nil, or_false] at hf
    subst hf
    exact hs
  exact ⟨hkeep, by decide, run_value_lt ramBus hkeep 7 s (by decide)⟩

/-! ## The operand a body reads -/

section Served

variable (ext : OutOfLine) (bus : DataBusReadFn)

/-- A chain that sets `value`, run with the empty body from its `T1`, ends with a byte in
`value`, whatever `value` held before. -/
theorem run_value_lt_of_setsValue (m : Mode) (hm : m.setsValue) (s : M6502)
    (hs : s.addressModeCycleFn = m.T1) (hnop : s.opcodeCycleFn = .NOP) :
    (run ext bus m.cycles s).value.toNat < 256 := by
  obtain ⟨i, hi⟩ := run_cycles_eq_program ext bus m s hs
  obtain ⟨b, hb⟩ := Option.isSome_iff_exists.mp (Mode.program_value_isSome bus hm s)
  rw [hi]
  dsimp only [executeOpcode, Mode.programHandOver]
  rw [hnop, hb]
  exact setWidth_toNat_lt _

/-- Whatever `value` held, a body that reads `value`, run by a chain that serves it, runs
on a byte: the state it runs on is the run of the chain with the empty body, which ends
with a byte in `value`. -/
theorem served_operand_is_byte (hext : ScratchBlind ext) (m : Mode) {op : Opcode}
    (hop : Serves ext m op) (hread : op.readsValue) (s : M6502)
    (hT1 : s.addressModeCycleFn = m.T1) (hbody : s.opcodeCycleFn = op) :
    ∃ r, run ext bus m.cycles s = bodyAt ext bus m.last op r ∧ r.value.toNat < 256 := by
  have hsets := (Serves.readsScratch ext hext hop).2 hread
  exact ⟨_, (chain_cycle_law ext bus m hop s hT1 hbody).2.2.2.2,
    run_value_lt_of_setsValue ext bus m hsets _ hT1 rfl⟩

end Served

/-- `LDA $00` from a state whose `value` holds `0x1234`: `LDA` runs on the byte read at
`$00`. -/
theorem served_operand_is_byte_lda :
    let ext : OutOfLine :=
      { (default : OutOfLine) with ADC := fun _ s => s, SBC := fun _ s => s, ARR := fun _ s => s }
    let s : M6502 := { (default : M6502) with
      value := 0x1234, addressModeCycleFn := .zp_2_1_T1, opcodeCycleFn := .LDA }
    ScratchBlind ext ∧ Serves ext .zp_2_1 .LDA ∧ 256 ≤ s.value.toNat ∧
      ∃ r, run ext ramBus 2 s = bodyAt ext ramBus .zp_2_1_T2 .LDA r ∧ r.value.toNat < 256 := by
  intro ext s
  have hext : ScratchBlind ext := by
    simp only [ScratchBlind, List.mem_cons, List.mem_singleton, List.not_mem_nil, or_false]
    rintro f (rfl | rfl | rfl) _ s <;>
      exact ⟨⟨[], (List.append_nil _).symm⟩, fun _ _ => rfl⟩
  have hop : Serves ext .zp_2_1 .LDA := ⟨fun _ _ => rfl, by decide⟩
  exact ⟨hext, hop, by decide, served_operand_is_byte ext ramBus hext .zp_2_1 hop rfl s rfl rfl⟩

/-- A CPU constructed over storage that held `0x0100` in `value` runs the whole reset
sequence and reaches its first instruction fetch with that `value`. -/
theorem value_survives_reset :
    let s : M6502 := callStages default (fun _ _ => 0)
      [.Reset_T0, .Reset_T1, .Reset_T2, .Reset_T3, .Reset_T4, .Reset_T5, .Reset_T6]
      { (default : M6502) with
        value := 0x100, status := flagConstant, addressModeCycleFn := .Reset_T0 }
    Reachable default (fun _ _ => 0) s ∧ s.addressModeCycleFn = .InstructionFetch ∧
      256 ≤ s.value.toNat :=
  ⟨Reachable.callStages (by decide) (.construct ⟨rfl, rfl⟩), rfl, by decide⟩

end Cpu6502
