import Esp1541.Cpu6502.CodeTable
import Esp1541.Cpu6502.CycleLaw

/-!
# The scratch fields carry nothing from one instruction to the next

`ea`, `ia` and `value` are scratch: each chain writes the ones it uses before it reads
them, and each body reads only `ea` and `value`, and only those its chain sets
(`Serves.readsScratch`). So two states that differ only in the scratch fields run any
chain to the same accesses and the same registers (`scratch_fields_dead`): the chain's
cycles are its bus program (`run_cycles_eq_program`), which reads no scratch field
(`Mode.program_withScratch`), and then one body lemma (`eraseScratch_opcodeCycle`).
`ADC`, `SBC` and `ARR` are in m6502.cpp; they are taken to read `value` and no other
scratch field, and to only add accesses (`ScratchBlind`).
-/

namespace Cpu6502

/-- `s` with the scratch fields `ea`, `ia` and `value` cleared. -/
@[simps]
def M6502.eraseScratch (s : M6502) : M6502 := { s with ea := 0, ia := 0, value := 0 }

theorem M6502.eq_of_eraseScratch {s s' : M6502} (h : s.eraseScratch = s'.eraseScratch) :
    s' = { s with ea := s'.ea, ia := s'.ia, value := s'.value } := by
  cases s; cases s'
  simp only [M6502.eraseScratch, M6502.mk.injEq, true_and] at h
  obtain ⟨rfl, rfl, rfl, rfl, rfl, rfl, rfl, rfl, rfl, rfl, rfl, rfl, rfl, rfl⟩ := h
  rfl

/-- Whether the body, run at cycle `t`, reads `ea`: `JMP`, the `SHA` family, and the
bodies that `WriteValue` outside accumulator addressing. -/
def Opcode.readsEa (op : Opcode) (t : Stage) : Bool :=
  match op with
  | .JMP | .SHA | .SHX | .SHY | .SHS => true
  | .STA | .STX | .STY | .SAX | .ASL | .LSR | .ROL | .ROR | .INC | .DEC | .SLO | .RLA | .SRE
  | .DCP | .ISB | .RRA => t != .sb_1_T1
  | _ => false

/-- Whether the body reads `value`. -/
def Opcode.readsValue : Opcode → Bool
  | .ADC | .ANC | .AND | .ARR | .ASL | .ASR | .BIT | .CMP | .CPX | .CPY | .DCP | .DEC | .EOR
  | .INC | .ISB | .LAS | .LAX | .LDA | .LDX | .LDY | .LSR | .LXA | .ORA | .RLA | .ROL | .ROR
  | .RRA | .SBC | .SBX | .SLO | .SRE | .XAA => true
  | _ => false

/-- Whether the chain sets `ea` before its body runs. -/
def Mode.setsEa : Mode → Bool
  | .sb_1 | .imm_2_1 | .ph_5_1 | .pl_5_2 | .rts_5_7 | .rti_5_5 => false
  | _ => true

/-- Whether the chain sets `value` before its body runs. -/
def Mode.setsValue : Mode → Bool
  | .zp_3_1 | .abs_3_2 | .zpx_3_5 | .zpy_3_5 | .idx_3_3 | .absx_3_4 | .absy_3_4 | .idy_3_6
  | .ph_5_1 | .pl_5_2 | .jsr_5_3 | .rts_5_7 | .rti_5_5 | .abs5_6_1 | .abs5_6_2 => false
  | _ => true

/-- Modelled from the spec: `ADC`, `SBC` and `ARR` are defined in m6502.cpp. They read
`value`, no other scratch field, and only add accesses to the bus history. -/
def ScratchBlind (ext : OutOfLine) : Prop :=
  ∀ f ∈ [ext.ADC, ext.SBC, ext.ARR], ∀ bus (s : M6502),
    (∃ acc, (f bus s).trace = s.trace ++ acc) ∧
    ∀ e i : BitVec 16, (f bus { s with ea := e, ia := i }).eraseScratch = (f bus s).eraseScratch

section Bodies

variable (ext : OutOfLine) (bus : DataBusReadFn)

/-- A body's result, scratch fields aside, does not depend on the scratch fields it does
not read. -/
theorem eraseScratch_opcodeCycle (hext : ScratchBlind ext) (op : Opcode) (s : M6502)
    (e i v : BitVec 16) (he : op.readsEa s.addressModeCycleFn → e = s.ea)
    (hv : op.readsValue → v = s.value) :
    (opcodeCycle ext bus op { s with ea := e, ia := i, value := v }).eraseScratch =
      (opcodeCycle ext bus op s).eraseScratch := by
  have hblind : ∀ f, (f = ext.ADC ∨ f = ext.SBC ∨ f = ext.ARR) → ∀ bus (s : M6502)
      (e i : BitVec 16), (f bus { s with ea := e, ia := i }).eraseScratch =
        (f bus s).eraseScratch := fun f hf bus s => (hext f (by simpa using hf) bus s).2
  cases op <;> dsimp only [Opcode.readsEa, Opcode.readsValue] at he hv <;>
    simp only [true_implies, Bool.false_eq_true, false_implies] at he hv <;> subst_vars <;>
    (try rfl)
  case ADC | SBC | ARR => exact hblind _ (by simp) bus s e i
  case BCC | BCS | BEQ | BMI | BNE | BPL | BVC | BVS =>
    simp only [opcodeCycle, BCC, BCS, BEQ, BMI, BNE, BPL, BVC, BVS, branchCondition]
    split <;> split <;> rfl
  all_goals
    by_cases hs : s.addressModeCycleFn = .sb_1_T1 <;>
      (try simp only [hs, bne_iff_ne, ne_eq, not_true_eq_false, not_false_eq_true, true_implies,
        false_implies, bne_self_eq_false, Bool.false_eq_true] at he) <;> subst_vars <;>
      simp only [opcodeCycle, ASL, LSR, ROL, ROR, INC, DEC, STA, STX, STY, SAX, SHA, SHY, SHX, SHS,
        storeHighAnd, DCP, ISB, SLO, RLA, SRE, RRA, writeValue, hs, if_true, if_false] <;>
      first | rfl | exact (hblind _ (by simp) bus _ _ _).symm

theorem eraseScratch_executeOpcode (hext : ScratchBlind ext) (s : M6502) (e i v : BitVec 16)
    (he : s.opcodeCycleFn.readsEa s.addressModeCycleFn → e = s.ea)
    (hv : s.opcodeCycleFn.readsValue → v = s.value) :
    (executeOpcode ext bus { s with ea := e, ia := i, value := v }).eraseScratch =
      (executeOpcode ext bus s).eraseScratch :=
  congrArg (fun r : M6502 => { r with addressModeCycleFn := .InstructionFetch })
    (eraseScratch_opcodeCycle ext bus hext _ s e i v he hv)

/-- A body that makes no access of its own reads `ea` only if it is `JMP`: every other
body that reads it writes there. -/
theorem readsEa_of_noAccess (hext : ScratchBlind ext) {op : Opcode} (hna : NoAccess ext op)
    (hj : op ≠ .JMP) (t : Stage) : op.readsEa t = false := by
  have bare : (opcodeCycle ext (fun _ _ => 0) op default).trace = [] := hna _ default
  cases op
  case JMP => exact absurd rfl hj
  case ISB =>
    obtain ⟨acc, hacc⟩ : ∃ acc, (opcodeCycle ext (fun _ _ => 0) .ISB default).trace =
        .write 0 1 :: acc := (hext ext.SBC (by simp) _ _).1
    rw [hacc] at bare; cases bare
  case RRA =>
    obtain ⟨acc, hacc⟩ : ∃ acc, (opcodeCycle ext (fun _ _ => 0) .RRA default).trace =
        .write 0 0 :: acc := (hext ext.ADC (by simp) _ _).1
    rw [hacc] at bare; cases bare
  all_goals first | rfl | cases bare

/-- A body reads only the scratch fields its chain sets. -/
theorem Serves.readsScratch (hext : ScratchBlind ext) {m : Mode} {op : Opcode}
    (hop : Serves ext m op) :
    (op.readsEa m.last → m.setsEa) ∧ (op.readsValue → m.setsValue) := by
  cases m <;> dsimp only [Serves] at hop <;> first
    | exact ⟨fun _ => rfl, fun _ => rfl⟩
    | (subst hop; decide)
    | (rcases hop with rfl | rfl <;> decide)
    | exact ⟨fun _ => rfl, fun h => absurd h (by cases op <;> first | decide | exact absurd hop (by decide))⟩
    | skip
  all_goals refine ⟨fun h => absurd h ?_, fun _ => rfl⟩
  · obtain ⟨hna | hsh, hj⟩ := hop
    · rw [readsEa_of_noAccess ext hext hna hj]; decide
    · cases op <;> first | decide | exact absurd hsh (by decide)
  · rw [readsEa_of_noAccess ext hext hop.1 hop.2]; decide

end Bodies

section Chains

variable (ext : OutOfLine) (bus : DataBusReadFn)

/-- No chain's bus program reads a scratch field. -/
theorem Mode.program_withScratch (m : Mode) (s : M6502) (e i v : BitVec 16) :
    m.program bus { s with ea := e, ia := i, value := v } = m.program bus s := by
  cases m <;> rfl

/-- A chain that sets `ea` hands over the one its program forms. -/
theorem Mode.program_ea_isSome {m : Mode} (hm : m.setsEa) (s : M6502) :
    ((m.program bus s).run s.trace).1.ea.isSome := by
  cases m <;> first | exact absurd hm (by decide) | rfl

/-- A chain that sets `value` hands over the byte its program reads. -/
theorem Mode.program_value_isSome {m : Mode} (hm : m.setsValue) (s : M6502) :
    ((m.program bus s).run s.trace).1.value.isSome := by
  cases m <;> first | exact absurd hm (by decide) | rfl

/-- Two states that differ only in `ea`, `ia` and `value`, at a chain's `T1` with a body
the chain serves, run the chain to the same accesses and the same state, scratch fields
aside. -/
theorem scratch_fields_dead (hext : ScratchBlind ext) (m : Mode) {op : Opcode}
    (hop : Serves ext m op) (s s' : M6502)
    (hs : s.addressModeCycleFn = m.T1) (ho : s.opcodeCycleFn = op)
    (h : s.eraseScratch = s'.eraseScratch) :
    (run ext bus m.cycles s).eraseScratch = (run ext bus m.cycles s').eraseScratch := by
  have hr := Serves.readsScratch ext hext hop
  obtain ⟨e, i, v, rfl⟩ : ∃ e i v, s' = { s with ea := e, ia := i, value := v } :=
    ⟨_, _, _, M6502.eq_of_eraseScratch h⟩
  obtain ⟨j, hj⟩ := run_cycles_eq_program ext bus m s hs
  obtain ⟨j', hj'⟩ := run_cycles_eq_program ext bus m { s with ea := e, ia := i, value := v } hs
  rw [hj, hj']
  simp only [Mode.programHandOver, Mode.program_withScratch]
  refine (eraseScratch_executeOpcode ext bus hext _ _ _ _ ?_ ?_).symm <;> dsimp only <;>
    rw [ho] <;> intro hread
  · obtain ⟨a, ha⟩ := Option.isSome_iff_exists.mp (Mode.program_ea_isSome bus (hr.1 hread) s)
    rw [ha]; rfl
  · obtain ⟨a, ha⟩ := Option.isSome_iff_exists.mp (Mode.program_value_isSome bus (hr.2 hread) s)
    rw [ha]; rfl

/-- Out-of-line bodies that do nothing satisfy the assumption, and `LDA $zp` runs to the
same state from two states that differ in every scratch field. -/
theorem scratch_fields_dead_lda :
    let ext : OutOfLine :=
      { (default : OutOfLine) with ADC := fun _ s => s, SBC := fun _ s => s, ARR := fun _ s => s }
    let s : M6502 := { (default : M6502) with addressModeCycleFn := .zp_2_1_T1, opcodeCycleFn := .LDA }
    ScratchBlind ext ∧ (run ext (fun _ _ => 0) 2 s).eraseScratch =
      (run ext (fun _ _ => 0) 2 { s with ea := 5, ia := 6, value := 7 }).eraseScratch :=
  have hext : ScratchBlind { (default : OutOfLine) with
      ADC := fun _ s => s, SBC := fun _ s => s, ARR := fun _ s => s } := by
    simp only [ScratchBlind, List.mem_cons, List.mem_singleton, List.not_mem_nil, or_false]
    rintro f (rfl | rfl | rfl) _ s <;> exact ⟨⟨[], (List.append_nil _).symm⟩, fun _ _ => rfl⟩
  ⟨hext, @scratch_fields_dead _ _ hext .zp_2_1 .LDA ⟨fun _ _ => rfl, by decide⟩ _ _ rfl rfl rfl⟩

end Chains

end Cpu6502
