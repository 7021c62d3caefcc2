import Esp1541.Cpu6502.Chains

/-!
# One access per cycle

Every call of a cycle function makes exactly one bus access, the body runs once, in
the chain's last cycle, and the fetch follows after the §4.3 number of cycles. This
holds for a chain with any body it serves (`Serves`): bodies that make no access of
their own after a read, immediate or accumulator chain, a store after a store chain,
a read-modify-write after a read-modify-write chain, and the stack, jump, call and
return bodies after their own chains (`chain_cycle_law`). A branch whose condition
fails ends in its `T1` (`branch_not_taken_cycle`).
-/

namespace Cpu6502

section Bodies

variable (ext : OutOfLine)

/-- A body that makes no access of its own, on every bus and from every state. -/
def NoAccess (op : Opcode) : Prop :=
  ∀ bus s, (opcodeCycle ext bus op s).trace = s.trace

/-- The store bodies: one `WriteValue` of a register combination. -/
def Opcode.stores : Opcode → Bool
  | .STA | .STX | .STY | .SAX | .SHA | .SHX | .SHY | .SHS => true
  | _ => false

/-- The shifts and rotates, which also run on the accumulator. -/
def Opcode.shifts : Opcode → Bool
  | .ASL | .LSR | .ROL | .ROR => true
  | _ => false

/-- The read-modify-write bodies: one `WriteValue` of the modified byte. -/
def Opcode.readModifyWrites : Opcode → Bool
  | .ASL | .LSR | .ROL | .ROR | .INC | .DEC | .SLO | .RLA | .SRE | .DCP | .ISB | .RRA => true
  | _ => false

/-- The bodies a chain serves. `ISB` and `RRA` end in `SBC` and `ADC`, which m6502.cpp
defines: they are served when those make no access. `JMP` is served by its own two chains
only: after a read chain it would jump to whatever `ea` held. -/
def Serves : Mode → Opcode → Prop
  | .sb_1, op => (NoAccess ext op ∨ op.shifts) ∧ op ≠ .JMP
  | .imm_2_1, op | .zp_2_1, op | .abs_2_3, op | .zpx_2_6, op | .zpy_2_6, op
  | .idx_2_4, op => NoAccess ext op ∧ op ≠ .JMP
  | .zp_3_1, op | .abs_3_2, op | .zpx_3_5, op | .zpy_3_5, op | .idx_3_3, op
  | .absx_3_4, op | .absy_3_4, op | .idy_3_6, op => op.stores
  | .zp_4_1, op | .abs_4_2, op | .zpx_4_3, op | .absx_4_4, op | .absy_4_4, op
  | .idx_Undoc, op | .idy_Undoc, op =>
    op.readModifyWrites ∧ (op = .ISB → NoAccess ext .SBC) ∧ (op = .RRA → NoAccess ext .ADC)
  | .ph_5_1, op => op = .PHA ∨ op = .PHP
  | .pl_5_2, op => op = .PLA ∨ op = .PLP
  | .jsr_5_3, op => op = .JSR
  | .rts_5_7, op => op = .RTS
  | .rti_5_5, op => op = .RTI
  | .abs5_6_1, op | .abs5_6_2, op => op = .JMP

variable (bus : DataBusReadFn)

@[simp] theorem trace_writeValue (b : BitVec 8) (s : M6502)
    (hs : s.addressModeCycleFn ≠ .sb_1_T1) :
    (writeValue b s).trace = s.trace ++ [.write s.ea b] := by
  simp [writeValue, hs]

/-- A store body writes one byte, at `ea`. -/
theorem trace_store {op : Opcode} (hop : op.stores) (s : M6502)
    (hs : s.addressModeCycleFn ≠ .sb_1_T1) :
    ∃ b, (opcodeCycle ext bus op s).trace = s.trace ++ [.write s.ea b] := by
  cases op <;> first | exact absurd hop (by decide) |
    (simp only [opcodeCycle, STA, STX, STY, SAX, SHA, SHX, SHY, SHS, storeHighAnd, writeValue, hs,
      reduceIte, M6502.log_trace]; exact ⟨_, rfl⟩)

/-- A read-modify-write body writes one byte, at `ea`. -/
theorem trace_readModifyWrite {op : Opcode} (hop : op.readModifyWrites)
    (hISB : op = .ISB → NoAccess ext .SBC) (hRRA : op = .RRA → NoAccess ext .ADC)
    (s : M6502) (hs : s.addressModeCycleFn ≠ .sb_1_T1) :
    ∃ b, (opcodeCycle ext bus op s).trace = s.trace ++ [.write s.ea b] := by
  have hSBC : op = .ISB → ∀ s, (ext.SBC bus s).trace = s.trace := fun h => hISB h bus
  have hADC : op = .RRA → ∀ s, (ext.ADC bus s).trace = s.trace := fun h => hRRA h bus
  cases op <;> first | exact absurd hop (by decide) |
    (simp only [opcodeCycle, ASL, LSR, ROL, ROR, INC, DEC, SLO, RLA, SRE, DCP, ISB, RRA,
      writeValue, hs, M6502.log_trace, hSBC, hADC, reduceIte]; exact ⟨_, rfl⟩)

/-- Under accumulator addressing a shift stores into `a` and makes no access. -/
theorem trace_shift {op : Opcode} (hop : op.shifts) (s : M6502)
    (hs : s.addressModeCycleFn = .sb_1_T1) : (opcodeCycle ext bus op s).trace = s.trace := by
  cases op <;> first | exact absurd hop (by decide) | simp [opcodeCycle, ASL, LSR, ROL, ROR, writeValue, hs]

theorem trace_store_append {op : Opcode} (hop : op.stores) (s : M6502)
    (hs : s.addressModeCycleFn ≠ .sb_1_T1) :
    ∃ acc, (opcodeCycle ext bus op s).trace = s.trace ++ [acc] :=
  let ⟨_, h⟩ := trace_store ext bus hop s hs; ⟨_, h⟩

theorem trace_readModifyWrite_append {op : Opcode} (hop : op.readModifyWrites)
    (hISB : op = .ISB → NoAccess ext .SBC) (hRRA : op = .RRA → NoAccess ext .ADC)
    (s : M6502) (hs : s.addressModeCycleFn ≠ .sb_1_T1) :
    ∃ acc, (opcodeCycle ext bus op s).trace = s.trace ++ [acc] :=
  let ⟨_, h⟩ := trace_readModifyWrite ext bus hop hISB hRRA s hs; ⟨_, h⟩

end Bodies

/-! ## The law over a chain -/

section Law

variable (ext : OutOfLine) (bus : DataBusReadFn)

/-- The last cycle of a chain, with a body the chain serves, makes exactly one access:
its own read and a body that makes none, or no access of its own and the body's. -/
theorem trace_step_last (m : Mode) {op : Opcode} (hop : Serves ext m op) (x : M6502)
    (hx : x.addressModeCycleFn = m.last) (hbody : x.opcodeCycleFn = op) :
    ∃ acc, (step ext bus x).trace = x.trace ++ [acc] := by
  subst hbody
  rw [step, hx]
  cases m <;> dsimp only [Serves, Mode.last] at hop hx ⊢ <;>
    dsimp only [stageCycle, sb_1_T1, imm_2_1_T1, zp_2_1_T2, zp_3_1_T2, zp_4_1_T4, abs_2_3_T3,
      abs_3_2_T3, abs_4_2_T5, zpx_2_6_T3, zpx_3_5_T3, zpx_4_3_T5, zpy_2_6_T3, zpy_3_5_T3,
      idx_2_4_T5, idx_3_3_T5, idx_Undoc_T7, absx_3_4_T4, absy_3_4_T4, absx_4_4_T6, absy_4_4_T6,
      idy_3_6_T5, idy_Undoc_T7, ph_5_1_T2, pl_5_2_T3, jsr_5_3_T5, rts_5_7_T5, rti_5_5_T5,
      abs5_6_1_T2, abs5_6_2_T4, readValueExecute, zpIndexReadValue, fetchEaHigh, executeOpcode]
  all_goals first
    | exact ⟨_, hop.1 bus _⟩
    | (refine trace_store_append ext bus hop _ ?_; simp only [hx]; decide)
    | (refine trace_readModifyWrite_append ext bus hop.1 hop.2.1 hop.2.2 _ ?_; simp only [hx]; decide)
    | (rcases hop.1 with hop | hop
       · exact ⟨_, hop bus _⟩
       · exact ⟨_, trace_shift ext bus hop _ hx⟩)
    | (rcases hop with h | h <;> simp only [M6502.log_opcodeCycleFn, h] <;> exact ⟨_, rfl⟩)
    | (simp only [M6502.log_opcodeCycleFn, pull, hop]; exact ⟨_, rfl⟩)

/-- Before the last cycle a run from `T1` is the run with the empty body `NOP`, with the
body cursor put back: the body has not run. -/
theorem run_eq_withBody (m : Mode) (s : M6502) (hs : s.addressModeCycleFn = m.T1) :
    ∀ k < m.cycles, run ext bus k s = (run ext bus k (s.withBody .NOP)).withBody s.opcodeCycleFn
  | 0, _ => (M6502.withBody_self rfl).symm
  | k + 1, hk => by
    have hmid := stageAt_lt_cycles m k (by omega)
    rw [run_succ', run_succ', step, step, addressModeCycleFn_run ext bus m _ hs k (by omega),
      addressModeCycleFn_run ext bus m (s.withBody .NOP) hs k (by omega),
      run_eq_withBody m s hs k (by omega), stageCycle_withBody ext bus _ _ hmid.1 (hmid.2 hk)]

/-- The law of one chain run from `s`: every cycle makes one access, the fetch comes
first after `m.cycles` cycles, and the body runs once, in the last of them: until then
the run is the run with the empty body `NOP`, and the last cycle adds the body. -/
def ChainLaw (m : Mode) (op : Opcode) (s : M6502) : Prop :=
  (∀ k < m.cycles, ∃ acc, (run ext bus (k + 1) s).trace = (run ext bus k s).trace ++ [acc]) ∧
  (∀ k, 0 < k → k < m.cycles → (run ext bus k s).addressModeCycleFn ≠ .InstructionFetch) ∧
  (run ext bus m.cycles s).addressModeCycleFn = .InstructionFetch ∧
  (∀ k < m.cycles, run ext bus k s = (run ext bus k (s.withBody .NOP)).withBody op) ∧
  run ext bus m.cycles s = bodyAt ext bus m.last op (run ext bus m.cycles (s.withBody .NOP))

theorem chain_cycle_law (m : Mode) {op : Opcode} (hop : Serves ext m op) (s : M6502)
    (hT1 : s.addressModeCycleFn = m.T1) (hbody : s.opcodeCycleFn = op) :
    ChainLaw ext bus m op s := by
  subst hbody
  obtain ⟨c, hc⟩ : ∃ c, m.cycles = c + 1 := ⟨m.cycles - 1, by cases m <;> decide⟩
  have hlast : ∀ r : M6502, r.addressModeCycleFn = m.T1 →
      (run ext bus c r).addressModeCycleFn = m.last := fun r hr => by
    rw [addressModeCycleFn_run ext bus m r hr _ (by omega), ← stageAt_pred_cycles, hc]; rfl
  refine ⟨fun k hk => ?_, fun k hk0 hk => ?_, ?_, run_eq_withBody ext bus m s hT1, ?_⟩
  · rw [run_succ']
    rcases Nat.lt_or_ge (k + 1) m.cycles with hk' | hk'
    · rw [step, addressModeCycleFn_run ext bus m s hT1 k (by omega)]
      exact trace_stageCycle_of_middle ext bus _ (stageAt_lt_cycles m k hk).1
        ((stageAt_lt_cycles m k hk).2 hk')
    · obtain rfl : k = c := by omega
      refine trace_step_last ext bus m hop _ (hlast s hT1) ?_
      rw [run_eq_withBody ext bus m s hT1 _ hk, M6502.withBody_opcodeCycleFn]
  · obtain ⟨j, rfl⟩ : ∃ j, k = j + 1 := ⟨k - 1, by omega⟩
    rw [addressModeCycleFn_run ext bus m s hT1 _ (by omega), stageAt_succ]
    exact (stageAt_lt_cycles m j (by omega)).2 hk
  · rw [addressModeCycleFn_run ext bus m s hT1 _ le_rfl, stageAt_cycles]
  · have hnop : (run ext bus c (s.withBody .NOP)).opcodeCycleFn = .NOP := by
      rw [run_eq_withBody ext bus m (s.withBody .NOP) hT1 c (by omega)]; rfl
    rw [hc, run_succ', run_succ', step, step, hlast s hT1, hlast (s.withBody .NOP) hT1,
      stageCycle_eq_bodyAt ext bus _ (last_executes m) (hlast s hT1),
      run_eq_withBody ext bus m s hT1 c (by omega), M6502.withBody_withBody,
      M6502.withBody_self hnop, M6502.withBody_opcodeCycleFn]

/-- The law of a branch whose condition fails: its one cycle `rel_5_8_T1` makes one
access, runs the body once and schedules the fetch. -/
def BranchLaw (op : Opcode) (s : M6502) : Prop :=
  (∃ acc, (step ext bus s).trace = s.trace ++ [acc]) ∧
  (step ext bus s).addressModeCycleFn = .InstructionFetch ∧
  step ext bus s = bodyAt ext bus .rel_5_8_T1 op (step ext bus (s.withBody .NOP))

theorem branch_not_taken_cycle {op : Opcode} {flag condition : BitVec 8}
    (hb : op.branch = some (flag, condition)) (s : M6502)
    (hT1 : s.addressModeCycleFn = .rel_5_8_T1) (hbody : s.opcodeCycleFn = op)
    (hfalse : s.status &&& flag ≠ condition) : BranchLaw ext bus op s := by
  have hstep : step ext bus s = branchCondition flag condition bus s := by
    rw [step, hT1, ← opcodeCycle_of_branch ext bus hb, ← hbody]; rfl
  have hnop : step ext bus (s.withBody .NOP) = s.withBody .NOP := by
    rw [step, M6502.withBody_addressModeCycleFn, hT1]; rfl
  refine ⟨⟨.read s.pc, ?_⟩, ?_, ?_⟩ <;>
    simp [hstep, hnop, bodyAt, executeOpcode, opcodeCycle_of_branch ext bus hb, branchCondition,
      hfalse, hbody]

end Law

/-- Every chain of m6502.h with a body it serves, and every branch not taken, on every
bus and from every state at its `T1`: one access per cycle, the body once in the last
cycle, and the fetch after the §4.3 number of cycles. -/
theorem cycle_accurate_chains (ext : OutOfLine) (bus : DataBusReadFn) :
    (∀ (m : Mode) (op : Opcode) (s : M6502), Serves ext m op →
      s.addressModeCycleFn = m.T1 → s.opcodeCycleFn = op → ChainLaw ext bus m op s) ∧
    (∀ (op : Opcode) (flag condition : BitVec 8) (s : M6502),
      op.branch = some (flag, condition) → s.addressModeCycleFn = .rel_5_8_T1 →
      s.opcodeCycleFn = op → s.status &&& flag ≠ condition → BranchLaw ext bus op s) :=
  ⟨fun m _ s hop hT1 hbody => chain_cycle_law ext bus m hop s hT1 hbody,
   fun _ _ _ s hb hT1 hbody hfalse => branch_not_taken_cycle ext bus hb s hT1 hbody hfalse⟩

/-- `LDA zp`, and a `BEQ` not taken, from a zeroed machine. -/
theorem cycle_accurate_chains_lda_beq :
    ChainLaw default (fun _ _ => 0) .zp_2_1 .LDA
        { (default : M6502) with addressModeCycleFn := .zp_2_1_T1, opcodeCycleFn := .LDA } ∧
      BranchLaw default (fun _ _ => 0) .BEQ
        { (default : M6502) with addressModeCycleFn := .rel_5_8_T1, opcodeCycleFn := .BEQ } :=
  ⟨(cycle_accurate_chains _ _).1 .zp_2_1 .LDA _ ⟨fun _ _ => rfl, by decide⟩ rfl rfl,
   (cycle_accurate_chains _ _).2 .BEQ flagZero flagZero _ rfl rfl rfl (by decide)⟩

end Cpu6502
