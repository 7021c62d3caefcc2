import Esp1541.Cpu6502.Stages

/-!
# Address-mode chains

A `Mode` is a chain of cycles that m6502.h defines whole, from its `T1` to the cycle
that runs `ExecuteOpcode`. `Mode.cycles` is its length as §4.3 counts it, the fetch
cycle left out. Following `Stage.next` from `T1` reaches `InstructionFetch` after
exactly `Mode.cycles` cycles (`stageAt_cycles`), so by `addressModeCycleFn_stageCycle`
the cursor of a run from `T1` walks the chain (`addressModeCycleFn_run`).

Cycles in the middle of a chain make one access and leave the body cursor alone
(`trace_stageCycle_of_middle`, `stageCycle_withBody`). The last one runs the body once,
after its own part (`stageCycle_eq_bodyAt`).
-/

namespace Cpu6502

/-- The chains of cycles m6502.h defines whole. -/
inductive Mode
  | sb_1 | imm_2_1 | zp_2_1 | zp_3_1 | zp_4_1 | abs_2_3 | abs_3_2 | abs_4_2
  | zpx_2_6 | zpx_3_5 | zpx_4_3 | zpy_2_6 | zpy_3_5 | idx_2_4 | idx_3_3 | idx_Undoc
  | absx_3_4 | absy_3_4 | absx_4_4 | absy_4_4 | idy_3_6 | idy_Undoc
  | ph_5_1 | pl_5_2 | jsr_5_3 | rts_5_7 | rti_5_5 | abs5_6_1 | abs5_6_2
  deriving DecidableEq, Repr

/-- The chain's first cycle, the one `InstructionFetch` schedules. -/
def Mode.T1 : Mode → Stage
  | .sb_1 => .sb_1_T1 | .imm_2_1 => .imm_2_1_T1 | .zp_2_1 => .zp_2_1_T1
  | .zp_3_1 => .zp_3_1_T1 | .zp_4_1 => .zp_4_1_T1 | .abs_2_3 => .abs_2_3_T1
  | .abs_3_2 => .abs_3_2_T1 | .abs_4_2 => .abs_4_2_T1 | .zpx_2_6 => .zpx_2_6_T1
  | .zpx_3_5 => .zpx_3_5_T1 | .zpx_4_3 => .zpx_4_3_T1 | .zpy_2_6 => .zpy_2_6_T1
  | .zpy_3_5 => .zpy_3_5_T1 | .idx_2_4 => .idx_2_4_T1 | .idx_3_3 => .idx_3_3_T1
  | .idx_Undoc => .idx_Undoc_T1 | .absx_3_4 => .absx_3_4_T1 | .absy_3_4 => .absy_3_4_T1
  | .absx_4_4 => .absx_4_4_T1 | .absy_4_4 => .absy_4_4_T1 | .idy_3_6 => .idy_3_6_T1
  | .idy_Undoc => .idy_Undoc_T1 | .ph_5_1 => .ph_5_1_T1 | .pl_5_2 => .pl_5_2_T1
  | .jsr_5_3 => .jsr_5_3_T1 | .rts_5_7 => .rts_5_7_T1 | .rti_5_5 => .rti_5_5_T1
  | .abs5_6_1 => .abs5_6_1_T1 | .abs5_6_2 => .abs5_6_2_T1

/-- The §4.3 cycle count of the chain's instructions, less the fetch cycle. -/
def Mode.cycles : Mode → Nat
  | .sb_1 | .imm_2_1 => 1
  | .zp_2_1 | .zp_3_1 | .ph_5_1 | .abs5_6_1 => 2
  | .abs_2_3 | .abs_3_2 | .zpx_2_6 | .zpx_3_5 | .zpy_2_6 | .zpy_3_5 | .pl_5_2 => 3
  | .zp_4_1 | .absx_3_4 | .absy_3_4 | .abs5_6_2 => 4
  | .abs_4_2 | .zpx_4_3 | .idx_2_4 | .idx_3_3 | .idy_3_6 | .jsr_5_3 | .rts_5_7
  | .rti_5_5 => 5
  | .absx_4_4 | .absy_4_4 => 6
  | .idx_Undoc | .idy_Undoc => 7

/-- The cycle the chain is at after `k` cycles. -/
def Mode.stageAt (m : Mode) (k : Nat) : Stage := Stage.next^[k] m.T1

/-- The chain's last cycle, the one that runs the body. -/
def Mode.last : Mode → Stage
  | .sb_1 => .sb_1_T1 | .imm_2_1 => .imm_2_1_T1 | .zp_2_1 => .zp_2_1_T2
  | .zp_3_1 => .zp_3_1_T2 | .zp_4_1 => .zp_4_1_T4 | .abs_2_3 => .abs_2_3_T3
  | .abs_3_2 => .abs_3_2_T3 | .abs_4_2 => .abs_4_2_T5 | .zpx_2_6 => .zpx_2_6_T3
  | .zpx_3_5 => .zpx_3_5_T3 | .zpx_4_3 => .zpx_4_3_T5 | .zpy_2_6 => .zpy_2_6_T3
  | .zpy_3_5 => .zpy_3_5_T3 | .idx_2_4 => .idx_2_4_T5 | .idx_3_3 => .idx_3_3_T5
  | .idx_Undoc => .idx_Undoc_T7 | .absx_3_4 => .absx_3_4_T4 | .absy_3_4 => .absy_3_4_T4
  | .absx_4_4 => .absx_4_4_T6 | .absy_4_4 => .absy_4_4_T6 | .idy_3_6 => .idy_3_6_T5
  | .idy_Undoc => .idy_Undoc_T7 | .ph_5_1 => .ph_5_1_T2 | .pl_5_2 => .pl_5_2_T3
  | .jsr_5_3 => .jsr_5_3_T5 | .rts_5_7 => .rts_5_7_T5 | .rti_5_5 => .rti_5_5_T5
  | .abs5_6_1 => .abs5_6_1_T2 | .abs5_6_2 => .abs5_6_2_T4

/-- A cycle that runs `ExecuteOpcode`. -/
def Stage.executes (t : Stage) : Bool :=
  t.fixedNext && t.next == .InstructionFetch && t != .rel_5_8_T3 && t != .Reset_T6

/-- Whether the step dispatch walks `ts`: each cycle but the last schedules the next. -/
def Stage.chain : List Stage → Bool
  | t :: u :: us => t.fixedNext && t.next == u && Stage.chain (u :: us)
  | _ => true

/-! ## The shape of every chain -/

theorem stageAt_succ (m : Mode) (k : Nat) : m.stageAt (k + 1) = (m.stageAt k).next :=
  Function.iterate_succ_apply' _ _ _

theorem stageAt_cycles (m : Mode) : m.stageAt m.cycles = .InstructionFetch := by
  cases m <;> rfl

theorem stageAt_pred_cycles (m : Mode) : m.stageAt (m.cycles - 1) = m.last := by
  cases m <;> rfl

theorem last_executes (m : Mode) : m.last.executes := by
  cases m <;> rfl

/-- Before its end a chain is at cycles of m6502.h that fix their successor, and
before its last cycle at ones that do not fetch next. -/
theorem stageAt_lt_cycles (m : Mode) :
    ∀ k < m.cycles, (m.stageAt k).fixedNext ∧
      (k + 1 < m.cycles → (m.stageAt k).next ≠ .InstructionFetch) := by
  cases m <;> decide

/-- The chain's cycles in order, from `T1` to the one that runs the body. -/
def Mode.stages : Mode → List Stage
  | .sb_1 => [.sb_1_T1]
  | .imm_2_1 => [.imm_2_1_T1]
  | .zp_2_1 => [.zp_2_1_T1, .zp_2_1_T2]
  | .zp_3_1 => [.zp_3_1_T1, .zp_3_1_T2]
  | .zp_4_1 => [.zp_4_1_T1, .zp_4_1_T2, .zp_4_1_T3, .zp_4_1_T4]
  | .abs_2_3 => [.abs_2_3_T1, .abs_2_3_T2, .abs_2_3_T3]
  | .abs_3_2 => [.abs_3_2_T1, .abs_3_2_T2, .abs_3_2_T3]
  | .abs_4_2 => [.abs_4_2_T1, .abs_4_2_T2, .abs_4_2_T3, .abs_4_2_T4, .abs_4_2_T5]
  | .zpx_2_6 => [.zpx_2_6_T1, .zpx_2_6_T2, .zpx_2_6_T3]
  | .zpx_3_5 => [.zpx_3_5_T1, .zpx_3_5_T2, .zpx_3_5_T3]
  | .zpx_4_3 => [.zpx_4_3_T1, .zpx_4_3_T2, .zpx_4_3_T3, .zpx_4_3_T4, .zpx_4_3_T5]
  | .zpy_2_6 => [.zpy_2_6_T1, .zpy_2_6_T2, .zpy_2_6_T3]
  | .zpy_3_5 => [.zpy_3_5_T1, .zpy_3_5_T2, .zpy_3_5_T3]
  | .idx_2_4 => [.idx_2_4_T1, .idx_2_4_T2, .idx_2_4_T3, .idx_2_4_T4, .idx_2_4_T5]
  | .idx_3_3 => [.idx_3_3_T1, .idx_3_3_T2, .idx_3_3_T3, .idx_3_3_T4, .idx_3_3_T5]
  | .idx_Undoc => [.idx_Undoc_T1, .idx_Undoc_T2, .idx_Undoc_T3, .idx_Undoc_T4, .idx_Undoc_T5,
      .idx_Undoc_T6, .idx_Undoc_T7]
  | .absx_3_4 => [.absx_3_4_T1, .absx_3_4_T2, .absx_3_4_T3, .absx_3_4_T4]
  | .absy_3_4 => [.absy_3_4_T1, .absy_3_4_T2, .absy_3_4_T3, .absy_3_4_T4]
  | .absx_4_4 => [.absx_4_4_T1, .absx_4_4_T2, .absx_4_4_T3, .absx_4_4_T4, .absx_4_4_T5,
      .absx_4_4_T6]
  | .absy_4_4 => [.absy_4_4_T1, .absy_4_4_T2, .absy_4_4_T3, .absy_4_4_T4, .absy_4_4_T5,
      .absy_4_4_T6]
  | .idy_3_6 => [.idy_3_6_T1, .idy_3_6_T2, .idy_3_6_T3, .idy_3_6_T4, .idy_3_6_T5]
  | .idy_Undoc => [.idy_Undoc_T1, .idy_Undoc_T2, .idy_Undoc_T3, .idy_Undoc_T4, .idy_Undoc_T5,
      .idy_Undoc_T6, .idy_Undoc_T7]
  | .ph_5_1 => [.ph_5_1_T1, .ph_5_1_T2]
  | .pl_5_2 => [.pl_5_2_T1, .pl_5_2_T2, .pl_5_2_T3]
  | .jsr_5_3 => [.jsr_5_3_T1, .jsr_5_3_T2, .jsr_5_3_T3, .jsr_5_3_T4, .jsr_5_3_T5]
  | .rts_5_7 => [.rts_5_7_T1, .rts_5_7_T2, .rts_5_7_T3, .rts_5_7_T4, .rts_5_7_T5]
  | .rti_5_5 => [.rti_5_5_T1, .rti_5_5_T2, .rti_5_5_T3, .rti_5_5_T4, .rti_5_5_T5]
  | .abs5_6_1 => [.abs5_6_1_T1, .abs5_6_1_T2]
  | .abs5_6_2 => [.abs5_6_2_T1, .abs5_6_2_T2, .abs5_6_2_T3, .abs5_6_2_T4]

theorem Mode.chain_stages (m : Mode) : Stage.chain m.stages := by
  cases m <;> decide

/-! ## Cycles and runs -/

/-- `s` with `op` as the body cursor. -/
@[simps]
def M6502.withBody (s : M6502) (op : Opcode) : M6502 := { s with opcodeCycleFn := op }

@[simp] theorem M6502.withBody_withBody (s : M6502) (a b : Opcode) :
    (s.withBody a).withBody b = s.withBody b := rfl

theorem M6502.withBody_self {s : M6502} {op : Opcode} (h : s.opcodeCycleFn = op) :
    s.withBody op = s := by
  subst h; rfl

section Runs

variable (ext : OutOfLine) (bus : DataBusReadFn)

theorem run_succ' (n : Nat) (s : M6502) :
    run ext bus (n + 1) s = step ext bus (run ext bus n s) := by
  induction n generalizing s with
  | zero => rfl
  | succ n ih => exact ih (step ext bus s)

theorem run_add (m n : Nat) (s : M6502) :
    run ext bus (m + n) s = run ext bus n (run ext bus m s) := by
  induction m generalizing s with
  | zero => rw [Nat.zero_add]; rfl
  | succ m ih => rw [Nat.succ_add]; exact ih (step ext bus s)

/-- A run from a chain's `T1` is at the chain's `k`-th cycle after `k` calls. -/
theorem addressModeCycleFn_run (m : Mode) (s : M6502) (hs : s.addressModeCycleFn = m.T1) :
    ∀ k ≤ m.cycles, (run ext bus k s).addressModeCycleFn = m.stageAt k
  | 0, _ => hs
  | k + 1, hk => by
    rw [run_succ', step, addressModeCycleFn_run m s hs k (by omega), stageAt_succ,
      addressModeCycleFn_stageCycle ext bus _ (stageAt_lt_cycles m k hk).1]

/-- A middle cycle makes exactly one access. -/
theorem trace_stageCycle_of_middle (s : M6502) {t : Stage} (ht : t.fixedNext)
    (hn : t.next ≠ .InstructionFetch) :
    ∃ acc, (stageCycle ext bus t s).trace = s.trace ++ [acc] := by
  cases t <;> first | exact absurd (And.intro ht hn) (by decide) | exact ⟨_, rfl⟩

/-- A middle cycle does not read the body cursor. -/
theorem stageCycle_withBody (s : M6502) (op : Opcode) {t : Stage} (ht : t.fixedNext)
    (hn : t.next ≠ .InstructionFetch) :
    stageCycle ext bus t (s.withBody op) = (stageCycle ext bus t s).withBody op := by
  cases t <;> first | exact absurd (And.intro ht hn) (by decide) | rfl

/-- The body `op` run once at cycle `t`, as `ExecuteOpcode` runs it there. -/
def bodyAt (t : Stage) (op : Opcode) (s : M6502) : M6502 :=
  executeOpcode ext bus { s with addressModeCycleFn := t, opcodeCycleFn := op }

/-- A cycle that runs `ExecuteOpcode` is its own part, run with the empty body `NOP`,
followed by the body once. -/
theorem stageCycle_eq_bodyAt (s : M6502) {t : Stage} (ht : t.executes)
    (hs : s.addressModeCycleFn = t) :
    stageCycle ext bus t s =
      bodyAt ext bus t s.opcodeCycleFn (stageCycle ext bus t (s.withBody .NOP)) := by
  cases t <;> first | exact absurd ht (by decide) | (cases s; subst hs; rfl)

/-- Calls of the cycle functions `ts`, in order. -/
def callStages (ts : List Stage) (s : M6502) : M6502 :=
  ts.foldl (fun s t => stageCycle ext bus t s) s

/-- A run from a stage that schedules the next one of `ts`, and so on, makes the calls
`ts`: the step dispatch follows the chain. -/
theorem run_eq_callStages {t : Stage} {ts : List Stage} {s : M6502}
    (hc : Stage.chain (t :: ts)) (hs : s.addressModeCycleFn = t) :
    run ext bus (ts.length + 1) s = callStages ext bus (t :: ts) s := by
  induction ts generalizing t s with
  | nil => rw [run, step, hs]; rfl
  | cons u us ih =>
    simp only [Stage.chain, Bool.and_eq_true, beq_iff_eq] at hc
    obtain ⟨⟨ht, hn⟩, hc⟩ := hc
    rw [run, step, hs]
    exact ih hc (by rw [addressModeCycleFn_stageCycle ext bus s ht, hn])

/-- A run of a chain's length from its `T1` makes the calls of its cycles. -/
theorem run_cycles_eq_callStages (m : Mode) (s : M6502) (hs : s.addressModeCycleFn = m.T1) :
    run ext bus m.cycles s = callStages ext bus m.stages s := by
  have hc := Mode.chain_stages m
  cases m <;> exact run_eq_callStages ext bus hc hs

end Runs

end Cpu6502
