import Esp1541.Cpu6502.Chains

/-!
# Instruction boundaries: SYNC, the IRQ entry and JAM

`SYNC()` compares `addressModeCycleFn` with `InstructionFetch` only, so a run from a
chain's `T1` raises it after the chain's last cycle and at no cycle before
(`SYNC_run_of_T1`).

Two boundaries are not seen that way. `IRQ_T6` schedules `InstructionFetchIRQ`, the
fetch of the handler's first opcode, and leaves `SYNC()` false
(`SYNC_misses_irq_entry`). And `sb_jam_T1` runs the empty body `JAM` through
`ExecuteOpcode()`, so one cycle after a JAM opcode the fetch of the next opcode is
scheduled: the CPU does not stall (`jam_fetches_next_opcode`).
-/

namespace Cpu6502

/-- The cycle functions that fetch an opcode: `InstructionFetch`, and
`InstructionFetchIRQ`, the fetch `IRQ_T6` schedules (declared in m6502.h, defined in
m6502.cpp). -/
def Stage.fetchesOpcode (t : Stage) : Bool :=
  t == .InstructionFetch || t == .InstructionFetchIRQ

/-- A chain is at its fetch after a number of cycles up to its length only at the end. -/
theorem stageAt_eq_fetch_iff (m : Mode) {k : Nat} (hk : k ≤ m.cycles) :
    m.stageAt k = .InstructionFetch ↔ k = m.cycles := by
  rcases Nat.lt_or_eq_of_le hk with hlt | rfl
  · have hfixed := (stageAt_lt_cycles m k hlt).1
    refine ⟨fun h => absurd (h ▸ hfixed) (by decide), fun h => by omega⟩
  · exact ⟨fun _ => rfl, fun _ => stageAt_cycles m⟩

section Boundaries

variable (ext : OutOfLine) (bus : DataBusReadFn)

/-- A run from a chain's `T1` raises SYNC after the chain's last cycle and not before. -/
theorem SYNC_run_of_T1 (m : Mode) (s : M6502) (hs : s.addressModeCycleFn = m.T1) {k : Nat}
    (hk : k ≤ m.cycles) : SYNC (run ext bus k s) = decide (k = m.cycles) := by
  simp only [SYNC, addressModeCycleFn_run ext bus m s hs k hk, stageAt_eq_fetch_iff m hk]

/-- An `LDA $zp` run from its `T1`: SYNC is down after one cycle and up after two. -/
theorem SYNC_run_of_T1_zp :
    let s : M6502 := { (default : M6502) with addressModeCycleFn := .zp_2_1_T1 }
    s.addressModeCycleFn = Mode.zp_2_1.T1 ∧
      SYNC (run default (fun _ _ => 0) 1 s) = false ∧
      SYNC (run default (fun _ _ => 0) 2 s) = true :=
  ⟨rfl, SYNC_run_of_T1 default _ .zp_2_1 _ rfl (by decide),
    SYNC_run_of_T1 default _ .zp_2_1 _ rfl (by decide)⟩

/-- The last cycle of the IRQ entry schedules the handler's opcode fetch, and SYNC
stays down. -/
theorem SYNC_misses_irq_entry (s : M6502) :
    SYNC (stageCycle ext bus .IRQ_T6 s) = false ∧
      (stageCycle ext bus .IRQ_T6 s).addressModeCycleFn.fetchesOpcode := ⟨rfl, rfl⟩

/-- One cycle after a JAM opcode: a read at `pc`, no other change, and the next
opcode fetch is scheduled. -/
theorem jam_fetches_next_opcode (s : M6502) :
    let j : M6502 := { s with addressModeCycleFn := .sb_jam_T1, opcodeCycleFn := .JAM }
    step ext bus j = { j.log (.read s.pc) with addressModeCycleFn := .InstructionFetch } ∧
      SYNC (step ext bus j) = true := ⟨rfl, rfl⟩

end Boundaries

end Cpu6502
