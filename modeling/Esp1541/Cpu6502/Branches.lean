import Esp1541.Cpu6502.Chains

/-!
# Branches

`BRANCH_CONDITION` reads the offset at `pc++` into `ra`, sign-extended. A branch not
taken schedules the fetch; a taken one keeps the next instruction's address in `oldpc`,
puts the target's low byte into `pc` with the old high byte (`wrongPage`), and continues
at `rel_5_8_T2`, which m6502.cpp defines. `rel_5_8_T3` reads `pc` and fetches.

§4.5 gives a branch two cycles when not taken, three when taken within the page and four
across a page, and reads at the offset, then twice at the wrong-page address; `pc` is
corrected after the last read (`branchSpec`). The header's `rel_5_8_T3` never corrects
`pc`, so for a branch to reach its target `rel_5_8_T2` must load it, one cycle early
(`branchFixup`, assumed by `BranchesBy`); the fourth read is then at the target. From
`rel_5_8_T1` the code runs that branch (`branchRun`, `run_branch`), which is §4.5's
exactly when the branch does not cross a page (`branchRun_eq_branchSpec_iff`).
-/

namespace Cpu6502

/-! ## `rel_5_8_T2` -/

/-- Modelled from the spec: `rel_5_8_T2` (m6502.cpp), §4.5's second cycle of a taken
branch: a dummy read at `pc`, the target's low byte in the old page. A target on that
page ends the branch and holds an interrupt off for one instruction
(`BranchTakenMaskingInterrupt`, which §4.5 sets for such a branch and `rel_5_8_T1` does
not). Across a page §4.5 corrects `pc` only after a third read at the wrong-page address,
but `rel_5_8_T3` reads `pc` and never corrects it: the correction has to be made here, or
the branch would resume on the wrong page, so this cycle loads the target into `pc`. -/
def branchFixup (s : M6502) : M6502 :=
  let target := s.ia + s.ea
  if target >>> 8 = s.ia >>> 8 then
    { s.log (.read s.pc) with
      BranchTakenMaskingInterrupt := true, addressModeCycleFn := .InstructionFetch }
  else { s.log (.read s.pc) with pc := target, addressModeCycleFn := .rel_5_8_T3 }

/-- The code's `rel_5_8_T2` is `branchFixup`. -/
def BranchesBy (ext : OutOfLine) : Prop :=
  ∀ bus s, ext.rel_5_8_T2 bus s = branchFixup s

/-! ## Addresses -/

/-- The address a taken branch reads before `pc` is corrected: the target's low byte in
the page of the next instruction. -/
def wrongPage (next target : BitVec 16) : BitVec 16 := (next &&& 0xff00) ||| (target &&& 0xff)

/-- The target of the branch whose offset is the byte at `f.pc`. -/
def branchTarget (bus : DataBusReadFn) (f : M6502) : BitVec 16 :=
  f.pc + 1 + (bus f.trace f.pc).signExtend 16

/-- The branch from `f` is taken, and its target is on another page than the next
instruction: §4.5's four-cycle case. -/
def BranchCrosses (flag condition : BitVec 8) (bus : DataBusReadFn) (f : M6502) : Prop :=
  f.status &&& flag = condition ∧ branchTarget bus f >>> 8 ≠ (f.pc + 1) >>> 8

instance (flag condition : BitVec 8) (bus : DataBusReadFn) (f : M6502) :
    Decidable (BranchCrosses flag condition bus f) :=
  inferInstanceAs (Decidable (_ ∧ _))

/-- `if (ra & 0x80) ra |= 0xFF00` sign-extends the offset. -/
theorem ra_eq_signExtend (b : BitVec 8) :
    (if b.setWidth 16 &&& 0x80 ≠ 0 then b.setWidth 16 ||| 0xFF00 else b.setWidth 16) =
      b.signExtend 16 := by
  revert b; decide

/-- The low byte of `wrongPage` is the target's, the high byte the next instruction's. -/
theorem getLsbD_wrongPage (next target : BitVec 16) (i : Nat) :
    (wrongPage next target).getLsbD i = if i < 8 then target.getLsbD i else next.getLsbD i := by
  rcases Nat.lt_or_ge i 16 with hi | hi
  · have hmask : ∀ j : Fin 16, (0xff00 : BitVec 16).getLsbD j = !decide ((j : Nat) < 8) ∧
        (0xff : BitVec 16).getLsbD j = decide ((j : Nat) < 8) := by decide
    obtain ⟨h1, h2⟩ := hmask ⟨i, hi⟩
    simp only [wrongPage, BitVec.getLsbD_or, BitVec.getLsbD_and, h1, h2]
    split_ifs with h <;> simp [h]
  · simp only [BitVec.getLsbD_ge _ _ hi, ite_self]

/-- The wrong-page address is on the page of the next instruction. -/
theorem wrongPage_high (next target : BitVec 16) : wrongPage next target >>> 8 = next >>> 8 := by
  ext i
  simp only [BitVec.getLsbD_ushiftRight, getLsbD_wrongPage, if_neg (Nat.not_lt.2 (Nat.le_add_right 8 i))]

/-- On the page of the next instruction, the wrong-page address is the target. -/
theorem wrongPage_eq_of_high_eq {next target : BitVec 16} (h : target >>> 8 = next >>> 8) :
    wrongPage next target = target := by
  ext i
  rw [getLsbD_wrongPage]
  split_ifs with hi
  · rfl
  · have hbit := congrArg (fun v : BitVec 16 => v.getLsbD (i - 8)) h
    simp only [BitVec.getLsbD_ushiftRight, show 8 + ((i : Nat) - 8) = i by omega] at hbit
    exact hbit.symm

/-! ## The branch of §4.5 and the branch of the code -/

/-- A branch testing `status & flag == condition`, from the state after its fetch, whose
fourth cycle, across a page, reads at `late next target`: the cycles it takes, the fetch
included, and the state it leaves. The offset is read at `pc` into `ra`; a branch not taken
ends there. A taken one reads at the wrong-page address; on the page of the next
instruction it ends there, and otherwise one more cycle reads at `late next target`. -/
def branchWith (late : BitVec 16 → BitVec 16 → BitVec 16) (flag condition : BitVec 8)
    (bus : DataBusReadFn) (f : M6502) : Nat × M6502 :=
  let next := f.pc + 1
  let target := branchTarget bus f
  let s₁ : M6502 :=
    { f.log (.read f.pc) with
      ea := (bus f.trace f.pc).signExtend 16, pc := next, addressModeCycleFn := .InstructionFetch }
  if f.status &&& flag = condition then
    let s₂ : M6502 := { s₁.log (.read (wrongPage next target)) with pc := target }
    if target >>> 8 = next >>> 8 then (3, { s₂ with BranchTakenMaskingInterrupt := true })
    else (4, s₂.log (.read (late next target)))
  else (2, s₁)

/-- A branch as §4.5 gives it: across a page the fourth cycle reads the wrong-page address
again, and `pc` is corrected after it. -/
def branchSpec : BitVec 8 → BitVec 8 → DataBusReadFn → M6502 → Nat × M6502 :=
  branchWith wrongPage

/-- A branch as the code runs it (`rel_5_8_T1`, `branchFixup`, `rel_5_8_T3`): across a page
the fourth cycle reads at the target, which `rel_5_8_T2` has loaded into `pc`. -/
def branchRun : BitVec 8 → BitVec 8 → DataBusReadFn → M6502 → Nat × M6502 :=
  branchWith fun _ target => target

section Shape

variable (late : BitVec 16 → BitVec 16 → BitVec 16) (flag condition : BitVec 8)
  (bus : DataBusReadFn)

/-- A branch does not read `ia`, and leaves it alone. -/
theorem branchWith_with_ia (f : M6502) (j : BitVec 16) :
    branchWith late flag condition bus { f with ia := j } =
      ((branchWith late flag condition bus f).1,
        { (branchWith late flag condition bus f).2 with ia := j }) := by
  dsimp only [branchWith, branchTarget]
  split_ifs <;> rfl

end Shape

/-- A branch takes two, three or four cycles, ends at the fetch and leaves `value`. -/
theorem branchWith_boundary {late : BitVec 16 → BitVec 16 → BitVec 16} {flag condition : BitVec 8}
    {bus : DataBusReadFn} {f : M6502} {n : Nat} {r : M6502}
    (h : branchWith late flag condition bus f = (n, r)) :
    2 ≤ n ∧ r.addressModeCycleFn = .InstructionFetch ∧ r.value = f.value := by
  dsimp only [branchWith] at h
  split_ifs at h <;> obtain ⟨rfl, rfl⟩ := Prod.mk.inj h <;>
    exact ⟨Nat.le_of_ble_eq_true rfl, rfl, rfl⟩

/-- The code's branch is §4.5's exactly when it does not cross a page: across a page its
fourth read is at the target, where §4.5 reads the wrong-page address. -/
theorem branchRun_eq_branchSpec_iff (flag condition : BitVec 8) (bus : DataBusReadFn)
    (f : M6502) :
    branchRun flag condition bus f = branchSpec flag condition bus f ↔
      ¬BranchCrosses flag condition bus f := by
  simp only [branchRun, branchSpec, branchWith, BranchCrosses]
  split_ifs with hc hpage
  · simp only [hpage, ne_eq, not_true_eq_false, and_false, not_false_eq_true]
  · refine iff_of_false (fun h => hpage ?_) fun h => h ⟨hc, hpage⟩
    have hread := congrArg (fun p : Nat × M6502 => p.2.trace.getLast?) h
    simp only [M6502.log, List.getLast?_concat, Option.some.injEq, Access.read.injEq] at hread
    rw [hread, wrongPage_high]
  · simp only [hc, false_and, not_false_eq_true]

/-! ## The code runs `branchRun` -/

section Run

variable (ext : OutOfLine) (bus : DataBusReadFn)

/-- `rel_5_8_T1` is the branch's body. -/
theorem step_of_rel_5_8_T1 {op : Opcode} {flag condition : BitVec 8}
    (hop : op.branch = some (flag, condition)) (f : M6502)
    (hf : f.addressModeCycleFn = .rel_5_8_T1) (ho : f.opcodeCycleFn = op) :
    step ext bus f = branchCondition flag condition bus f := by
  rw [step, hf, ← opcodeCycle_of_branch ext bus hop, ← ho]; rfl

/-- The first two cycles of a taken branch: `BRANCH_CONDITION` leaves `oldpc` at the next
instruction and `pc` at the wrong-page address, and `rel_5_8_T2` is `branchFixup`. -/
theorem step_step_of_taken (hb : BranchesBy ext) {op : Opcode} {flag condition : BitVec 8}
    (hop : op.branch = some (flag, condition)) (f : M6502)
    (hf : f.addressModeCycleFn = .rel_5_8_T1) (ho : f.opcodeCycleFn = op)
    (hc : f.status &&& flag = condition) :
    step ext bus (step ext bus f) =
      branchFixup { f.log (.read f.pc) with
        ea := (bus f.trace f.pc).signExtend 16, ia := f.pc + 1,
        pc := wrongPage (f.pc + 1) (f.pc + 1 + (bus f.trace f.pc).signExtend 16),
        addressModeCycleFn := .rel_5_8_T2 } := by
  rw [step_of_rel_5_8_T1 ext bus hop f hf ho]
  dsimp only [branchCondition]
  rw [if_pos hc, ra_eq_signExtend]
  dsimp only [step, stageCycle]
  rw [hb]
  rfl

/-- From `rel_5_8_T1`, the code runs the cycles of `branchRun`, the fetch aside, and leaves
its state, up to `ia`. -/
theorem run_branch (hb : BranchesBy ext) {op : Opcode} {flag condition : BitVec 8}
    (hop : op.branch = some (flag, condition)) (f : M6502)
    (hf : f.addressModeCycleFn = .rel_5_8_T1) (ho : f.opcodeCycleFn = op) {n : Nat} {r : M6502}
    (h : branchRun flag condition bus f = (n + 1, r)) :
    ∃ i, run ext bus n f = { r with ia := i } := by
  dsimp only [branchRun, branchWith, branchTarget] at h
  split_ifs at h with hc hpage <;> obtain ⟨hn, rfl⟩ := Prod.mk.inj h
  · obtain rfl : n = 2 := by omega
    refine ⟨f.pc + 1, ?_⟩
    show step ext bus (step ext bus f) = _
    rw [step_step_of_taken ext bus hb hop f hf ho hc]
    dsimp only [branchFixup]
    rw [if_pos hpage, wrongPage_eq_of_high_eq hpage]
    rfl
  · obtain rfl : n = 3 := by omega
    refine ⟨f.pc + 1, ?_⟩
    show step ext bus (step ext bus (step ext bus f)) = _
    rw [step_step_of_taken ext bus hb hop f hf ho hc]
    dsimp only [branchFixup]
    rw [if_neg hpage]
    rfl
  · obtain rfl : n = 1 := by omega
    refine ⟨f.ia, ?_⟩
    show step ext bus f = _
    rw [step_of_rel_5_8_T1 ext bus hop f hf ho]
    dsimp only [branchCondition]
    rw [if_neg hc, ra_eq_signExtend]
    rfl

/-- Between `rel_5_8_T1` and the end of the branch the fetch is not scheduled. -/
theorem SYNC_run_branch (hb : BranchesBy ext) {op : Opcode} {flag condition : BitVec 8}
    (hop : op.branch = some (flag, condition)) (f : M6502)
    (hf : f.addressModeCycleFn = .rel_5_8_T1) (ho : f.opcodeCycleFn = op) {k : Nat}
    (hk : k + 1 < (branchRun flag condition bus f).1) : SYNC (run ext bus k f) = false := by
  dsimp only [branchRun, branchWith, branchTarget] at hk
  rcases k with _ | _ | _ | k
  · rw [run, SYNC, hf]; rfl
  all_goals split_ifs at hk with hc hpage <;> (try omega)
  · rw [run, run, step_of_rel_5_8_T1 ext bus hop f hf ho]
    dsimp only [branchCondition]; rw [if_pos hc]; rfl
  · rw [run, run, step_of_rel_5_8_T1 ext bus hop f hf ho]
    dsimp only [branchCondition]; rw [if_pos hc]; rfl
  · show SYNC (run ext bus 0 (step ext bus (step ext bus f))) = false
    rw [step_step_of_taken ext bus hb hop f hf ho hc]
    dsimp only [branchFixup]
    rw [if_neg hpage]; rfl

end Run

end Cpu6502
