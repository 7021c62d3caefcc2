import Esp1541.Cpu6502.BodySpec
import Esp1541.Cpu6502.Branches
import Esp1541.Cpu6502.Sync

/-!
# Programs: the instruction-level machine

§4.6 polls for an interrupt before each fetch: an `IRQ` is serviced when the line is
asserted, `I` is clear and neither masking latch is set (`IrqDue`). Otherwise §4.2 fetches:
it reads the byte at `pc`, increments `pc`, stores the byte in `opcode` and installs the
entries the two 256-entry tables give for it, and the poll has used up both latches.
m6502.cpp defines the stage and the tables, so the tables are a parameter
(`DecodeTable`), `fetchInstruction` is that fetch with them, and `FetchesBy` says that the
code's fetch is that one wherever no interrupt is due.

`decodeStep` is one instruction from the fetch, given what follows the fetch for a chain
and for a branch; it is undefined where an interrupt is due, so a run of it carries the
condition from one instruction boundary to the next. `instructionStep` is the machine the
specification describes: after the fetch, the §4.3 reference of the chain the table names
and the §4.4 contract of the body (`instructionSpec`), or a branch of §4.5 (`branchSpec`),
with the cycles the instruction takes. `instructionRun` runs it for `k` instructions and
adds up the cycles.

When every chain the table installs follows §4.3 and no entry is `PLP`
(`DecodeTable.Covered`), and `rel_5_8_T2` loads the branch target (`BranchesBy`), the
cycle-level machine refines it on every run in which no taken branch crosses a page
(`CrossesPage`, where the code's fourth read leaves §4.5, `branchRun_eq_branchSpec_iff`):
from an instruction boundary with a byte in `value`, `k` instructions take exactly the
cycles the instruction-level run counts and leave its state, up to the intermediate
address (`programs_meet_spec`). One instruction is `run_instruction`; the induction
carries two facts from one instruction to the next: the state is again at the fetch with a
byte in `value` (`instructionStep_boundary`), and neither level reads `ia`
(`instructionStep_with_ia`).
-/

namespace Cpu6502

/-! ## The poll of §4.6 and the fetch of §4.2 -/

/-- The two 256-entry tables of m6502.cpp, as one: for each opcode byte, the first cycle
of its address mode and its body. -/
abbrev DecodeTable := BitVec 8 → Stage × Opcode

/-- §4.6's poll before a fetch finds an interrupt to service: `IRQ` asserted, `I` clear and
neither masking latch set. `SUPPORT_NMI` is off, so no NMI is ever pending. -/
def IrqDue (s : M6502) : Prop :=
  s.IRQ = true ∧ s.status &&& flagInterrupt = 0 ∧ s.CLIMaskingInterrupt = false ∧
    s.BranchTakenMaskingInterrupt = false

instance (s : M6502) : Decidable (IrqDue s) := inferInstanceAs (Decidable (_ ∧ _ ∧ _ ∧ _))

/-- Modelled from the spec: `InstructionFetch` (m6502.cpp) as §4.2 and §4.6 give it when no
interrupt is due: the byte at `pc` is read into `opcode`, `pc` is incremented, the table's
two entries for the byte are installed, and both masking latches, which hold the poll off
once (`CLIMaskingInterrupt` for the instruction after `CLI`, `BranchTakenMaskingInterrupt`
after a taken branch within its page), are cleared. -/
def fetchInstruction (table : DecodeTable) (bus : DataBusReadFn) (s : M6502) : M6502 :=
  let op := bus s.trace s.pc
  { s.log (.read s.pc) with
    pc := s.pc + 1, opcode := op, addressModeCycleFn := (table op).1, opcodeCycleFn := (table op).2,
    CLIMaskingInterrupt := false, BranchTakenMaskingInterrupt := false }

/-- Where no interrupt is due, the fetch of `ext` is the fetch of §4.2 and §4.6 with
`table`. -/
def FetchesBy (ext : OutOfLine) (table : DecodeTable) : Prop :=
  ∀ bus s, ¬IrqDue s → ext.InstructionFetch bus s = fetchInstruction table bus s

/-- The chain whose first cycle is `t`. -/
def Mode.ofT1 : Stage → Option Mode
  | .sb_1_T1 => some .sb_1 | .imm_2_1_T1 => some .imm_2_1 | .zp_2_1_T1 => some .zp_2_1
  | .zp_3_1_T1 => some .zp_3_1 | .zp_4_1_T1 => some .zp_4_1 | .abs_2_3_T1 => some .abs_2_3
  | .abs_3_2_T1 => some .abs_3_2 | .abs_4_2_T1 => some .abs_4_2 | .zpx_2_6_T1 => some .zpx_2_6
  | .zpx_3_5_T1 => some .zpx_3_5 | .zpx_4_3_T1 => some .zpx_4_3 | .zpy_2_6_T1 => some .zpy_2_6
  | .zpy_3_5_T1 => some .zpy_3_5 | .idx_2_4_T1 => some .idx_2_4 | .idx_3_3_T1 => some .idx_3_3
  | .idx_Undoc_T1 => some .idx_Undoc | .absx_3_4_T1 => some .absx_3_4
  | .absy_3_4_T1 => some .absy_3_4 | .absx_4_4_T1 => some .absx_4_4
  | .absy_4_4_T1 => some .absy_4_4 | .idy_3_6_T1 => some .idy_3_6
  | .idy_Undoc_T1 => some .idy_Undoc | .ph_5_1_T1 => some .ph_5_1 | .pl_5_2_T1 => some .pl_5_2
  | .jsr_5_3_T1 => some .jsr_5_3 | .rts_5_7_T1 => some .rts_5_7 | .rti_5_5_T1 => some .rti_5_5
  | .abs5_6_1_T1 => some .abs5_6_1 | .abs5_6_2_T1 => some .abs5_6_2
  | _ => none

theorem Mode.T1_of_ofT1 {t : Stage} {m : Mode} (h : Mode.ofT1 t = some m) : m.T1 = t := by
  cases t <;> cases h <;> rfl

/-- Every chain the table installs follows §4.3, with a body other than `PLP`. -/
def DecodeTable.Covered (table : DecodeTable) : Prop :=
  ∀ b m, Mode.ofT1 (table b).1 = some m → m.followsReference ∧ (table b).2 ≠ .PLP

/-! ## Machines that run an instruction a step -/

/-- `k` steps of a machine that runs one instruction a step: the cycles they take and the
state they leave. -/
def stepRun (step : M6502 → Option (Nat × M6502)) : Nat → M6502 → Option (Nat × M6502)
  | 0, s => some (0, s)
  | k + 1, s => (step s).bind fun p => (stepRun step k p.2).map fun q => (p.1 + q.1, q.2)

section StepRun

variable {step : M6502 → Option (Nat × M6502)}

theorem stepRun_succ_eq_some {k : Nat} {s : M6502} {n : Nat} {r : M6502}
    (h : stepRun step (k + 1) s = some (n, r)) :
    ∃ n₁ r₁ n₂, step s = some (n₁, r₁) ∧ stepRun step k r₁ = some (n₂, r) ∧ n = n₁ + n₂ := by
  obtain ⟨⟨n₁, r₁⟩, h₁, h⟩ := Option.bind_eq_some.mp h
  obtain ⟨⟨n₂, r₂⟩, h₂, hp⟩ := Option.map_eq_some'.mp h
  cases hp
  exact ⟨n₁, r₁, n₂, h₁, h₂, rfl⟩

/-- After a first instruction of `n₁` cycles to `r₁`, the runs from `s` are the runs from
`r₁`, `n₁` cycles later. -/
theorem stepRun_succ_iff {s r₁ : M6502} {n₁ : Nat} (h₁ : step s = some (n₁, r₁)) {k c : Nat}
    {r : M6502} :
    stepRun step (k + 1) s = some (c, r) ↔ ∃ c', stepRun step k r₁ = some (c', r) ∧ c = n₁ + c' := by
  rw [stepRun, h₁, Option.some_bind]
  constructor
  · intro h
    obtain ⟨⟨c', r'⟩, hc', hq⟩ := Option.map_eq_some'.mp h
    cases hq
    exact ⟨c', hc', rfl⟩
  · rintro ⟨c', hc', rfl⟩
    rw [hc']; rfl

end StepRun

/-- One instruction from a state at the fetch, with `chain` for what follows the fetch when
the table names a chain and `branch` for a branch: the cycles it takes, the fetch included,
and the state it leaves. `none` where an interrupt is due (§4.6 services it instead of
fetching), and where the table names neither a chain nor a branch (`BRK`, `JAM`). -/
def decodeStep (chain : Mode → M6502 → Option M6502)
    (branch : BitVec 8 → BitVec 8 → M6502 → Nat × M6502) (table : DecodeTable)
    (bus : DataBusReadFn) (s : M6502) : Option (Nat × M6502) :=
  if IrqDue s then none else
  let f := fetchInstruction table bus s
  match Mode.ofT1 f.addressModeCycleFn, f.opcodeCycleFn.branch with
  | some m, _ => (chain m f).map fun r => (m.cycles + 1, r)
  | none, some (flag, condition) =>
    if f.addressModeCycleFn = .rel_5_8_T1 then some (branch flag condition f) else none
  | none, none => none

section Decode

variable {chain : Mode → M6502 → Option M6502}
  {branch : BitVec 8 → BitVec 8 → M6502 → Nat × M6502} {table : DecodeTable}
  {bus : DataBusReadFn} {s : M6502}

/-- What an instruction step is made of: no interrupt due, then after the fetch either a
chain the table names and what follows it, or a branch. -/
theorem decodeStep_eq_some {n : Nat} {r : M6502}
    (h : decodeStep chain branch table bus s = some (n, r)) :
    ¬IrqDue s ∧
    ((∃ m, Mode.ofT1 (fetchInstruction table bus s).addressModeCycleFn = some m ∧
      n = m.cycles + 1 ∧ chain m (fetchInstruction table bus s) = some r) ∨
    (∃ flag condition, (fetchInstruction table bus s).addressModeCycleFn = .rel_5_8_T1 ∧
      (fetchInstruction table bus s).opcodeCycleFn.branch = some (flag, condition) ∧
      branch flag condition (fetchInstruction table bus s) = (n, r))) := by
  dsimp only [decodeStep] at h
  by_cases hirq : IrqDue s
  · rw [if_pos hirq] at h; cases h
  rw [if_neg hirq] at h
  refine ⟨hirq, ?_⟩
  split at h
  · rename_i m hm
    obtain ⟨r', hr', hp⟩ := Option.map_eq_some'.mp h
    cases hp
    exact .inl ⟨m, hm, rfl, hr'⟩
  · rename_i flag condition _ hbranch
    split_ifs at h with ht
    exact .inr ⟨flag, condition, ht, hbranch, Option.some.inj h⟩
  · cases h

theorem decodeStep_of_chain (hirq : ¬IrqDue s) {m : Mode}
    (hm : Mode.ofT1 (fetchInstruction table bus s).addressModeCycleFn = some m) :
    decodeStep chain branch table bus s =
      (chain m (fetchInstruction table bus s)).map fun r => (m.cycles + 1, r) := by
  simp only [decodeStep, hirq, if_false, hm]

theorem decodeStep_of_branch (hirq : ¬IrqDue s) {flag condition : BitVec 8}
    (ht : (fetchInstruction table bus s).addressModeCycleFn = .rel_5_8_T1)
    (hbr : (fetchInstruction table bus s).opcodeCycleFn.branch = some (flag, condition)) :
    decodeStep chain branch table bus s =
      some (branch flag condition (fetchInstruction table bus s)) := by
  simp only [decodeStep, hirq, if_false, ht, hbr, show Mode.ofT1 .rel_5_8_T1 = none from rfl,
    if_true]

end Decode

/-! ## The instruction-level machine -/

/-- One instruction as §4.2 to §4.6 give it, from a state at the fetch: after the fetch, a
chain of §4.3 with the contract of §4.4, or a branch of §4.5. `none` also where §4.4 gives
the body no contract. -/
def instructionStep (table : DecodeTable) (bus : DataBusReadFn) : M6502 → Option (Nat × M6502) :=
  decodeStep (fun m f => instructionSpec m f.opcodeCycleFn bus f)
    (fun flag condition => branchSpec flag condition bus) table bus

/-- `k` instructions: the cycles they take and the state they leave. -/
def instructionRun (table : DecodeTable) (bus : DataBusReadFn) : Nat → M6502 → Option (Nat × M6502) :=
  stepRun (instructionStep table bus)

section Instructions

variable (table : DecodeTable) (bus : DataBusReadFn)

/-- The effect of a body leaves `value` alone. -/
theorem Effect.apply_value (e : Effect) (s : M6502) : (e.apply s).value = s.value := by
  obtain ⟨regs, access, jump, maskIRQ⟩ := e
  cases access <;> dsimp only [Effect.apply] <;> (try split) <;> rfl

/-- The reference does not read the intermediate address. -/
theorem handOver_with_ia (m : Mode) (s : M6502) (j : BitVec 16) :
    m.handOver bus { s with ia := j } = { m.handOver bus s with ia := j } := by
  have href : m.reference bus { s with ia := j } = m.reference bus s := by cases m <;> rfl
  simp only [Mode.handOver, href]

theorem instructionSpec_with_ia (m : Mode) (op : Opcode) (s : M6502) (j : BitVec 16) :
    instructionSpec m op bus { s with ia := j } =
      (instructionSpec m op bus s).map fun r => { r with ia := j } := by
  simp only [instructionSpec, handOver_with_ia, Option.map_map]
  congr 1
  funext e
  simp only [Function.comp, Effect.apply_with_ia]

/-- Neither the poll, the fetch nor the instruction reads `ia`, and all keep it. -/
theorem instructionStep_with_ia (s : M6502) (j : BitVec 16) :
    instructionStep table bus { s with ia := j } =
      (instructionStep table bus s).map fun p => (p.1, { p.2 with ia := j }) := by
  have hf : fetchInstruction table bus { s with ia := j } =
      { fetchInstruction table bus s with ia := j } := rfl
  by_cases hirq : IrqDue s
  · simp only [instructionStep, decodeStep, if_pos (show IrqDue { s with ia := j } from hirq),
      if_pos hirq, Option.map_none']
  simp only [instructionStep, decodeStep, if_neg (show ¬IrqDue { s with ia := j } from hirq),
    if_neg hirq, hf, instructionSpec_with_ia, branchWith_with_ia, branchSpec]
  rcases Mode.ofT1 (fetchInstruction table bus s).addressModeCycleFn with _ | m
  · rcases (fetchInstruction table bus s).opcodeCycleFn.branch with _ | ⟨flag, condition⟩
    · rfl
    · dsimp only
      split_ifs <;> rfl
  · simp only [Option.map_map]; rfl

/-- After an instruction the machine is at the fetch again, with a byte in `value` when it
started with one. -/
theorem instructionStep_boundary {s : M6502} {n : Nat} {r : M6502}
    (h : instructionStep table bus s = some (n, r)) (hv : ∃ v : BitVec 8, s.value = v.setWidth 16) :
    r.addressModeCycleFn = .InstructionFetch ∧ ∃ v : BitVec 8, r.value = v.setWidth 16 := by
  obtain ⟨v, hv⟩ := hv
  rcases (decodeStep_eq_some h).2 with ⟨m, -, -, hr⟩ | ⟨flag, condition, -, -, hb⟩
  · obtain ⟨e, -, rfl⟩ := Option.map_eq_some'.mp hr
    exact ⟨rfl, _, (Effect.apply_value e _).trans (handOver_value_byte bus m _ hv)⟩
  · obtain ⟨-, hfetch, hvalue⟩ := branchWith_boundary hb
    exact ⟨hfetch, v, hvalue.trans hv⟩

end Instructions

/-! ## The cycle-level machine refines it -/

/-- The instruction the fetch at `t` starts is a taken branch to another page, the one place
where the code's branch leaves §4.5 (`branchRun_eq_branchSpec_iff`). -/
def CrossesPage (table : DecodeTable) (bus : DataBusReadFn) (t : M6502) : Prop :=
  let f := fetchInstruction table bus t
  match f.opcodeCycleFn.branch with
  | some (flag, condition) => f.addressModeCycleFn = .rel_5_8_T1 ∧ BranchCrosses flag condition bus f
  | none => False

instance (table : DecodeTable) (bus : DataBusReadFn) (t : M6502) :
    Decidable (CrossesPage table bus t) :=
  match h : (fetchInstruction table bus t).opcodeCycleFn.branch with
  | some (flag, condition) =>
    decidable_of_iff ((fetchInstruction table bus t).addressModeCycleFn = .rel_5_8_T1 ∧
      BranchCrosses flag condition bus (fetchInstruction table bus t))
      (by simp only [CrossesPage, h])
  | none => isFalse (by simp only [CrossesPage, h, not_false_eq_true])

section Refinement

variable (ext : OutOfLine) (table : DecodeTable) (bus : DataBusReadFn)

/-- At the fetch with no interrupt due, the code's cycle is the fetch of §4.2. -/
theorem step_eq_fetchInstruction (hf : FetchesBy ext table) {s : M6502}
    (hs : s.addressModeCycleFn = .InstructionFetch) (hirq : ¬IrqDue s) :
    step ext bus s = fetchInstruction table bus s := by
  rw [step, hs]; exact hf bus s hirq

/-- One instruction from the fetch that is not a taken branch to another page: the code
runs the cycles the instruction-level step counts and leaves its state, up to `ia`. -/
theorem run_instruction (hf : FetchesBy ext table) (hb : BranchesBy ext) (hcov : table.Covered)
    (s : M6502) (hs : s.addressModeCycleFn = .InstructionFetch)
    (hv : ∃ v : BitVec 8, s.value = v.setWidth 16) (hcross : ¬CrossesPage table bus s) {n : Nat}
    {r : M6502} (h : instructionStep table bus s = some (n, r)) :
    ∃ i, run ext bus n s = { r with ia := i } := by
  obtain ⟨hirq, hstep⟩ := decodeStep_eq_some h
  rcases hstep with ⟨m, hm, rfl, hr⟩ | ⟨flag, condition, ht, hbr, hspec⟩
  · rw [run, step_eq_fetchInstruction ext table bus hf hs hirq]
    exact run_cycles_eq_instructionSpec ext bus m (hcov _ m hm).1 _ (hcov _ m hm).2 _
      (Mode.T1_of_ofT1 hm).symm rfl hv hr
  · have hcode : branchRun flag condition bus (fetchInstruction table bus s) = (n, r) :=
      ((branchRun_eq_branchSpec_iff _ _ _ _).mpr fun hc =>
        hcross (by simp only [CrossesPage, hbr]; exact ⟨ht, hc⟩)).trans hspec
    obtain ⟨k, rfl⟩ : ∃ k, n = k + 1 := ⟨n - 1, by have := (branchWith_boundary hcode).1; omega⟩
    rw [run, step_eq_fetchInstruction ext table bus hf hs hirq]
    exact run_branch ext bus hb hbr _ ht rfl hcode

/-- The refinement over `k` instructions, from a boundary state with any `ia`. -/
theorem run_instructionRun (hf : FetchesBy ext table) (hb : BranchesBy ext)
    (hcov : table.Covered) :
    ∀ (k : Nat) (s : M6502), s.addressModeCycleFn = .InstructionFetch →
      (∃ v : BitVec 8, s.value = v.setWidth 16) →
      (∀ j < k, ∀ n r, instructionRun table bus j s = some (n, r) → ¬CrossesPage table bus r) →
      ∀ {n : Nat} {r : M6502}, instructionRun table bus k s = some (n, r) →
      ∀ j, ∃ i, run ext bus n { s with ia := j } = { r with ia := i }
  | 0, s, _, _, _, n, r, h, j => by
    cases h
    exact ⟨j, rfl⟩
  | k + 1, s, hs, hv, hcross, n, r, h, j => by
    obtain ⟨n₁, r₁, n₂, h₁, h₂, rfl⟩ := stepRun_succ_eq_some h
    have h₁' : instructionStep table bus { s with ia := j } = some (n₁, { r₁ with ia := j }) := by
      rw [instructionStep_with_ia, h₁]; rfl
    obtain ⟨i₁, hrun₁⟩ := run_instruction ext table bus hf hb hcov { s with ia := j } hs hv
      (hcross 0 (Nat.succ_pos k) 0 s rfl) h₁'
    obtain ⟨hs₁, hv₁⟩ := instructionStep_boundary table bus h₁ hv
    have hcross₁ : ∀ j < k, ∀ n r, instructionRun table bus j r₁ = some (n, r) →
        ¬CrossesPage table bus r := fun j hj n' r' hrun =>
      hcross (j + 1) (Nat.succ_lt_succ hj) (n₁ + n') r' ((stepRun_succ_iff h₁).mpr ⟨n', hrun, rfl⟩)
    rw [run_add, hrun₁]
    exact run_instructionRun hf hb hcov k r₁ hs₁ hv₁ hcross₁ h₂ i₁

end Refinement

/-! ## A counted loop -/

/-- A table that knows `LDA #` (`0xA9`), `TAX` (`0xAA`), `LDX #` (`0xA2`), `DEX` (`0xCA`)
and `BNE` (`0xD0`), and sends every other byte to `JAM`. -/
def sampleTable : DecodeTable := fun b =>
  if b = 0xA9 then (.imm_2_1_T1, .LDA) else if b = 0xAA then (.sb_1_T1, .TAX)
  else if b = 0xA2 then (.imm_2_1_T1, .LDX) else if b = 0xCA then (.sb_1_T1, .DEX)
  else if b = 0xD0 then (.rel_5_8_T1, .BNE) else (.sb_jam_T1, .JAM)

theorem sampleTable_covered : sampleTable.Covered := fun b m h => by
  dsimp only [sampleTable] at h ⊢
  split_ifs at h ⊢ <;> cases h <;> decide

/-- The out-of-line cycles as §4.2, §4.5 and §4.6 give them, with `sampleTable`. -/
def sampleExt : OutOfLine :=
  { (default : OutOfLine) with
    InstructionFetch := fetchInstruction sampleTable, rel_5_8_T2 := fun _ => branchFixup }

/-- `LDX #$03; loop: DEX; BNE loop` at `$0200`, from a zeroed machine at the fetch. -/
def countdownBus : DataBusReadFn :=
  romBus [(0x200, 0xA2), (0x201, 0x03), (0x202, 0xCA), (0x203, 0xD0), (0x204, 0xFD)]

def countdownStart : M6502 :=
  { (default : M6502) with pc := 0x200, addressModeCycleFn := .InstructionFetch }

/-- The countdown runs seven instructions in sixteen cycles, the two taken branches three
cycles each and the last one two, and leaves `x = 0` with Z set. -/
theorem countdown_run : ∃ r, instructionRun sampleTable countdownBus 7 countdownStart =
    some (16, r) ∧ r.x = 0 ∧ r.status &&& flagZero = flagZero := by
  have h : (instructionRun sampleTable countdownBus 7 countdownStart).map
      (fun p => (p.1, p.2.x, p.2.status &&& flagZero)) = some (16, 0, flagZero) := by decide
  obtain ⟨⟨n, r⟩, hrun, hr⟩ := Option.map_eq_some'.mp h
  simp only [Prod.mk.injEq] at hr
  obtain ⟨rfl, hx, hz⟩ := hr
  exact ⟨r, hrun, hx, hz⟩

/-- No branch of the countdown leaves its page. -/
theorem countdown_within_page : ∀ j < 7, ∀ n r,
    instructionRun sampleTable countdownBus j countdownStart = some (n, r) →
      ¬CrossesPage sampleTable countdownBus r := by
  intro j hj n r hrun
  have hd : (instructionRun sampleTable countdownBus j countdownStart).map
      (fun p => decide (CrossesPage sampleTable countdownBus p.2)) = some false := by
    rcases j with _ | _ | _ | _ | _ | _ | _ | j
    all_goals first | omega | decide
  rw [hrun] at hd
  simpa using hd

end Cpu6502
