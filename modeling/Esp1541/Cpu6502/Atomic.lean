import Esp1541.Cpu6502.CodeTable
import Esp1541.Cpu6502.Programs

/-!
# The machine an instruction at a time

`run` advances m6502.h one bus cycle at a time. `atomicStep` is the machine a programmer
reads: it fetches an instruction through the decode table and runs it whole, by the bus
program of its addressing mode (`Mode.program`, with `chains_run_program`) and then its
opcode body, or by the branch of §4.5. `atomicRun` repeats it.

The intermediate address `ia` is scratch between the cycles of a chain: no opcode body
reads it (`opcodeCycle_with_ia`, given `IgnoresIa` for the three bodies in m6502.cpp), so
two states that differ only in `ia` run alike. With that, `programs_run_atomically`: for
every decode table and every run of `atomicRun` that reaches `r` in `n` cycles, `run` for
`n` cycles reaches `r` up to `ia`.
-/

namespace Cpu6502

/-- Modelled from the spec: `ADC`, `SBC` and `ARR` (m6502.cpp) compute on `a`, `value` and
the status, as §4.4 gives them; they do not read the intermediate address `ia`. -/
def IgnoresIa (ext : OutOfLine) : Prop :=
  ∀ f ∈ [ext.ADC, ext.SBC, ext.ARR], ∀ bus (s : M6502) (i : BitVec 16),
    ∃ j, f bus { s with ia := i } = { f bus s with ia := j }

section Bodies

variable (ext : OutOfLine) (bus : DataBusReadFn)

/-- `WriteValue` leaves `ia` alone. -/
theorem writeValue_with_ia (b : BitVec 8) (s : M6502) (i : BitVec 16) :
    writeValue b { s with ia := i } = { writeValue b s with ia := i } := by
  by_cases h : s.addressModeCycleFn = .sb_1_T1
  · rw [writeValue_of_sb_1_T1 h, writeValue_of_sb_1_T1 (s := { s with ia := i }) h]
  · rw [writeValue_of_ne h, writeValue_of_ne (s := { s with ia := i }) h]; rfl

/-- A taken branch keeps the old `pc` in `ia`; otherwise a branch leaves `ia` alone. -/
theorem branchCondition_with_ia (flag condition : BitVec 8) (s : M6502) (i : BitVec 16) :
    ∃ j, branchCondition flag condition bus { s with ia := i } =
      { branchCondition flag condition bus s with ia := j } := by
  by_cases h : s.status &&& flag = condition
  · exact ⟨s.pc + 1, by simp only [branchCondition, h, if_true]; rfl⟩
  · exact ⟨i, by simp only [branchCondition, h, if_false]; rfl⟩

/-- No body reads `ia`: run on a state that differs only in `ia`, it leaves a state that
differs only in `ia`. -/
theorem opcodeCycle_with_ia (hext : IgnoresIa ext) (op : Opcode) (s : M6502) (i : BitVec 16) :
    ∃ j, opcodeCycle ext bus op { s with ia := i } = { opcodeCycle ext bus op s with ia := j } := by
  cases op <;> dsimp only [opcodeCycle]
  case ADC | SBC | ARR => exact hext _ (by simp) bus s i
  case BCC | BCS | BEQ | BMI | BNE | BPL | BVC | BVS => exact branchCondition_with_ia bus _ _ s i
  case ISB =>
    obtain ⟨j, hj⟩ := hext ext.SBC (by simp) bus
      (writeValue (((s.value + 1) &&& 0xff).setWidth 8) { s with value := (s.value + 1) &&& 0xff }) i
    exact ⟨j, (congrArg (ext.SBC bus) (writeValue_with_ia _ _ i)).trans hj⟩
  case RRA =>
    let result := (s.value >>> 1) ||| ((s.status &&& flagCarry).setWidth 16 <<< 7)
    let r := { s with status := setCIf (s.value &&& 1 ≠ 0) s.status }
    obtain ⟨j, hj⟩ := hext ext.ADC (by simp) bus
      { writeValue (result.setWidth 8) r with value := result &&& 0xff } i
    exact ⟨j, (congrArg (fun w : M6502 => ext.ADC bus { w with value := result &&& 0xff })
      (writeValue_with_ia _ r i)).trans hj⟩
  case ASL | LSR | ROL | ROR | INC | DEC | DCP =>
    exact ⟨i, writeValue_with_ia _ { s with status := _ } i⟩
  case SLO | RLA | SRE => exact ⟨i, writeValue_with_ia _ { s with a := _, status := _ } i⟩
  case STA | STX | STY | SAX | SHA | SHX | SHY => exact ⟨i, writeValue_with_ia _ s i⟩
  case SHS => exact ⟨i, congrArg (fun w : M6502 => { w with sp := s.a &&& s.x }) (writeValue_with_ia _ s i)⟩
  all_goals exact ⟨i, rfl⟩

theorem executeOpcode_with_ia (hext : IgnoresIa ext) (s : M6502) (i : BitVec 16) :
    ∃ j, executeOpcode ext bus { s with ia := i } = { executeOpcode ext bus s with ia := j } :=
  let ⟨j, h⟩ := opcodeCycle_with_ia ext bus hext s.opcodeCycleFn s i
  ⟨j, congrArg (fun r : M6502 => { r with addressModeCycleFn := .InstructionFetch }) h⟩

/-- The table's program does not read `ia`, and keeps it. -/
theorem programHandOver_with_ia (m : Mode) (s : M6502) (i : BitVec 16) :
    m.programHandOver bus { s with ia := i } = { m.programHandOver bus s with ia := i } := by
  have hprog : m.program bus { s with ia := i } = m.program bus s := by cases m <;> rfl
  simp only [Mode.programHandOver, hprog]

end Bodies

/-! ## The machine an instruction at a time -/

/-- One instruction as the code runs it, in one step, from a state at the fetch: the fetch
of §4.2 and §4.6, then the accesses of the chain the table names, by `Mode.program`, and
its body; or the branch as the code runs it (`branchRun`). The cycles the instruction takes
come with it. `none` where an interrupt is due, and where the table's cycle starts neither
(`BRK`, `JAM`). -/
def atomicStep (ext : OutOfLine) (table : DecodeTable) (bus : DataBusReadFn) :
    M6502 → Option (Nat × M6502) :=
  decodeStep (fun m f => some (executeOpcode ext bus (m.programHandOver bus f)))
    (fun flag condition => branchRun flag condition bus) table bus

/-- `k` instructions, each in one step. -/
def atomicRun (ext : OutOfLine) (table : DecodeTable) (bus : DataBusReadFn) :
    Nat → M6502 → Option (Nat × M6502) :=
  stepRun (atomicStep ext table bus)

section Atomic

variable (ext : OutOfLine) (table : DecodeTable) (bus : DataBusReadFn)

/-- What an atomic step is made of: no interrupt due, then after the fetch a chain and its
body, or a branch. -/
theorem atomicStep_eq_some {s : M6502} {n : Nat} {r : M6502}
    (h : atomicStep ext table bus s = some (n, r)) :
    ¬IrqDue s ∧
    ((∃ m, Mode.ofT1 (fetchInstruction table bus s).addressModeCycleFn = some m ∧
      n = m.cycles + 1 ∧
      r = executeOpcode ext bus (m.programHandOver bus (fetchInstruction table bus s))) ∨
    (∃ flag condition, (fetchInstruction table bus s).addressModeCycleFn = .rel_5_8_T1 ∧
      (fetchInstruction table bus s).opcodeCycleFn.branch = some (flag, condition) ∧
      branchRun flag condition bus (fetchInstruction table bus s) = (n, r))) :=
  let ⟨hirq, hstep⟩ := decodeStep_eq_some h
  ⟨hirq, hstep.imp (fun ⟨m, hm, hn, hr⟩ => ⟨m, hm, hn, (Option.some.inj hr).symm⟩) id⟩

/-- After an atomic step the machine is at the fetch again. -/
theorem atomicStep_boundary {s : M6502} {n : Nat} {r : M6502}
    (h : atomicStep ext table bus s = some (n, r)) : r.addressModeCycleFn = .InstructionFetch := by
  rcases (atomicStep_eq_some ext table bus h).2 with ⟨m, -, -, rfl⟩ | ⟨flag, condition, -, -, hb⟩
  · rfl
  · exact (branchWith_boundary hb).2.1

/-- An atomic step from a state that differs only in `ia` takes as many cycles and leaves
a state that differs only in `ia`. -/
theorem atomicStep_with_ia (hext : IgnoresIa ext) {s : M6502} {n : Nat} {r : M6502}
    (h : atomicStep ext table bus s = some (n, r)) (i : BitVec 16) :
    ∃ j, atomicStep ext table bus { s with ia := i } = some (n, { r with ia := j }) := by
  have hf : fetchInstruction table bus { s with ia := i } =
      { fetchInstruction table bus s with ia := i } := rfl
  obtain ⟨hirq, hstep⟩ := atomicStep_eq_some ext table bus h
  have hirq' : ¬IrqDue { s with ia := i } := hirq
  rcases hstep with ⟨m, hm, rfl, rfl⟩ | ⟨flag, condition, ht, hbr, hb⟩
  · obtain ⟨j, hj⟩ := executeOpcode_with_ia ext bus hext
      (m.programHandOver bus (fetchInstruction table bus s)) i
    refine ⟨j, ?_⟩
    rw [atomicStep, decodeStep_of_chain hirq' (m := m) hm, hf, programHandOver_with_ia, hj]
    rfl
  · refine ⟨i, ?_⟩
    have hwith := branchWith_with_ia (fun _ target => target) flag condition bus
      (fetchInstruction table bus s) i
    rw [show branchWith _ flag condition bus _ = (n, r) from hb] at hwith
    rw [atomicStep, decodeStep_of_branch hirq' ht hbr, hf]
    exact congrArg some hwith

/-! ## The cycle-level machine refines it -/

/-- One instruction from the fetch: the code runs the cycles the atomic step counts and
leaves its state, up to `ia`. -/
theorem run_atomicStep (hf : FetchesBy ext table) (hb : BranchesBy ext) (hext : IgnoresIa ext)
    (s : M6502) (hs : s.addressModeCycleFn = .InstructionFetch) {n : Nat} {r : M6502}
    (h : atomicStep ext table bus s = some (n, r)) :
    ∃ i, run ext bus n s = { r with ia := i } := by
  obtain ⟨hirq, hstep⟩ := atomicStep_eq_some ext table bus h
  rcases hstep with ⟨m, hm, rfl, rfl⟩ | ⟨flag, condition, ht, hbr, hspec⟩
  · rw [run, step_eq_fetchInstruction ext table bus hf hs hirq]
    obtain ⟨i, hrun⟩ := run_cycles_eq_program ext bus m _ (Mode.T1_of_ofT1 hm).symm
    obtain ⟨j, hj⟩ := executeOpcode_with_ia ext bus hext
      (m.programHandOver bus (fetchInstruction table bus s)) i
    exact ⟨j, hrun.trans hj⟩
  · obtain ⟨k, rfl⟩ : ∃ k, n = k + 1 := ⟨n - 1, by have := (branchWith_boundary hspec).1; omega⟩
    rw [run, step_eq_fetchInstruction ext table bus hf hs hirq]
    exact run_branch ext bus hb hbr _ ht rfl hspec

/-- The refinement over `k` instructions, from a boundary state with any `ia`. -/
theorem run_atomicRun (hf : FetchesBy ext table) (hb : BranchesBy ext) (hext : IgnoresIa ext) :
    ∀ (k : Nat) (s : M6502), s.addressModeCycleFn = .InstructionFetch → ∀ {n : Nat} {r : M6502},
      atomicRun ext table bus k s = some (n, r) →
      ∀ j, ∃ i, run ext bus n { s with ia := j } = { r with ia := i }
  | 0, s, _, n, r, h, j => by
    cases h
    exact ⟨j, rfl⟩
  | k + 1, s, hs, n, r, h, j => by
    obtain ⟨n₁, r₁, n₂, h₁, h₂, rfl⟩ := stepRun_succ_eq_some h
    obtain ⟨j₁, h₁'⟩ := atomicStep_with_ia ext table bus hext h₁ j
    obtain ⟨i₁, hrun₁⟩ := run_atomicStep ext table bus hf hb hext { s with ia := j } hs h₁'
    rw [run_add, hrun₁]
    exact run_atomicRun hf hb hext k r₁ (atomicStep_boundary ext table bus h₁) h₂ i₁

/-- Within one instruction from the fetch, SYNC is up at its first and its last cycle
only. -/
theorem SYNC_run_atomicStep (hf : FetchesBy ext table) (hb : BranchesBy ext) (s : M6502)
    (hs : s.addressModeCycleFn = .InstructionFetch) {n : Nat} {r : M6502}
    (h : atomicStep ext table bus s = some (n, r)) {j : Nat} (hj : j ≤ n) :
    SYNC (run ext bus j s) = decide (j = 0 ∨ j = n) := by
  obtain ⟨hirq, hstep⟩ := atomicStep_eq_some ext table bus h
  cases j with
  | zero => simp only [run, SYNC, hs, true_or, decide_True]
  | succ j =>
    rw [run, step_eq_fetchInstruction ext table bus hf hs hirq]
    rcases hstep with ⟨m, hm, rfl, -⟩ | ⟨flag, condition, ht, hbr, hspec⟩
    · rw [SYNC, addressModeCycleFn_run ext bus m _ (Mode.T1_of_ofT1 hm).symm j (by omega),
        decide_eq_decide, stageAt_eq_fetch_iff m (by omega)]
      omega
    · rcases Nat.lt_or_ge (j + 1) n with hlt | hge
      · rw [SYNC_run_branch ext bus hb hbr _ ht rfl (by rw [hspec]; exact hlt)]
        exact (decide_eq_false (by omega)).symm
      · obtain rfl : n = j + 1 := by omega
        obtain ⟨i, hi⟩ := run_branch ext bus hb hbr _ ht rfl hspec
        rw [hi, SYNC, decide_eq_decide]
        exact ⟨fun _ => .inr rfl, fun _ => (branchWith_boundary hspec).2.1⟩

/-- SYNC over `k` instructions, from a boundary state with any `ia`. -/
theorem SYNC_run_atomicRun (hf : FetchesBy ext table) (hb : BranchesBy ext)
    (hext : IgnoresIa ext) :
    ∀ (k : Nat) (s : M6502), s.addressModeCycleFn = .InstructionFetch → ∀ {n : Nat} {r : M6502},
      atomicRun ext table bus k s = some (n, r) → ∀ x, ∀ j ≤ n,
      (SYNC (run ext bus j { s with ia := x }) = true ↔
        ∃ l ≤ k, ∃ r', atomicRun ext table bus l s = some (j, r'))
  | 0, s, hs, n, r, h, x, j, hj => by
    cases h
    obtain rfl : j = 0 := by omega
    exact ⟨fun _ => ⟨0, le_rfl, s, rfl⟩, fun _ => by simp only [run, SYNC, hs, decide_True]⟩
  | k + 1, s, hs, n, r, h, x, j, hj => by
    obtain ⟨n₁, r₁, n₂, h₁, h₂, rfl⟩ := stepRun_succ_eq_some h
    obtain ⟨j₁, h₁'⟩ := atomicStep_with_ia ext table bus hext h₁ x
    rcases Nat.lt_or_ge n₁ j with hlt | hle
    · obtain ⟨j', rfl⟩ : ∃ j', j = n₁ + j' := ⟨j - n₁, by omega⟩
      obtain ⟨i₁, hrun₁⟩ := run_atomicStep ext table bus hf hb hext { s with ia := x } hs h₁'
      rw [run_add, hrun₁, SYNC_run_atomicRun hf hb hext k r₁ (atomicStep_boundary ext table bus h₁)
        h₂ i₁ j' (by omega)]
      constructor
      · rintro ⟨l, hl, r', hr'⟩
        exact ⟨l + 1, by omega, r', (stepRun_succ_iff h₁).mpr ⟨j', hr', rfl⟩⟩
      · rintro ⟨l, hl, r', hr'⟩
        cases l with
        | zero => have := (Prod.mk.inj (Option.some.inj hr')).1; omega
        | succ l =>
          obtain ⟨c', hc', hc⟩ := (stepRun_succ_iff h₁).mp hr'
          obtain rfl : c' = j' := by omega
          exact ⟨l, by omega, r', hc'⟩
    · rw [SYNC_run_atomicStep ext table bus hf hb { s with ia := x } hs h₁' hle, decide_eq_true_iff]
      constructor
      · rintro (rfl | rfl)
        · exact ⟨0, by omega, s, rfl⟩
        · exact ⟨1, by omega, r₁, (stepRun_succ_iff h₁).mpr ⟨0, rfl, rfl⟩⟩
      · rintro ⟨l, hl, r', hr'⟩
        cases l with
        | zero => cases hr'; exact .inl rfl
        | succ l =>
          obtain ⟨c', hc', rfl⟩ := (stepRun_succ_iff h₁).mp hr'
          obtain rfl : c' = 0 := by omega
          exact .inr rfl

end Atomic

/-! ## An indexed store -/

/-- A table that knows `LDX #` (`0xA2`) and `STA abs,X` (`0x9D`), and sends every other
byte to `JAM`. -/
def storeTable : DecodeTable := fun b =>
  if b = 0xA2 then (.imm_2_1_T1, .LDX) else if b = 0x9D then (.absx_3_4_T1, .STA)
  else (.sb_jam_T1, .JAM)

/-- The out-of-line cycles as §4.2, §4.5 and §4.6 give them, with `storeTable`, and `ADC`,
`SBC` and `ARR` doing nothing. -/
def storeExt : OutOfLine :=
  { (default : OutOfLine) with
    InstructionFetch := fetchInstruction storeTable, rel_5_8_T2 := fun _ => branchFixup,
    ADC := fun _ s => s, SBC := fun _ s => s, ARR := fun _ s => s }

theorem storeExt_ignoresIa : IgnoresIa storeExt := by
  simp only [IgnoresIa, storeExt, List.mem_cons, List.mem_singleton, List.not_mem_nil, or_false]
  rintro f (rfl | rfl | rfl) _ t i <;> exact ⟨i, rfl⟩

/-- `LDX #$01; STA $12FF,X` at `$0200`. -/
def storeBus : DataBusReadFn :=
  romBus [(0x200, 0xA2), (0x201, 0x01), (0x202, 0x9D), (0x203, 0xFF), (0x204, 0x12)]

def storeStart : M6502 :=
  { (default : M6502) with pc := 0x200, addressModeCycleFn := .InstructionFetch }

/-- The two instructions take seven cycles, the first of them two. -/
theorem store_run :
    (∃ r, atomicRun storeExt storeTable storeBus 1 storeStart = some (2, r)) ∧
      ∃ r, atomicRun storeExt storeTable storeBus 2 storeStart = some (7, r) := by
  have h : [1, 2].map (fun k => (atomicRun storeExt storeTable storeBus k storeStart).map Prod.fst) =
      [some 2, some 7] := by decide
  simp only [List.map_cons, List.map_nil, List.cons.injEq, and_true] at h
  obtain ⟨⟨⟨n₁, r₁⟩, h₁, rfl⟩, ⟨⟨n₂, r₂⟩, h₂, rfl⟩⟩ :=
    And.intro (Option.map_eq_some'.mp h.1) (Option.map_eq_some'.mp h.2)
  exact ⟨⟨r₁, h₁⟩, ⟨r₂, h₂⟩⟩

end Cpu6502
