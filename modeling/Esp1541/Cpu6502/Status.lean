import Esp1541.Cpu6502.Chains

/-!
# The status byte and the reset sequence

`Reachable` is the set of states a constructed CPU reaches by calls of the cycle
functions and opcode bodies of m6502.h and of `SO()`, against one bus. Bit 5 of the
status (U) is not kept set on it: `rti_5_5_T3` stores the pulled byte as it is, where
`PLP` ors in `FLAG_CONSTANT`, so an `RTI` whose stacked status has bit 5 clear clears U
(`rti_pull_clears_unused_flag`). That is the only way U is lost: the flag helpers touch
other bits, so every opcode body and every other cycle keeps it
(`opcodeCycle_keeps_unused`, `stageCycle_keeps_unused`), and a run keeps U as long as each
`rti_5_5_T3` pulls a byte with bit 5 set (`run_keeps_unused`), given that the functions
of m6502.cpp keep it (`KeepsUnused`).

The seven reset cycles make seven reads, three of them on the stack, and load the
vector (`run_reset`, `reset_sequence`). `Reset_T0` first sets `sp = 0`, so the stack reads
are at `0x100`, `0x1FF` and `0x1FE` and `sp` ends at `0xFD` from every state, and the
cycles touch no status bit but B (`reset_zeroes_stack_pointer`): a warm reset neither
decrements the old `sp` nor restores a lost U (`reset_forgets_stack_pointer`).
-/

namespace Cpu6502

/-- Whether m6502.h itself defines the opcode body. -/
def Opcode.inHeader : Opcode → Bool
  | .ADC | .SBC | .ARR => false
  | _ => true

/-- Modelled from the spec: `Reset()` is defined in m6502.cpp; it starts the reset
sequence at the next `Step()` (§6). A constructed CPU: `SetBusFunctions` has set
`status = FLAG_CONSTANT` and `Reset()` has scheduled `Reset_T0`. -/
def Constructed (s : M6502) : Prop :=
  s.status = flagConstant ∧ s.addressModeCycleFn = .Reset_T0

/-- The states reached from construction by calls of m6502.h's cycle functions and
opcode bodies, and of `SO()`, in any order, against the bus `bus`. -/
inductive Reachable (ext : OutOfLine) (bus : DataBusReadFn) : M6502 → Prop
  | construct {s : M6502} : Constructed s → Reachable ext bus s
  | stage {s : M6502} (t : Stage) : t.inHeader → Reachable ext bus s →
      Reachable ext bus (stageCycle ext bus t s)
  | body {s : M6502} (op : Opcode) : op.inHeader → Reachable ext bus s →
      Reachable ext bus (opcodeCycle ext bus op s)
  | so {s : M6502} : Reachable ext bus s → Reachable ext bus (SO s)

theorem Reachable.callStages {ext : OutOfLine} {bus : DataBusReadFn} :
    ∀ {ts : List Stage} {s : M6502}, (∀ t ∈ ts, t.inHeader) → Reachable ext bus s →
      Reachable ext bus (Cpu6502.callStages ext bus ts s)
  | [], _, _, hs => hs
  | t :: ts, _, h, hs => @Reachable.callStages ext bus ts _ (fun u hu => h u (.tail _ hu))
      (.stage t (h t (.head _)) hs)

/-- U is lost by an `RTI` whose stacked status is `0x00`: reset a constructed CPU, then
run the first three cycles of `RTI` against a bus that reads `0x00` everywhere. -/
theorem rti_pull_clears_unused_flag :
    let s : M6502 := callStages default (fun _ _ => 0)
      [.Reset_T0, .Reset_T1, .Reset_T2, .Reset_T3, .Reset_T4, .Reset_T5, .Reset_T6,
        .rti_5_5_T1, .rti_5_5_T2, .rti_5_5_T3]
      { (default : M6502) with status := flagConstant, addressModeCycleFn := .Reset_T0 }
    Reachable default (fun _ _ => 0) s ∧ s.status &&& flagConstant = 0 :=
  ⟨Reachable.callStages (by decide) (.construct ⟨rfl, rfl⟩), by decide⟩

/-! ## The reset sequence -/

section Reset

variable (ext : OutOfLine) (bus : DataBusReadFn)

/-- The state the seven reset cycles leave, from any state at `Reset_T0`. -/
theorem run_reset (s : M6502) (h : s.addressModeCycleFn = .Reset_T0) :
    let past := s.trace ++ [.read s.pc, .read s.pc, .read 0x100, .read 0x1FF, .read 0x1FE]
    run ext bus 7 s =
      { s with
        trace := past ++ [.read 0xFFFC, .read 0xFFFD], sp := 0xFD, status := clearB s.status,
        ea := (bus past 0xFFFC).setWidth 16, addressModeCycleFn := .InstructionFetch,
        pc := (bus past 0xFFFC).setWidth 16 |||
          ((bus (past ++ [.read 0xFFFC]) 0xFFFD).setWidth 16 <<< 8) } := by
  cases s; subst h
  rw [show run ext bus 7 _ = _ from @run_eq_callStages ext bus .Reset_T0
    [.Reset_T1, .Reset_T2, .Reset_T3, .Reset_T4, .Reset_T5, .Reset_T6] _ (by decide) rfl]
  dsimp only [callStages, List.foldl, stageCycle, Reset_T0, Reset_T1, Reset_T2, Reset_T3, Reset_T4,
    Reset_T5, Reset_T6, dummyReadPc, dummyPush, readVectorLow, M6502.log]
  simp only [List.append_assoc, List.cons_append, List.nil_append]
  rfl

/-- The reset cycles from any state: reads at `pc` twice, at `0x100`, `0x1FF` and
`0x1FE`, then the vector at `0xFFFC`; `sp` ends at `0xFD`; `a`, `x`, `y` and every status
bit but B are kept, B is cleared; `pc` is the vector and the fetch is next. -/
theorem reset_sequence (s : M6502) (h : s.addressModeCycleFn = .Reset_T0) :
    let past := s.trace ++ [.read s.pc, .read s.pc, .read 0x100, .read 0x1FF, .read 0x1FE]
    let r := run ext bus 7 s
    r.trace = past ++ [.read 0xFFFC, .read 0xFFFD] ∧ r.sp = 0xFD ∧
      r.a = s.a ∧ r.x = s.x ∧ r.y = s.y ∧ r.status = clearB s.status ∧
      r.pc = (bus past 0xFFFC).setWidth 16 |||
        ((bus (past ++ [.read 0xFFFC]) 0xFFFD).setWidth 16 <<< 8) ∧
      r.addressModeCycleFn = .InstructionFetch := by
  rw [run_reset ext bus s h]
  exact ⟨rfl, rfl, rfl, rfl, rfl, rfl, rfl, rfl⟩

/-- The reset from power-on, against a bus that reads `0x00` everywhere. -/
theorem reset_sequence_power_on :
    let s : M6502 := { (default : M6502) with addressModeCycleFn := .Reset_T0 }
    s.addressModeCycleFn = .Reset_T0 ∧ (run default (fun _ _ => 0) 7 s).sp = 0xFD :=
  ⟨rfl, (reset_sequence default (fun _ _ => 0) _ rfl).2.1⟩

/-- `ClearB` keeps D and U and clears B. -/
theorem clearB_flags (p : BitVec 8) :
    clearB p &&& flagDecimal = p &&& flagDecimal ∧ clearB p &&& flagBreak = 0 ∧
      clearB p &&& flagConstant = p &&& flagConstant := by
  revert p; decide

/-- The reset cycles from any state make seven reads and no write. `Reset_T0` first sets
`sp = 0`, so the three stack reads are at `0x100`, `0x1FF` and `0x1FE` whatever `sp` was,
and `sp` ends at `0xFD`; `a`, `x`, `y` and D are kept, B is cleared and U is left as it
was; `pc` is the vector and the fetch is next. -/
theorem reset_zeroes_stack_pointer (s : M6502) (h : s.addressModeCycleFn = .Reset_T0) :
    let past := s.trace ++ [.read s.pc, .read s.pc, .read 0x100, .read 0x1FF, .read 0x1FE]
    let r := run ext bus 7 s
    (∃ reads : List (BitVec 16), r.trace = s.trace ++ reads.map .read ∧ reads.length = 7 ∧
      (reads.drop 2).take 3 = [0x100, 0x1FF, 0x1FE]) ∧
    r.sp = 0xFD ∧ r.a = s.a ∧ r.x = s.x ∧ r.y = s.y ∧
    r.status &&& flagDecimal = s.status &&& flagDecimal ∧ r.status &&& flagBreak = 0 ∧
    r.status &&& flagConstant = s.status &&& flagConstant ∧
    r.pc = (bus past 0xFFFC).setWidth 16 |||
      ((bus (past ++ [.read 0xFFFC]) 0xFFFD).setWidth 16 <<< 8) ∧
    r.addressModeCycleFn = .InstructionFetch := by
  rw [run_reset ext bus s h]
  obtain ⟨hd, hb, hu⟩ := clearB_flags s.status
  exact ⟨⟨[s.pc, s.pc, 0x100, 0x1FF, 0x1FE, 0xFFFC, 0xFFFD], by simp, rfl, rfl⟩, rfl, rfl, rfl,
    rfl, hd, hb, hu, rfl, rfl⟩

/-- A warm reset from `sp = 0x42`. -/
theorem reset_zeroes_stack_pointer_warm :
    let s : M6502 := { (default : M6502) with sp := 0x42, addressModeCycleFn := .Reset_T0 }
    s.addressModeCycleFn = .Reset_T0 ∧ (run default (fun _ _ => 0) 7 s).sp = 0xFD :=
  ⟨rfl, (reset_zeroes_stack_pointer default (fun _ _ => 0) _ rfl).2.1⟩

end Reset

/-- A warm reset from `sp = 0x42` with U clear: the stack reads are at `0x100`, `0x1FF`
and `0x1FE`, `sp` ends at `0xFD`, and U stays clear. -/
theorem reset_forgets_stack_pointer :
    let s : M6502 := { (default : M6502) with sp := 0x42, addressModeCycleFn := .Reset_T0 }
    let r := run default (fun _ _ => 0) 7 s
    r.trace = [.read 0, .read 0, .read 0x100, .read 0x1FF, .read 0x1FE, .read 0xFFFC,
      .read 0xFFFD] ∧ r.sp = 0xFD ∧ r.status &&& flagConstant = 0 := by
  decide

/-! ## U outside `RTI` -/

/-- Bit 5 of a status byte, U. -/
def unusedSet (p : BitVec 8) : Bool := p.getLsbD 5

theorem unusedSet_setFlag {f : BitVec 8} (hf : unusedSet f = false) (p : BitVec 8) :
    unusedSet (setFlag f p) = unusedSet p := by
  simp only [unusedSet, setFlag, BitVec.getLsbD_or] at hf ⊢
  rw [hf, Bool.or_false]

theorem unusedSet_clearFlag {f : BitVec 8} (hf : unusedSet f = false) (p : BitVec 8) :
    unusedSet (clearFlag f p) = unusedSet p := by
  simp only [unusedSet, clearFlag, BitVec.getLsbD_and, BitVec.getLsbD_not] at hf ⊢
  rw [hf]
  simp

theorem unusedSet_putFlag {f : BitVec 8} (hf : unusedSet f = false) (b : Bool) (p : BitVec 8) :
    unusedSet (putFlag f b p) = unusedSet p := by
  unfold putFlag
  split
  · exact unusedSet_setFlag hf p
  · exact unusedSet_clearFlag hf p

theorem unusedSet_or_flagConstant (p : BitVec 8) : unusedSet (p ||| flagConstant) = true := by
  simp only [unusedSet, BitVec.getLsbD_or, show flagConstant.getLsbD 5 = true from rfl,
    Bool.or_true]

@[simp] theorem writeValue_status (b : BitVec 8) (s : M6502) :
    (writeValue b s).status = s.status := by
  unfold writeValue
  split <;> rfl

@[simp] theorem branchCondition_status (flag condition : BitVec 8) (bus : DataBusReadFn)
    (s : M6502) : (branchCondition flag condition bus s).status = s.status := by
  unfold branchCondition
  split <;> rfl

/-- Modelled from the spec: the functions of m6502.cpp keep U set (§3). -/
def KeepsUnused (ext : OutOfLine) : Prop :=
  ∀ f ∈ [ext.InstructionFetch, ext.InstructionFetchIRQ, ext.rel_5_8_T2, ext.absx_2_5_T3,
    ext.absy_2_5_T3, ext.idy_2_7_T4, ext.brk_5_4_T4, ext.IRQ_T4, ext.ADC, ext.SBC, ext.ARR],
    ∀ bus s, unusedSet s.status → unusedSet (f bus s).status

section Unused

variable {ext : OutOfLine} (bus : DataBusReadFn)

/-- Every opcode body keeps U set: the flag helpers touch other bits and `PLP` sets it. -/
theorem opcodeCycle_keeps_unused (hext : KeepsUnused ext) (op : Opcode) (s : M6502)
    (hs : unusedSet s.status) : unusedSet (opcodeCycle ext bus op s).status := by
  cases op
  case ADC | SBC | ARR => exact hext _ (by simp) bus s hs
  case ISB => exact hext _ (by simp) bus _ (by simpa only [writeValue_status] using hs)
  case RRA => exact hext _ (by simp) bus _ (by
    simp (disch := decide) only [writeValue_status, setCIf, unusedSet_putFlag, hs])
  all_goals
    dsimp only [opcodeCycle, ANC, AND, ASL, BCC, BCS, BEQ, BMI, BNE, BPL, BVC, BVS, BIT, CLC,
      CLD, CLI, CLV, CMP, CPX, CPY, DEC, DEX, DEY, EOR, INC, INX, INY, JMP, LDA, LDX, LDY, LSR,
      ORA, PHA, PHP, PLA, PLP, ROL, ROR, SEC, SED, SEI, STA, STX, STY, TAX, TAY, TSX, TXA, TXS,
      TYA, ASR, LXA, LAX, LAS, SAX, SBX, XAA, SHA, SHY, SHS, SHX, storeHighAnd, DCP, SLO, RLA,
      SRE, compare, push, pull, M6502.log, id]
    simp (disch := decide) only [writeValue_status, branchCondition_status, establishNZ,
      establishN, establishZ, establishC, setCIf, setZIf, setVIf, setNIf, clearC, setC, clearI,
      setI, clearD, setD, clearV, unusedSet_putFlag, unusedSet_setFlag, unusedSet_clearFlag,
      unusedSet_or_flagConstant, hs]

/-- Every cycle function but `rti_5_5_T3` keeps U set. -/
theorem stageCycle_keeps_unused (hext : KeepsUnused ext) (t : Stage) (ht : t ≠ .rti_5_5_T3)
    (s : M6502) (hs : unusedSet s.status) : unusedSet (stageCycle ext bus t s).status := by
  cases hin : t.inHeader
  · obtain ⟨f, hf, h⟩ := stageCycle_of_not_inHeader ext bus hin
    rw [h]
    exact hext f (List.mem_append_left _ hf) bus s hs
  obtain ⟨r, hstep, hr⟩ := stageCycle_frame ext bus hin ht s
  have hu : unusedSet r.status := by
    rcases hr.status with h | h | h <;> rw [h]
    · exact hs
    · simp (disch := decide) only [setI, unusedSet_setFlag, hs]
    · simp (disch := decide) only [clearB, unusedSet_clearFlag, hs]
  rcases hstep with h | h | h <;> rw [h]
  · exact hu
  all_goals exact opcodeCycle_keeps_unused bus hext _ r hu

/-- One `Step()` keeps U set, unless it is `rti_5_5_T3` pulling a byte with U clear. -/
theorem step_keeps_unused (hext : KeepsUnused ext) (s : M6502) (hs : unusedSet s.status)
    (hrti : s.addressModeCycleFn = .rti_5_5_T3 → unusedSet (pulled bus s)) :
    unusedSet (step ext bus s).status := by
  unfold step
  by_cases h : s.addressModeCycleFn = .rti_5_5_T3
  · rw [h]
    exact hrti h
  · exact stageCycle_keeps_unused bus hext _ h s hs

/-- U stays set along every run in which each `rti_5_5_T3` pulls a status byte with U
set: no other cycle of m6502.h clears it. -/
theorem run_keeps_unused (hext : KeepsUnused ext) :
    ∀ (n : Nat) (s : M6502), unusedSet s.status →
      (∀ k < n, (run ext bus k s).addressModeCycleFn = .rti_5_5_T3 →
        unusedSet (pulled bus (run ext bus k s))) →
      unusedSet (run ext bus n s).status
  | 0, _, hs, _ => hs
  | n + 1, s, hs, hrti =>
    run_keeps_unused hext n (step ext bus s) (step_keeps_unused bus hext s hs (hrti 0 (by omega)))
      (fun k hk => hrti (k + 1) (by omega))

end Unused

/-- The reset from a constructed state, with the functions of m6502.cpp leaving the state
as it is: U is still set after the seven cycles. -/
theorem run_keeps_unused_reset :
    let ext : OutOfLine := ⟨fun _ s => s, fun _ s => s, fun _ s => s, fun _ s => s,
      fun _ s => s, fun _ s => s, fun _ s => s, fun _ s => s, fun _ s => s, fun _ s => s,
      fun _ s => s⟩
    let s : M6502 := { (default : M6502) with status := flagConstant,
                                               addressModeCycleFn := .Reset_T0 }
    KeepsUnused ext ∧ unusedSet s.status ∧
      (∀ k < 7, (run ext (fun _ _ => 0) k s).addressModeCycleFn = .rti_5_5_T3 →
        unusedSet (pulled (fun _ _ => 0) (run ext (fun _ _ => 0) k s))) ∧
      unusedSet (run ext (fun _ _ => 0) 7 s).status := by
  intro ext s
  have hkeep : KeepsUnused ext := fun f hf _ _ hs => by
    simp only [ext, List.mem_cons, List.mem_singleton, or_self, List.not_mem_nil, or_false] at hf
    subst hf
    exact hs
  have hrti : ∀ k < 7, (run ext (fun _ _ => 0) k s).addressModeCycleFn = .rti_5_5_T3 →
      unusedSet (pulled (fun _ _ => 0) (run ext (fun _ _ => 0) k s)) := by decide
  have hs : unusedSet s.status := by decide
  exact ⟨hkeep, hs, hrti, run_keeps_unused _ hkeep 7 s hs hrti⟩

end Cpu6502
