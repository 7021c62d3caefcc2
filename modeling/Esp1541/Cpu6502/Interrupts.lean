import Esp1541.Cpu6502.Stack

/-!
# The IRQ entry, `BRK` and `RTI`

`IRQ_T1` … `IRQ_T6` make a dummy read at `pc`, push the `pc` high byte and then the low
byte, and load the vector at `0xFFFE`. `IRQ_T4` is in m6502.cpp; `EntersIRQ` takes it to
do what §4.6 says and what `NMI_T4` of m6502.h does: `ClearB(); Push(status);
status |= FLAG_INTERRUPT`. The entry then leaves the interrupted `pc` and its status with
B clear on the stack, I set and `sp` three lower (`run_irq_entry`).

`rti_5_5` pulls the status, then the `pc` low and high bytes (`run_rti`). Against a bus
whose page 1 is RAM, an `RTI` from any state whose `sp` and three stacked bytes are those
the entry left resumes the interrupted program: the same `pc`, the same `sp`, and the
status with B clear (`irq_rti_round_trip`).

`brk_5_4` is the same sequence with a read of the padding byte, the push of `pc + 1` and of
the status with B set (`brk_5_4_T4` is in m6502.cpp; `EntersBRK` takes it from §4.6). The
`RTI` after it resumes one byte past the padding byte, with B set in the status it pulls
(`brk_rti_round_trip`).
-/

namespace Cpu6502

/-- Modelled from the spec: `IRQ_T4` (m6502.cpp) with no NMI pending, as §4.6 gives it and
as `NMI_T4` is written in m6502.h: `ClearB(); Push(status); status |= FLAG_INTERRUPT`. -/
def EntersIRQ (ext : OutOfLine) : Prop :=
  ∀ bus s, ext.IRQ_T4 bus s =
    { push (clearB s.status) s with
      status := setI (clearB s.status), addressModeCycleFn := .IRQ_T5 }

/-- Modelled from the spec: `brk_5_4_T4` (m6502.cpp) with no interrupt pending, as §4.6
gives it: the status is pushed with B set, and I is set. -/
def EntersBRK (ext : OutOfLine) : Prop :=
  ∀ bus s, ext.brk_5_4_T4 bus s =
    { push (setB s.status) s with status := setI s.status, addressModeCycleFn := .brk_5_4_T5 }

section Entry

variable (ext : OutOfLine) (bus : DataBusReadFn)

/-- The six cycles of the IRQ entry: a read at `pc`, three pushes (the `pc` high byte, the
low byte, the status with B clear) and the two vector reads; I is set, `sp` is three
lower and the handler's fetch is scheduled. -/
theorem run_irq_entry (hirq : EntersIRQ ext) (s : M6502) (hs : s.addressModeCycleFn = .IRQ_T1) :
    let j := run ext bus 6 s
    j.trace = s.trace ++ [.read s.pc, .write (stackAddress s.sp) ((s.pc >>> 8).setWidth 8),
      .write (stackAddress (s.sp - 1)) ((s.pc &&& 0xff).setWidth 8),
      .write (stackAddress (s.sp - 1 - 1)) (clearB s.status), .read 0xFFFE, .read 0xFFFF] ∧
      j.sp = s.sp - 1 - 1 - 1 ∧ j.status = setI (clearB s.status) ∧
      j.addressModeCycleFn = .InstructionFetchIRQ := by
  rw [run_add ext bus 3 3, show run ext bus 3 s = _ from
    @run_eq_callStages ext bus .IRQ_T1 [.IRQ_T2, .IRQ_T3] s (by decide) hs, run, step]
  dsimp only [callStages, List.foldl, stageCycle, IRQ_T1, IRQ_T2, IRQ_T3, dummyReadPc, pushPch,
    pushPcl]
  rw [hirq, show run ext bus 2 _ = _ from
    @run_eq_callStages ext bus .IRQ_T5 [.IRQ_T6] _ (by decide) rfl]
  dsimp only [callStages, List.foldl, stageCycle, IRQ_T5, IRQ_T6, readVectorLow, push, M6502.log]
  simp only [List.append_assoc, List.cons_append, List.nil_append, setI, setFlag, BitVec.or_assoc,
    BitVec.or_self, and_self]

/-- `RTI` pulls the status, then the low and the high byte of `pc`. -/
theorem run_rti (hram : StackRAM bus) (t : M6502) (ht : t.addressModeCycleFn = .rti_5_5_T1)
    (ho : t.opcodeCycleFn = .RTI) {p lo hi : BitVec 8}
    (hp : lastWrite t.trace (stackAddress (t.sp + 1)) = some p)
    (hlo : lastWrite t.trace (stackAddress (t.sp + 1 + 1)) = some lo)
    (hhi : lastWrite t.trace (stackAddress (t.sp + 1 + 1 + 1)) = some hi) :
    let r := run ext bus 5 t
    r.status = p ∧ r.pc = lo.setWidth 16 ||| hi.setWidth 16 <<< 8 ∧ r.sp = t.sp + 1 + 1 + 1 := by
  obtain ⟨i, hi'⟩ := chains_refine_reference ext bus .rti_5_5 rfl t ht
  dsimp only [Mode.cycles] at hi' ⊢
  rw [hi']
  obtain ⟨ea, ia, value, pc, opcode, a, x, y, status, sp, c1, c2, c3, c4, t, op, trace⟩ := t
  subst ho
  dsimp only [Mode.handOver, Mode.reference, busRead, bind, StateT.bind, pure, StateT.pure,
    StateT.run, M6502.operand, Option.getD, Option.map, executeOpcode, opcodeCycle, id]
  simp only [← stackAddress_eq_stackSlot, ← join_eq_append, ← sp_add_one_add_one,
    ← sp_add_two_add_one]
  rw [hram _ _ p, hram _ _ lo, hram _ _ hi]
  · exact ⟨rfl, rfl, trivial⟩
  all_goals simpa only [lastWrite_append_read]

/-- Three pushes at `sp`, `sp - 1` and `sp - 2`, followed by the two vector reads, leave
their bytes as the last ones written to the three slots above `sp - 3`. -/
theorem lastWrite_three_pushes (past : List Access) (a : BitVec 16) (sp hi lo p : BitVec 8) :
    let t := past ++ [.read a, .write (stackAddress sp) hi, .write (stackAddress (sp - 1)) lo,
      .write (stackAddress (sp - 1 - 1)) p, .read 0xFFFE, .read 0xFFFF]
    lastWrite t (stackAddress (sp - 1 - 1 - 1 + 1)) = some p ∧
      lastWrite t (stackAddress (sp - 1 - 1 - 1 + 1 + 1)) = some lo ∧
      lastWrite t (stackAddress (sp - 1 - 1 - 1 + 1 + 1 + 1)) = some hi := by
  have d1 : sp - 1 - 1 ≠ sp - 1 := by bv_omega
  have d2 : sp - 1 - 1 ≠ sp := by bv_omega
  have d3 : sp - 1 ≠ sp := by bv_omega
  simp only [sub_add_cancel, lastWrite_append past]
  simp only [lastWrite, List.foldl_cons, List.foldl_nil, stackAddress_inj, d1, d2, d3, reduceIte,
    Option.or_some, and_self]

/-- The three bytes the entry leaves above its `sp`: the status with B clear, then the
`pc` low and high bytes. -/
theorem irq_entry_stacked (hirq : EntersIRQ ext) (s : M6502) (hs : s.addressModeCycleFn = .IRQ_T1) :
    let j := run ext bus 6 s
    lastWrite j.trace (stackAddress (j.sp + 1)) = some (clearB s.status) ∧
      lastWrite j.trace (stackAddress (j.sp + 1 + 1)) = some ((s.pc &&& 0xff).setWidth 8) ∧
      lastWrite j.trace (stackAddress (j.sp + 1 + 1 + 1)) = some ((s.pc >>> 8).setWidth 8) := by
  obtain ⟨htrace, hjsp, -, -⟩ := run_irq_entry ext bus hirq s hs
  dsimp only
  rw [htrace, hjsp]
  exact lastWrite_three_pushes _ _ _ _ _ _

/-- The six cycles of `BRK` after its fetch: a read of the padding byte at `pc`, three
pushes (the high and the low byte of `pc + 1`, the status with B set) and the two vector
reads; I is set, `sp` is three lower and `pc` is the vector. -/
theorem run_brk (hbrk : EntersBRK ext) (s : M6502) (hs : s.addressModeCycleFn = .brk_5_4_T1)
    (ho : s.opcodeCycleFn = .BRK) :
    let j := run ext bus 6 s
    let past := s.trace ++ [.read s.pc, .write (stackAddress s.sp) (((s.pc + 1) >>> 8).setWidth 8),
      .write (stackAddress (s.sp - 1)) (((s.pc + 1) &&& 0xff).setWidth 8),
      .write (stackAddress (s.sp - 1 - 1)) (setB s.status)]
    j.trace = past ++ [.read 0xFFFE, .read 0xFFFF] ∧
      j.sp = s.sp - 1 - 1 - 1 ∧ j.status = setI s.status ∧
      j.pc = (bus past 0xFFFE).setWidth 16 ||| (bus (past ++ [.read 0xFFFE]) 0xFFFF).setWidth 16 <<< 8 ∧
      j.addressModeCycleFn = .InstructionFetch := by
  rw [run_add ext bus 3 3, show run ext bus 3 s = _ from
    @run_eq_callStages ext bus .brk_5_4_T1 [.brk_5_4_T2, .brk_5_4_T3] s (by decide) hs, run, step]
  dsimp only [callStages, List.foldl, stageCycle, brk_5_4_T1, brk_5_4_T2, brk_5_4_T3, pushPch,
    pushPcl]
  rw [hbrk, show run ext bus 2 _ = _ from
    @run_eq_callStages ext bus .brk_5_4_T5 [.brk_5_4_T6] _ (by decide) rfl]
  dsimp only [callStages, List.foldl, stageCycle, brk_5_4_T5, brk_5_4_T6, readVectorLow, push,
    executeOpcode, M6502.log]
  rw [ho]
  dsimp only [opcodeCycle, id]
  simp only [List.append_assoc, List.cons_append, List.nil_append, setI, setFlag, BitVec.or_assoc,
    BitVec.or_self, and_self]

/-- The three bytes `BRK` leaves above its `sp`: the status with B set, then the low and
the high byte of `pc + 1`. -/
theorem brk_entry_stacked (hbrk : EntersBRK ext) (s : M6502)
    (hs : s.addressModeCycleFn = .brk_5_4_T1) (ho : s.opcodeCycleFn = .BRK) :
    let j := run ext bus 6 s
    lastWrite j.trace (stackAddress (j.sp + 1)) = some (setB s.status) ∧
      lastWrite j.trace (stackAddress (j.sp + 1 + 1)) = some (((s.pc + 1) &&& 0xff).setWidth 8) ∧
      lastWrite j.trace (stackAddress (j.sp + 1 + 1 + 1)) =
        some (((s.pc + 1) >>> 8).setWidth 8) := by
  obtain ⟨htrace, hjsp, -⟩ := run_brk ext bus hbrk s hs ho
  dsimp only
  rw [htrace, hjsp, List.append_assoc]
  exact lastWrite_three_pushes _ _ _ _ _ _

end Entry

/-- With the entry of §4.6 and a bus whose page 1 is RAM: after the IRQ entry from `s`,
an `RTI` from any state whose `sp` and three stacked bytes are those the entry left
resumes at the interrupted `pc`, with the interrupted `sp` and status, B clear. -/
theorem irq_rti_round_trip (ext : OutOfLine) (bus : DataBusReadFn) (hram : StackRAM bus)
    (hirq : EntersIRQ ext) (s : M6502) (hs : s.addressModeCycleFn = .IRQ_T1) :
    let j := run ext bus 6 s
    ∀ t : M6502, t.addressModeCycleFn = .rti_5_5_T1 → t.opcodeCycleFn = .RTI → t.sp = j.sp →
      lastWrite t.trace (stackAddress (j.sp + 1)) = lastWrite j.trace (stackAddress (j.sp + 1)) →
      lastWrite t.trace (stackAddress (j.sp + 2)) = lastWrite j.trace (stackAddress (j.sp + 2)) →
      lastWrite t.trace (stackAddress (j.sp + 3)) = lastWrite j.trace (stackAddress (j.sp + 3)) →
      (run ext bus 5 t).pc = s.pc ∧ (run ext bus 5 t).status = clearB s.status ∧
        (run ext bus 5 t).sp = s.sp := by
  intro j t ht ho hsp h1 h2 h3
  obtain ⟨hp, hlo, hhi⟩ := irq_entry_stacked ext bus hirq s hs
  rw [show j.sp + 2 = j.sp + 1 + 1 by rw [add_assoc]; rfl] at h2
  rw [show j.sp + 3 = j.sp + 1 + 1 + 1 by rw [add_assoc, add_assoc]; rfl] at h3
  obtain ⟨hjsp, -⟩ := (run_irq_entry ext bus hirq s hs).2
  obtain ⟨hstatus, hpc, hrsp⟩ := run_rti ext bus hram t ht ho (hsp ▸ h1.trans hp)
    (hsp ▸ h2.trans hlo) (hsp ▸ h3.trans hhi)
  refine ⟨hpc.trans (join_pushed_bytes s.pc), hstatus, ?_⟩
  rw [hrsp, hsp, hjsp]
  bv_omega

/-- An IRQ taken at `pc = 0x1234` with status `0x31` (B set), against RAM, and an `RTI`
right after the entry: `pc` comes back, and the status with B clear. -/
theorem irq_rti_round_trip_ramBus :
    let ext : OutOfLine := { (default : OutOfLine) with IRQ_T4 := fun _ s =>
      { push (clearB s.status) s with
        status := setI (clearB s.status), addressModeCycleFn := .IRQ_T5 } }
    let s : M6502 :=
      { (default : M6502) with pc := 0x1234, status := 0x31, addressModeCycleFn := .IRQ_T1 }
    let t : M6502 :=
      { run ext ramBus 6 s with addressModeCycleFn := .rti_5_5_T1, opcodeCycleFn := .RTI }
    StackRAM ramBus ∧ EntersIRQ ext ∧ s.addressModeCycleFn = .IRQ_T1 ∧
      (run ext ramBus 5 t).pc = 0x1234 ∧ (run ext ramBus 5 t).status = 0x21 := by
  intro ext s t
  obtain ⟨hpc, hst, -⟩ := irq_rti_round_trip ext ramBus ramBus_stackRAM (fun _ _ => rfl) s rfl t
    rfl rfl rfl rfl rfl rfl
  exact ⟨ramBus_stackRAM, fun _ _ => rfl, rfl, hpc, hst.trans (by decide)⟩

end Cpu6502
