import Esp1541.Cpu6502.BodySpec

/-!
# The stack: round trips through page 1

`Push` writes at `0x100 + sp` and then decrements `sp`; `Pull` increments `sp` and then
reads at `0x100 + sp`. Against a bus whose page 1 is RAM (`StackRAM`) the byte a pull
returns is the last one pushed to its slot, so the push and pull instructions undo each
other for every `sp`, across the wrap at `0x00`/`0xFF`: `PHA; PLA` gives back `a` and `sp`,
with N and Z set from `a` as §4.4 gives them (`nzFrom`, `run_pha_pla`), `PHP; PLP` gives
back `sp` and the status with B and U set (`run_php_plp`), and `RTS`, from any state with the two bytes `JSR` pushed on top of its
stack, resumes after the `JSR`'s third byte (`run_jsr`, `run_rts`). `stack_round_trips`
collects the three.
-/

namespace Cpu6502

/-- The bus reads page 1 as RAM: a read of `0x100 + n` returns the last byte written
there. -/
def StackRAM (bus : DataBusReadFn) : Prop :=
  ∀ past n v, lastWrite past (stackAddress n) = some v → bus past (stackAddress n) = v

theorem ramBus_stackRAM : StackRAM ramBus := fun _ _ _ h => by simp only [ramBus, h]; rfl

/-- The two bytes `JSR` pushes for `pc` make `pc` again. -/
theorem join_pushed_bytes (v : BitVec 16) :
    ((v &&& 0xff).setWidth 8).setWidth 16 ||| (((v >>> 8).setWidth 8).setWidth 16 <<< 8) = v := by
  ext i
  rcases i with ⟨i, hi⟩
  by_cases h : i < 8
  · have h255 : Nat.testBit 255 i = true := by
      rw [show 255 = 2 ^ 8 - 1 from rfl, Nat.testBit_two_pow_sub_one]; simp [h]
    simp [h, hi, h255, BitVec.getLsbD_ofNat]
  · simp [h, hi, show i - 8 < 8 by omega, show i - 8 < 16 by omega, show 8 + (i - 8) = i by omega]

/-- `PHP` pushes B and U set and `PLP` sets U again. -/
theorem php_plp_status (x : BitVec 8) :
    x ||| flagConstant ||| flagBreak ||| flagConstant = x ||| 0x30 := by
  rw [BitVec.or_assoc, BitVec.or_assoc]; rfl

section RoundTrips

variable (ext : OutOfLine) (bus : DataBusReadFn)

/-- `PHA` then `PLA`: the byte pushed is pulled back into `a`, and `sp` is restored. -/
theorem run_pha_pla (hram : StackRAM bus) (s : M6502) (hs : s.addressModeCycleFn = .ph_5_1_T1)
    (ho : s.opcodeCycleFn = .PHA) :
    let r := run ext bus 3
      { run ext bus 2 s with addressModeCycleFn := .pl_5_2_T1, opcodeCycleFn := .PLA }
    r.a = s.a ∧ r.sp = s.sp ∧ r.status = establishNZ (s.a.setWidth 16) s.status := by
  obtain ⟨i, hi⟩ := chains_refine_reference ext bus .ph_5_1 rfl s hs
  obtain ⟨j, hj⟩ := chains_refine_reference ext bus .pl_5_2 rfl
    { run ext bus 2 s with addressModeCycleFn := .pl_5_2_T1, opcodeCycleFn := .PLA } rfl
  dsimp only [Mode.cycles] at hi hj ⊢
  rw [hj, hi]
  obtain ⟨ea, ia, value, pc, opcode, a, x, y, status, sp, c1, c2, c3, c4, t, op, trace⟩ := s
  subst ho
  dsimp only [Mode.handOver, Mode.reference, busRead, bind, StateT.bind, pure, StateT.pure,
    StateT.run, M6502.operand, Option.getD, Option.map, executeOpcode, opcodeCycle, PHA, PLA,
    push, pull, pulled, M6502.log]
  rw [sub_add_cancel, hram _ _ a]
  · exact ⟨rfl, rfl, rfl⟩
  · simp only [lastWrite_append_read, lastWrite_append_write, if_true]

/-- `PHP` then `PLP`: `sp` is restored and the status comes back with B and U set. -/
theorem run_php_plp (hram : StackRAM bus) (s : M6502) (hs : s.addressModeCycleFn = .ph_5_1_T1)
    (ho : s.opcodeCycleFn = .PHP) :
    let r := run ext bus 3
      { run ext bus 2 s with addressModeCycleFn := .pl_5_2_T1, opcodeCycleFn := .PLP }
    r.sp = s.sp ∧ r.status = s.status ||| 0x30 := by
  obtain ⟨i, hi⟩ := chains_refine_reference ext bus .ph_5_1 rfl s hs
  obtain ⟨j, hj⟩ := chains_refine_reference ext bus .pl_5_2 rfl
    { run ext bus 2 s with addressModeCycleFn := .pl_5_2_T1, opcodeCycleFn := .PLP } rfl
  dsimp only [Mode.cycles] at hi hj ⊢
  rw [hj, hi]
  obtain ⟨ea, ia, value, pc, opcode, a, x, y, status, sp, c1, c2, c3, c4, t, op, trace⟩ := s
  subst ho
  dsimp only [Mode.handOver, Mode.reference, busRead, bind, StateT.bind, pure, StateT.pure,
    StateT.run, M6502.operand, Option.getD, Option.map, executeOpcode, opcodeCycle, PHP, PLP,
    push, pull, pulled, M6502.log]
  rw [sub_add_cancel, hram _ _ (status ||| flagConstant ||| flagBreak), php_plp_status]
  · exact ⟨rfl, rfl⟩
  · simp only [lastWrite_append_read, lastWrite_append_write, if_true]

/-- `JSR` pushes the address of its third byte, high byte first, and leaves `sp` two
lower. -/
theorem run_jsr (s : M6502) (hs : s.addressModeCycleFn = .jsr_5_3_T1)
    (ho : s.opcodeCycleFn = .JSR) :
    let j := run ext bus 5 s
    j.sp = s.sp - 1 - 1 ∧
      lastWrite j.trace (stackAddress s.sp) = some (((s.pc + 1) >>> 8).setWidth 8) ∧
      lastWrite j.trace (stackAddress (s.sp - 1)) = some (((s.pc + 1) &&& 0xff).setWidth 8) := by
  obtain ⟨i, hi⟩ := chains_refine_reference ext bus .jsr_5_3 rfl s hs
  dsimp only [Mode.cycles] at hi ⊢
  rw [hi]
  obtain ⟨ea, ia, value, pc, opcode, a, x, y, status, sp, c1, c2, c3, c4, t, op, trace⟩ := s
  subst ho
  dsimp only [Mode.handOver, Mode.reference, busRead, busWrite, bind, StateT.bind, pure,
    StateT.pure, StateT.run, M6502.operand, Option.getD, Option.map, executeOpcode, opcodeCycle, id]
  simp only [lastWrite_append_read, lastWrite_append_write, ← stackAddress_eq_stackSlot,
    stackAddress_inj, pch_eq_extractLsb, pcl_eq_setWidth, sp_sub_one_sub_one, if_true]
  simp

/-- `RTS` pulls the low and then the high byte of the return address and resumes one
past it. -/
theorem run_rts (hram : StackRAM bus) (t : M6502) (ht : t.addressModeCycleFn = .rts_5_7_T1)
    (ho : t.opcodeCycleFn = .RTS) {lo hi : BitVec 8}
    (hlo : lastWrite t.trace (stackAddress (t.sp + 1)) = some lo)
    (hhi : lastWrite t.trace (stackAddress (t.sp + 1 + 1)) = some hi) :
    let r := run ext bus 5 t
    r.pc = (lo.setWidth 16 ||| hi.setWidth 16 <<< 8) + 1 ∧ r.sp = t.sp + 1 + 1 := by
  obtain ⟨i, hi'⟩ := chains_refine_reference ext bus .rts_5_7 rfl t ht
  dsimp only [Mode.cycles] at hi' ⊢
  rw [hi']
  obtain ⟨ea, ia, value, pc, opcode, a, x, y, status, sp, c1, c2, c3, c4, t, op, trace⟩ := t
  subst ho
  dsimp only [Mode.handOver, Mode.reference, busRead, bind, StateT.bind, pure, StateT.pure,
    StateT.run, M6502.operand, Option.getD, Option.map, executeOpcode, opcodeCycle, id]
  simp only [← stackAddress_eq_stackSlot, ← join_eq_append, ← sp_add_one_add_one]
  rw [hram _ _ lo, hram _ _ hi]
  · exact ⟨rfl, trivial⟩
  · simpa only [lastWrite_append_read] using hhi
  · simpa only [lastWrite_append_read] using hlo

/-- The stack round trips against a bus whose page 1 is RAM, for every `sp`: `PHA; PLA`
and `PHP; PLP` through their chains, and `JSR` at `p` then, from any state whose `sp` and
two stacked bytes are those `JSR` left, `RTS`. -/
theorem stack_round_trips (hram : StackRAM bus) :
    (∀ s : M6502, s.addressModeCycleFn = .ph_5_1_T1 → s.opcodeCycleFn = .PHA →
      let r := run ext bus 3
        { run ext bus 2 s with addressModeCycleFn := .pl_5_2_T1, opcodeCycleFn := .PLA }
      r.a = s.a ∧ r.sp = s.sp ∧ r.status = nzFrom s.a s.status) ∧
    (∀ s : M6502, s.addressModeCycleFn = .ph_5_1_T1 → s.opcodeCycleFn = .PHP →
      let r := run ext bus 3
        { run ext bus 2 s with addressModeCycleFn := .pl_5_2_T1, opcodeCycleFn := .PLP }
      r.sp = s.sp ∧ r.status = s.status ||| 0x30) ∧
    (∀ (s : M6502) (p : BitVec 16), s.addressModeCycleFn = .jsr_5_3_T1 →
      s.opcodeCycleFn = .JSR → s.pc = p + 1 →
      let j := run ext bus 5 s
      ∀ t : M6502, t.addressModeCycleFn = .rts_5_7_T1 → t.opcodeCycleFn = .RTS →
        t.sp = j.sp →
        lastWrite t.trace (stackAddress (j.sp + 1)) = lastWrite j.trace (stackAddress (j.sp + 1)) →
        lastWrite t.trace (stackAddress (j.sp + 2)) = lastWrite j.trace (stackAddress (j.sp + 2)) →
        (run ext bus 5 t).pc = p + 3 ∧ (run ext bus 5 t).sp = s.sp) := by
  refine ⟨fun s hs ho => ?_, run_php_plp ext bus hram, ?_⟩
  · obtain ⟨ha, hsp, hst⟩ := run_pha_pla ext bus hram s hs ho
    refine ⟨ha, hsp, hst.trans ?_⟩
    rw [establishNZ_eq, BitVec.setWidth_setWidth_of_le _ (by omega), BitVec.setWidth_eq]
  intro s p hs ho hp
  dsimp only
  intro t ht hto hsp hlo hhi
  obtain ⟨hjsp, hjhi, hjlo⟩ := run_jsr ext bus s hs ho
  have h1 : t.sp + 1 = s.sp - 1 := by rw [hsp, hjsp, sub_add_cancel]
  have h2 : t.sp + 1 + 1 = s.sp := by rw [h1, sub_add_cancel]
  rw [← hsp, h1, hjlo] at hlo
  rw [← hsp, show t.sp + 2 = t.sp + 1 + 1 by rw [add_assoc]; rfl, h2, hjhi] at hhi
  obtain ⟨hpc, hrsp⟩ := run_rts ext bus hram t ht hto (h1 ▸ hlo) (h2 ▸ hhi)
  refine ⟨?_, hrsp.trans h2⟩
  rw [hpc, join_pushed_bytes, hp, add_assoc, add_assoc]
  rfl

/-- `PHA; PLA` with `a = 0x42` against a RAM bus gives back `0x42`. -/
theorem stack_round_trips_ramBus :
    let s : M6502 :=
      { (default : M6502) with a := 0x42, addressModeCycleFn := .ph_5_1_T1, opcodeCycleFn := .PHA }
    StackRAM ramBus ∧ (run default ramBus 3
      { run default ramBus 2 s with addressModeCycleFn := .pl_5_2_T1, opcodeCycleFn := .PLA }).a = 0x42 :=
  ⟨ramBus_stackRAM, ((stack_round_trips default ramBus ramBus_stackRAM).1 _ rfl rfl).1⟩

end RoundTrips

end Cpu6502
