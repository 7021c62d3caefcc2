import Esp1541.Cpu6502.Addressing

/-!
# The table m6502.h runs

`chain_refines_reference_iff` says that twenty-two chains follow the table of §4.3 and
seven do not. `Mode.program` is the table all twenty-nine follow: the §4.3 program for
the twenty-two, and for the seven the accesses where the code makes them. `abs,X` and
`abs,Y` writes make the dummy read at the base address, before the index; the
read-modify-writes on `abs,X`, `abs,Y` and `(zp),Y`, and the `(zp),Y` write, make it at
the indexed address, carry included; `JMP (ind)` reads the pointer's high byte at the
pointer plus one, carry included. From its `T1` in any state and against any bus, every
chain runs its body once, in the state this table hands over (`chains_run_program`).

The zero-page chains wrap their sums in page zero: every access after the operand byte,
and the effective address they hand on, are below `0x100`
(`zero_page_chains_stay_in_page_zero`).

How far the seven are from §4.3: against a bus whose reads have no side effect, every
chain but `JMP (ind)` with its pointer at the end of a page, run cycle by cycle from its
`T1`, runs its body in the state §4.3 gives, with a history that differs from the table's
only in where one read is made (`chains_hand_over_reference_state`).
-/

namespace Cpu6502

/-! ## The table m6502.h runs -/

/-- The accesses each chain of m6502.h makes, and what it hands its body, as a program on
the bus: the §4.3 table for the twenty-two chains that follow it, and for the other seven
the accesses where the code makes them. -/
def Mode.program (bus : DataBusReadFn) (s : M6502) : Mode → BusProgram Operand
  | .absx_3_4 => baseIndexedWrite s.x
  | .absy_3_4 => baseIndexedWrite s.y
  | .absx_4_4 => carriedIndexedModify s.x
  | .absy_4_4 => carriedIndexedModify s.y
  | .idy_3_6 => do
    let e ← carriedIndirectIndexed
    pure { s.operand (s.pc + 1) with ea := some e }
  | .idy_Undoc => do
    let e ← carriedIndirectIndexed
    let v ← busRead bus e
    busWrite e v
    pure { s.operand (s.pc + 1) with ea := some e, value := some v }
  | .abs5_6_2 => do
    let lo ← busRead bus s.pc
    let hi ← busRead bus (s.pc + 1)
    let targetLo ← busRead bus (hi ++ lo)
    let targetHi ← busRead bus (hi ++ lo + 1)
    pure { s.operand (s.pc + 2) with ea := some (targetHi ++ targetLo) }
  | m => m.reference bus s
where
  /-- `abs,X` and `abs,Y` writes: the dummy read at the base address, before the index. -/
  baseIndexedWrite (i : BitVec 8) : BusProgram Operand := do
    let lo ← busRead bus s.pc
    let hi ← busRead bus (s.pc + 1)
    let _ ← busRead bus (hi ++ lo)
    pure { s.operand (s.pc + 2) with ea := some (hi ++ lo + i.setWidth 16) }
  /-- `abs,X` and `abs,Y` read-modify-writes: the dummy read at the indexed address, carry
  included, then the operand there and its dummy write. -/
  carriedIndexedModify (i : BitVec 8) : BusProgram Operand := do
    let lo ← busRead bus s.pc
    let hi ← busRead bus (s.pc + 1)
    let e := hi ++ lo + i.setWidth 16
    let _ ← busRead bus e
    let v ← busRead bus e
    busWrite e v
    pure { s.operand (s.pc + 2) with ea := some e, value := some v }
  /-- `(zp),Y`: the base in page zero, then the dummy read at the indexed address, carry
  included. -/
  carriedIndirectIndexed : BusProgram (BitVec 16) := do
    let ptr ← busRead bus s.pc
    let lo ← busRead bus (ptr.setWidth 16)
    let hi ← busRead bus ((ptr + 1).setWidth 16)
    let e := hi ++ lo + s.y.setWidth 16
    let _ ← busRead bus e
    pure e

/-- The state the chain `m` hands its body by `Mode.program`, as `Mode.handOver` does by
the table of §4.3. -/
def Mode.programHandOver (m : Mode) (bus : DataBusReadFn) (s : M6502) : M6502 :=
  let r := (m.program bus s).run s.trace
  { s with trace := r.2, pc := r.1.pc, sp := r.1.sp, status := r.1.status,
           ea := r.1.ea.getD s.ea, value := (r.1.value.map (·.setWidth 16)).getD s.value,
           addressModeCycleFn := m.last }

theorem Mode.program_of_followsReference {m : Mode} (hm : m.followsReference)
    (bus : DataBusReadFn) (s : M6502) : m.program bus s = m.reference bus s := by
  cases m <;> first | exact absurd hm (by decide) | rfl

theorem Mode.programHandOver_of_followsReference {m : Mode} (hm : m.followsReference)
    (bus : DataBusReadFn) (s : M6502) : m.programHandOver bus s = m.handOver bus s := by
  simp only [Mode.programHandOver, Mode.handOver, Mode.program_of_followsReference hm]

section Chains

variable (ext : OutOfLine) (bus : DataBusReadFn)

theorem run_cycles_eq_program (m : Mode) (s : M6502) (hs : s.addressModeCycleFn = m.T1) :
    ∃ i, run ext bus m.cycles s = executeOpcode ext bus { m.programHandOver bus s with ia := i } := by
  cases hm : m.followsReference
  case true =>
    rw [Mode.programHandOver_of_followsReference hm]
    exact chains_refine_reference ext bus m hm s hs
  obtain ⟨ea, ia, value, pc, opcode, a, x, y, status, sp, c1, c2, c3, c4, t, op, trace⟩ := s
  subst hs
  rw [run_cycles_eq_callStages ext bus m _ rfl]
  cases m <;> first | exact absurd hm (by decide) | skip
  all_goals
    dsimp only [Mode.stages, callStages, List.foldl, stageCycle,
      absx_3_4_T1, absx_3_4_T2, absx_3_4_T3, absx_3_4_T4, absy_3_4_T1, absy_3_4_T2, absy_3_4_T3,
      absy_3_4_T4, absx_4_4_T1, absx_4_4_T2, absx_4_4_T3, absx_4_4_T4, absx_4_4_T5, absx_4_4_T6,
      absy_4_4_T1, absy_4_4_T2, absy_4_4_T3, absy_4_4_T4, absy_4_4_T5, absy_4_4_T6,
      idy_3_6_T1, idy_3_6_T2, idy_3_6_T3, idy_3_6_T4, idy_3_6_T5, idy_Undoc_T1, idy_Undoc_T2,
      idy_Undoc_T3, idy_Undoc_T4, idy_Undoc_T5, idy_Undoc_T6, idy_Undoc_T7,
      abs5_6_2_T1, abs5_6_2_T2, abs5_6_2_T3, abs5_6_2_T4,
      fetchEa, fetchEaHigh, fetchIa, readValue, writeBack, pointerLow, pointerHigh,
      dummyReadThenIndex, indexThenDummyRead, M6502.log, Mode.programHandOver, Mode.last,
      Mode.program, Mode.program.baseIndexedWrite, Mode.program.carriedIndexedModify,
      Mode.program.carriedIndirectIndexed, M6502.operand, busRead, busWrite, bind, StateT.bind,
      pure, StateT.pure, StateT.run, Option.getD, Option.map]
    try simp only [join_eq_append, zero_page_succ, setWidth_setWidth_byte, pc_add_one_add_one]
    exact ⟨_, rfl⟩

/-- Every chain, from its `T1` in any state and against any bus, runs its body once, in
the state `Mode.program` hands over; only `ia` is left to the code. -/
theorem chains_run_program (m : Mode) (s : M6502) (hs : s.addressModeCycleFn = m.T1) :
    ∃ i, run ext bus m.cycles s = executeOpcode ext bus { m.programHandOver bus s with ia := i } :=
  run_cycles_eq_program ext bus m s hs

/-- `JMP (ind)`, one of the seven chains §4.3 does not describe, from its `T1`. -/
theorem chains_run_program_jmp_ind :
    let s : M6502 := { (default : M6502) with addressModeCycleFn := .abs5_6_2_T1 }
    s.addressModeCycleFn = Mode.abs5_6_2.T1 ∧
      ∃ i, run default ramBus Mode.abs5_6_2.cycles s =
        executeOpcode default ramBus { Mode.abs5_6_2.programHandOver ramBus s with ia := i } :=
  ⟨rfl, chains_run_program default ramBus .abs5_6_2 _ rfl⟩

/-! ## Zero page -/

/-- The chains whose operand is a zero-page address: `zp`, `zp,X` and `zp,Y`. -/
def Mode.zeroPage : Mode → Bool
  | .zp_2_1 | .zp_3_1 | .zp_4_1 | .zpx_2_6 | .zpx_3_5 | .zpx_4_3 | .zpy_2_6 | .zpy_3_5 => true
  | _ => false

/-- The zero-page chains, `zp`, `zp,X` and `zp,Y`, from their `T1` in any state and against
any bus: the operand byte is read at `pc`, and every access after it and the effective
address handed to the body are in page zero. -/
theorem zero_page_chains_stay_in_page_zero {m : Mode} (hm : m.zeroPage) (s : M6502)
    (hs : s.addressModeCycleFn = m.T1) :
    ∃ r, run ext bus m.cycles s = executeOpcode ext bus r ∧ r.ea.toNat < 0x100 ∧
      ∃ L, r.trace = s.trace ++ .read s.pc :: L ∧ ∀ acc ∈ L, acc.address.toNat < 0x100 := by
  have hf : m.followsReference := by cases m <;> first | exact absurd hm (by decide) | rfl
  obtain ⟨i, h⟩ := chains_refine_reference ext bus m hf s hs
  refine ⟨_, h, ?_⟩
  cases m <;> first | exact absurd hm (by decide) | skip
  all_goals
    dsimp only [Mode.handOver, Mode.reference, Mode.reference.zeroPageIndexedRead, M6502.operand,
      busRead, busWrite, bind, StateT.bind, pure, StateT.pure, StateT.run, Option.getD, Option.map]
    refine ⟨setWidth_toNat_lt _, _, by (try simp only [List.append_assoc, List.singleton_append]); rfl, ?_⟩
    intro acc hacc
    simp only [List.append_eq, List.cons_append, List.nil_append, List.mem_cons,
      List.mem_singleton, List.not_mem_nil, or_false] at hacc <;>
      rcases hacc with rfl | rfl | rfl <;> exact setWidth_toNat_lt _

/-- `LDA zp` from its `T1`. -/
theorem zero_page_chains_stay_in_page_zero_lda :
    let s : M6502 := { (default : M6502) with addressModeCycleFn := .zp_2_1_T1 }
    Mode.zp_2_1.zeroPage ∧ s.addressModeCycleFn = Mode.zp_2_1.T1 ∧
      ∃ r, run default ramBus Mode.zp_2_1.cycles s = executeOpcode default ramBus r ∧
        r.ea.toNat < 0x100 ∧ ∃ L, r.trace = s.trace ++ .read s.pc :: L ∧
          ∀ acc ∈ L, acc.address.toNat < 0x100 :=
  ⟨rfl, rfl, zero_page_chains_stay_in_page_zero default ramBus (m := .zp_2_1) rfl _ rfl⟩

end Chains

/-! ## Against the table of §4.3 -/

/-- A bus whose answers do not depend on the addresses earlier reads were made at: a read
has no side effect, as with RAM and ROM. -/
def ReadsInert (bus : DataBusReadFn) : Prop :=
  ∀ (p q : List Access) (a b x : BitVec 16), bus (p ++ .read a :: q) x = bus (p ++ .read b :: q) x

/-- Two bus histories that are the same but for the address of one read. -/
def OneReadApart (t u : List Access) : Prop :=
  t = u ∨ ∃ p q a b, t = p ++ .read a :: q ∧ u = p ++ .read b :: q

theorem OneReadApart.read (p : List Access) (a b : BitVec 16) :
    OneReadApart (p ++ [.read a]) (p ++ [.read b]) :=
  .inr ⟨p, [], a, b, rfl, rfl⟩

theorem OneReadApart.append {t u : List Access} (h : OneReadApart t u) (r : List Access) :
    OneReadApart (t ++ r) (u ++ r) := by
  rcases h with rfl | ⟨p, q, a, b, rfl, rfl⟩
  · exact .inl rfl
  · exact .inr ⟨p, q ++ r, a, b, by simp, by simp⟩

/-- Two bus programs that, from the history `past`, return the same and leave histories
one read apart. -/
def ReadApart {α : Type} (x y : BusProgram α) (past : List Access) : Prop :=
  (x.run past).1 = (y.run past).1 ∧ OneReadApart (x.run past).2 (y.run past).2

theorem ramBus_readsInert : ReadsInert ramBus := by
  intro p q a b x
  simp only [ramBus, lastWrite, List.foldl_append, List.foldl_cons]

/-- Past a low byte other than `0xFF`, adding one to an address does not carry into its
high byte. -/
theorem append_add_one {lo : BitVec 8} (hlo : lo ≠ 0xFF) (hi : BitVec 8) :
    (hi ++ lo : BitVec 16) + 1 = hi ++ (lo + 1) := by
  apply BitVec.eq_of_toNat_eq
  have h1 := lo.isLt
  have h2 := hi.isLt
  have h3 : lo.toNat ≠ 255 := fun h => hlo (BitVec.eq_of_toNat_eq h)
  simp only [BitVec.toNat_add, BitVec.toNat_append, show (1 : BitVec 16).toNat = 1 from rfl,
    show (1 : BitVec 8).toNat = 1 from rfl, Nat.shiftLeft_eq,
    Nat.mul_comm _ (2 ^ 8), ← Nat.mul_add_lt_is_or h1, ← Nat.mul_add_lt_is_or (Nat.mod_lt _ (by decide : 0 < 2 ^ 8))]
  omega

section Apart

variable (bus : DataBusReadFn) (s : M6502) (past : List Access)

theorem baseIndexedWrite_readApart (i : BitVec 8) :
    ReadApart (Mode.program.baseIndexedWrite bus s i)
      (Mode.reference.absoluteIndexedWrite bus s i) past :=
  ⟨rfl, OneReadApart.read _ _ _⟩

theorem carriedIndexedModify_readApart (hbus : ReadsInert bus) (i : BitVec 8) :
    ReadApart (Mode.program.carriedIndexedModify bus s i)
      (Mode.reference.absoluteIndexedModify bus s i) past := by
  dsimp only [ReadApart, Mode.program.carriedIndexedModify, Mode.reference.absoluteIndexedModify,
    busRead, busWrite, bind, StateT.bind, pure, StateT.pure, StateT.run]
  generalize bus past s.pc = lo
  generalize bus (past ++ [.read s.pc]) (s.pc + 1) = hi
  rw [hbus _ [] (hi ++ (lo + i)) (hi ++ lo + i.setWidth 16)]
  exact ⟨rfl, ((OneReadApart.read _ _ _).append _).append _⟩

/-- Against a bus whose reads have no side effect, every chain of the code hands its body
what the table of §4.3 hands it, and its history is the table's but for the address of one
read, unless it is `JMP (ind)` with its pointer's low byte at `0xFF`. -/
theorem program_agrees_with_reference (hbus : ReadsInert bus) (m : Mode)
    (hjmp : m = .abs5_6_2 → bus past s.pc ≠ 0xFF) :
    ReadApart (m.program bus s) (m.reference bus s) past := by
  cases hm : m.followsReference
  case true => rw [Mode.program_of_followsReference hm]; exact ⟨rfl, .inl rfl⟩
  cases m <;> first | exact absurd hm (by decide) | skip
  case absx_3_4 => exact baseIndexedWrite_readApart bus s past s.x
  case absy_3_4 => exact baseIndexedWrite_readApart bus s past s.y
  case absx_4_4 => exact carriedIndexedModify_readApart bus s past hbus s.x
  case absy_4_4 => exact carriedIndexedModify_readApart bus s past hbus s.y
  all_goals
    dsimp only [ReadApart, Mode.program, Mode.reference, Mode.program.carriedIndirectIndexed,
      Mode.reference.indirectIndexed, busRead, busWrite, bind, StateT.bind, pure, StateT.pure,
      StateT.run]
  case abs5_6_2 =>
    rw [append_add_one (hjmp rfl)]
    exact ⟨rfl, .inl rfl⟩
  case idy_3_6 => exact ⟨rfl, OneReadApart.read _ _ _⟩
  case idy_Undoc =>
    generalize bus past s.pc = ptr
    generalize bus (past ++ [.read s.pc]) (ptr.setWidth 16) = lo
    generalize bus (past ++ [.read s.pc] ++ [.read (ptr.setWidth 16)]) ((ptr + 1).setWidth 16) = hi
    rw [hbus _ [] (hi ++ (lo + s.y)) (hi ++ lo + s.y.setWidth 16)]
    exact ⟨rfl, ((OneReadApart.read _ _ _).append _).append _⟩

end Apart

/-- Against a bus whose reads have no side effect, every chain of the code but `JMP (ind)`
with its pointer's low byte at `0xFF`, run from its `T1`, runs its body once in the state
§4.3 gives, but for `ia` and a bus history that differs from §4.3's at most in the address
of one read. -/
theorem chains_hand_over_reference_state (ext : OutOfLine) (bus : DataBusReadFn)
    (hbus : ReadsInert bus) (m : Mode) (s : M6502) (hs : s.addressModeCycleFn = m.T1)
    (hjmp : m = .abs5_6_2 → bus s.trace s.pc ≠ 0xFF) :
    ∃ i t, run ext bus m.cycles s =
        executeOpcode ext bus { m.handOver bus s with ia := i, trace := t } ∧
      OneReadApart t (m.handOver bus s).trace := by
  obtain ⟨i, hrun⟩ := run_cycles_eq_program ext bus m s hs
  obtain ⟨hout, htrace⟩ := program_agrees_with_reference bus s s.trace hbus m hjmp
  refine ⟨i, _, hrun.trans ?_, htrace⟩
  simp only [Mode.programHandOver, Mode.handOver, hout]

/-- `INC $12FF,X` with `x = 1`, its operand bytes in RAM: the code's dummy read is at
`$1300`, the table's at `$1200`, and the body runs in the state §4.3 gives. -/
theorem chains_hand_over_reference_state_inc :
    let s : M6502 := { (default : M6502) with
      pc := 0x200, x := 1, addressModeCycleFn := .absx_4_4_T1,
      trace := [.write 0x200 0xFF, .write 0x201 0x12] }
    ReadsInert ramBus ∧ s.addressModeCycleFn = Mode.absx_4_4.T1 ∧
      (Mode.absx_4_4 = .abs5_6_2 → ramBus s.trace s.pc ≠ 0xFF) ∧
      ∃ i t, run default ramBus Mode.absx_4_4.cycles s =
          executeOpcode default ramBus { Mode.absx_4_4.handOver ramBus s with ia := i, trace := t } ∧
        OneReadApart t (Mode.absx_4_4.handOver ramBus s).trace :=
  ⟨ramBus_readsInert, rfl, nofun,
    chains_hand_over_reference_state default ramBus ramBus_readsInert .absx_4_4 _ rfl nofun⟩

end Cpu6502
