import Mathlib.Data.List.Forall2
import Esp1541.Cpu6502.Atomic

/-!
# Whole programs against the specification, on a bus without read side effects

`programs_meet_spec` needs a table whose chains all follow §4.3, which leaves out the
indexed stores and read-modify-writes. Those chains differ from §4.3 only in where their
dummy read is made (`chains_hand_over_reference_state`). On a bus whose reads have no side
effect (`ReadsInert`: RAM, ROM), a read's address is invisible, so two states that differ
only in `ia` and in the addresses of the reads in their histories (`AgreeUpToReads`) run
alike: the table of §4.3 sees the history only through the bus (`Mode.reference_respects`),
and every piece of an instruction keeps the agreement.

`programs_meet_spec_on_inert_buses`: for every decode table, a run of instructions of the
specification in which no instruction is `PLP` or a `JMP (ind)` through a pointer at the
end of a page (`Diverges`, the two places the code leaves §4) is run by the code in as many
cycles, to the state the specification gives in every field but `ia`, with a bus history
that differs from it only in where reads were made.
-/

namespace Cpu6502

/-! ## Histories the same but for where reads were made -/

/-- Two accesses that are the same, or both reads. -/
def Access.SameButAddress (x y : Access) : Prop :=
  x = y ∨ ∃ a b, x = .read a ∧ y = .read b

/-- Two bus histories that are the same but for the addresses of reads. -/
def ReadsApart (t u : List Access) : Prop := List.Forall₂ Access.SameButAddress t u

theorem ReadsApart.refl (t : List Access) : ReadsApart t t :=
  List.forall₂_same.mpr fun _ _ => .inl rfl

theorem ReadsApart.append {t u t' u' : List Access} (h : ReadsApart t u) (h' : ReadsApart t' u') :
    ReadsApart (t ++ t') (u ++ u') :=
  List.rel_append h h'

theorem ReadsApart.trans {t u v : List Access} (h : ReadsApart t u) (h' : ReadsApart u v) :
    ReadsApart t v := by
  induction h generalizing v with
  | nil => cases h'; exact .nil
  | @cons x y t u hxy _ ih =>
    cases h' with
    | cons hyz h' =>
      refine .cons ?_ (ih h')
      rcases hxy with rfl | ⟨a, b, rfl, rfl⟩
      · exact hyz
      · rcases hyz with rfl | ⟨_, c, h, rfl⟩
        · exact .inr ⟨a, b, rfl, rfl⟩
        · exact .inr ⟨a, c, rfl, rfl⟩

theorem OneReadApart.readsApart {t u : List Access} (h : OneReadApart t u) : ReadsApart t u := by
  rcases h with rfl | ⟨p, q, a, b, rfl, rfl⟩
  · exact .refl t
  · exact (ReadsApart.refl p).append (.cons (.inr ⟨a, b, rfl, rfl⟩) (ReadsApart.refl q))

/-- A bus whose reads have no side effect answers alike after histories that differ only in
where reads were made. -/
theorem bus_congr {bus : DataBusReadFn} (hbus : ReadsInert bus) {t u : List Access}
    (h : ReadsApart t u) (x : BitVec 16) : bus t x = bus u x := by
  suffices ∀ p, bus (p ++ t) x = bus (p ++ u) x by simpa using this []
  induction h with
  | nil => intro p; rfl
  | @cons a b t u hab _ ih =>
    intro p
    have hhead : bus (p ++ a :: t) x = bus (p ++ b :: t) x := by
      rcases hab with rfl | ⟨a, b, rfl, rfl⟩
      · rfl
      · exact hbus p t a b x
    have htail := ih (p ++ [b])
    simp only [List.append_assoc, List.singleton_append] at htail
    exact hhead.trans htail

/-! ## Bus programs that see the history only through the bus -/

/-- A bus program that sees the history only through the bus, and only appends to it. -/
def Respects {α : Type} (x : BusProgram α) : Prop :=
  ∀ t u, ReadsApart t u →
    (x.run t).1 = (x.run u).1 ∧ ∃ L, (x.run t).2 = t ++ L ∧ (x.run u).2 = u ++ L

theorem Respects.pure {α : Type} (a : α) : Respects (Pure.pure a : BusProgram α) :=
  fun t u _ => ⟨rfl, [], (List.append_nil t).symm, (List.append_nil u).symm⟩

theorem Respects.busRead {bus : DataBusReadFn} (hbus : ReadsInert bus) (a : BitVec 16) :
    Respects (busRead bus a) :=
  fun _ _ h => ⟨bus_congr hbus h a, [.read a], rfl, rfl⟩

theorem Respects.busWrite (a : BitVec 16) (v : BitVec 8) : Respects (busWrite a v) :=
  fun _ _ _ => ⟨rfl, [.write a v], rfl, rfl⟩

theorem Respects.bind {α β : Type} {x : BusProgram α} {f : α → BusProgram β} (hx : Respects x)
    (hf : ∀ a, Respects (f a)) : Respects (x >>= f) := by
  intro t u h
  obtain ⟨hout, L, ht, hu⟩ := hx t u h
  have hL : ReadsApart (x.run t).2 (x.run u).2 := by rw [ht, hu]; exact h.append (.refl L)
  obtain ⟨hout', L', ht', hu'⟩ := hf (x.run t).1 _ _ hL
  refine ⟨?_, L ++ L', ?_, ?_⟩
  · show ((f (x.run t).1).run (x.run t).2).1 = ((f (x.run u).1).run (x.run u).2).1
    rw [← hout]; exact hout'
  · show ((f (x.run t).1).run (x.run t).2).2 = _
    rw [ht', ht, List.append_assoc]
  · show ((f (x.run u).1).run (x.run u).2).2 = _
    rw [← hout, hu', hu, List.append_assoc]

/-- Every chain of the table of §4.3 sees the history only through the bus. -/
theorem Mode.reference_respects {bus : DataBusReadFn} (hbus : ReadsInert bus) (m : Mode)
    (s : M6502) : Respects (m.reference bus s) := by
  cases m <;> dsimp only [Mode.reference, Mode.reference.zeroPageIndexedRead,
    Mode.reference.indexedIndirect, Mode.reference.indirectIndexed,
    Mode.reference.absoluteIndexedWrite, Mode.reference.absoluteIndexedModify] <;>
  repeat' with_reducible first
    | exact Respects.pure _
    | exact Respects.busRead hbus _
    | exact Respects.busWrite _ _
    | refine Respects.bind ?_ fun _ => ?_

/-! ## States the same but for `ia` and where reads were made -/

/-- Two states that are the same but for `ia` and the addresses of the reads in their bus
histories. -/
structure AgreeUpToReads (s t : M6502) : Prop where
  blank : { s with ia := 0, trace := [] } = { t with ia := 0, trace := [] }
  trace : ReadsApart s.trace t.trace

namespace AgreeUpToReads

variable {s t u : M6502}

theorem refl (s : M6502) : AgreeUpToReads s s := ⟨rfl, .refl _⟩

theorem trans (h : AgreeUpToReads s t) (h' : AgreeUpToReads t u) : AgreeUpToReads s u :=
  ⟨h.blank.trans h'.blank, h.trace.trans h'.trace⟩

/-- `s` is `t` with the `ia` and the history of `s`. -/
theorem eq (h : AgreeUpToReads s t) : s = { t with ia := s.ia, trace := s.trace } := by
  obtain ⟨blank, -⟩ := h
  cases s
  cases t
  cases blank
  rfl

theorem pc (h : AgreeUpToReads s t) : s.pc = t.pc := by
  have := congrArg M6502.pc h.blank
  exact this

theorem sp (h : AgreeUpToReads s t) : s.sp = t.sp := by
  have := congrArg M6502.sp h.blank
  exact this

theorem value (h : AgreeUpToReads s t) : s.value = t.value := by
  have := congrArg M6502.value h.blank
  exact this

theorem regs (h : AgreeUpToReads s t) : s.regs = t.regs := by
  have := congrArg M6502.regs h.blank
  exact this

theorem addressModeCycleFn (h : AgreeUpToReads s t) :
    s.addressModeCycleFn = t.addressModeCycleFn := by
  have := congrArg M6502.addressModeCycleFn h.blank
  exact this

theorem opcodeCycleFn (h : AgreeUpToReads s t) : s.opcodeCycleFn = t.opcodeCycleFn := by
  have := congrArg M6502.opcodeCycleFn h.blank
  exact this

theorem with_cursor (h : AgreeUpToReads s t) (c : Stage) :
    AgreeUpToReads { s with addressModeCycleFn := c } { t with addressModeCycleFn := c } :=
  ⟨congrArg (fun x : M6502 => { x with addressModeCycleFn := c }) h.blank, h.trace⟩

end AgreeUpToReads

section Agree

variable {bus : DataBusReadFn} (hbus : ReadsInert bus) {s t : M6502}
include hbus

theorem AgreeUpToReads.fetchInstruction (table : DecodeTable) (h : AgreeUpToReads s t) :
    AgreeUpToReads (fetchInstruction table bus s) (fetchInstruction table bus t) := by
  have hop : bus s.trace s.pc = bus t.trace t.pc := by rw [bus_congr hbus h.trace, h.pc]
  refine ⟨?_, h.trace.append (.cons (.inr ⟨_, _, rfl, rfl⟩) .nil)⟩
  dsimp only [Cpu6502.fetchInstruction, M6502.log]
  rw [hop]
  exact congrArg (fun x : M6502 =>
    { x with
      pc := x.pc + 1, opcode := bus t.trace t.pc, addressModeCycleFn := (table (bus t.trace t.pc)).1,
      opcodeCycleFn := (table (bus t.trace t.pc)).2, CLIMaskingInterrupt := false,
      BranchTakenMaskingInterrupt := false }) h.blank

theorem AgreeUpToReads.handOver (m : Mode) (h : AgreeUpToReads s t) :
    AgreeUpToReads (m.handOver bus s) (m.handOver bus t) := by
  obtain ⟨hout, L, hs, ht⟩ := Mode.reference_respects hbus m t s.trace t.trace h.trace
  have hL := h.trace
  rw [h.eq]
  have href : m.reference bus { t with ia := s.ia, trace := s.trace } = m.reference bus t := by
    cases m <;> rfl
  dsimp only [Mode.handOver]
  rw [href, hout]
  exact ⟨rfl, by rw [hs, ht]; exact hL.append (.refl L)⟩

/-- The state the code's chain hands its body agrees with the one §4.3 gives, unless the
chain is `JMP (ind)` through a pointer at the end of a page. -/
theorem AgreeUpToReads.programHandOver (m : Mode) (s : M6502)
    (hjmp : m = .abs5_6_2 → bus s.trace s.pc ≠ 0xFF) :
    AgreeUpToReads (m.programHandOver bus s) (m.handOver bus s) := by
  obtain ⟨hout, htrace⟩ := program_agrees_with_reference bus s s.trace hbus m hjmp
  refine ⟨?_, htrace.readsApart⟩
  simp only [Mode.programHandOver, Mode.handOver, hout]

/-- Two branches from agreeing states agree, whatever address each reads in its fourth
cycle. -/
theorem AgreeUpToReads.branchWith (late late' : BitVec 16 → BitVec 16 → BitVec 16)
    (flag condition : BitVec 8) (h : AgreeUpToReads s t) :
    (branchWith late flag condition bus s).1 = (branchWith late' flag condition bus t).1 ∧
      AgreeUpToReads (branchWith late flag condition bus s).2
        (branchWith late' flag condition bus t).2 := by
  have hoff : bus s.trace s.pc = bus t.trace t.pc := by rw [bus_congr hbus h.trace, h.pc]
  have hL := h.trace
  rw [h.eq] at hoff ⊢
  dsimp only [Cpu6502.branchWith, branchTarget, M6502.log] at hoff ⊢
  rw [hoff]
  split_ifs <;> exact ⟨rfl, rfl, by first
    | exact hL.append (.refl _)
    | exact (hL.append (.refl _)).append (.refl _)
    | exact ((hL.append (.refl _)).append (.refl _)).append (.cons (.inr ⟨_, _, rfl, rfl⟩) .nil)⟩

end Agree

theorem AgreeUpToReads.apply {s t : M6502} (e : Effect) (h : AgreeUpToReads s t) :
    AgreeUpToReads (e.apply s) (e.apply t) := by
  have hL := h.trace
  rw [h.eq]
  obtain ⟨regs, access, jump, maskIRQ⟩ := e
  cases access <;> dsimp only [Effect.apply, M6502.log] <;> (try split_ifs) <;>
    first | exact ⟨rfl, hL⟩ | exact ⟨rfl, hL.append (.refl _)⟩

/-! ## Whole programs -/

/-- The instruction at `pc` is one where the code leaves §4: `PLP`, or `JMP (ind)` through
a pointer whose low byte is `0xFF`. -/
def Diverges (table : DecodeTable) (bus : DataBusReadFn) (t : M6502) : Prop :=
  let f := fetchInstruction table bus t
  f.opcodeCycleFn = .PLP ∨ f.addressModeCycleFn = .abs5_6_2_T1 ∧ bus f.trace f.pc = 0xFF

instance (table : DecodeTable) (bus : DataBusReadFn) (t : M6502) :
    Decidable (Diverges table bus t) := by
  unfold Diverges
  infer_instance

section Programs

variable (ext : OutOfLine) (table : DecodeTable) {bus : DataBusReadFn} (hbus : ReadsInert bus)
include hbus

/-- An instruction the specification runs from `t` the atomic machine runs from any state
that agrees with `t` up to reads, in as many cycles and to an agreeing state, unless it is
one where the code leaves §4. -/
theorem atomicStep_agrees {s t : M6502} (h : AgreeUpToReads s t)
    (hv : ∃ v : BitVec 8, t.value = v.setWidth 16) (hdiv : ¬Diverges table bus t) {n : Nat}
    {r : M6502} (hr : instructionStep table bus t = some (n, r)) :
    ∃ r', atomicStep ext table bus s = some (n, r') ∧ AgreeUpToReads r' r := by
  have hf := h.fetchInstruction hbus table
  have hcur := hf.addressModeCycleFn
  have hop := hf.opcodeCycleFn
  obtain ⟨hirq, hstep⟩ := decodeStep_eq_some hr
  have hirq' : ¬IrqDue s := by rw [h.eq]; exact hirq
  rcases hstep with ⟨m, hm, rfl, hspec⟩ | ⟨flag, condition, ht, hbr, hb⟩
  · obtain ⟨e, he, rfl⟩ := Option.map_eq_some'.mp hspec
    refine ⟨executeOpcode ext bus (m.programHandOver bus (fetchInstruction table bus s)),
      by rw [atomicStep, decodeStep_of_chain hirq' (by rw [hcur]; exact hm)]; rfl, ?_⟩
    have hjmp : m = .abs5_6_2 → bus (fetchInstruction table bus s).trace
        (fetchInstruction table bus s).pc ≠ 0xFF := by
      rintro rfl hff
      refine hdiv (.inr ⟨(Mode.T1_of_ofT1 hm).symm, ?_⟩)
      rw [← hff, bus_congr hbus hf.trace, hf.pc]
    have h1 : AgreeUpToReads (m.programHandOver bus (fetchInstruction table bus s))
        (m.handOver bus (fetchInstruction table bus t)) :=
      (AgreeUpToReads.programHandOver hbus m _ hjmp).trans (hf.handOver hbus m)
    obtain ⟨v, hv⟩ := hv
    have hval := h1.value.trans
      (handOver_value_byte bus m (fetchInstruction table bus t) (v := v) hv)
    have hpulled : pulled bus (m.programHandOver bus (fetchInstruction table bus s)) =
        pulled bus (m.handOver bus (fetchInstruction table bus t)) := by
      simp only [pulled]
      rw [bus_congr hbus h1.trace, h1.sp]
    rw [← h1.regs, ← hpulled] at he
    rw [executeOpcode, show (m.programHandOver bus (fetchInstruction table bus s)).opcodeCycleFn =
      (fetchInstruction table bus t).opcodeCycleFn from hop,
      opcodeCycle_eq_apply_contract ext bus _ (fun hp => hdiv (.inl hp)) _ _ hval he]
    exact (h1.apply e).with_cursor _
  · obtain ⟨hn, hagree⟩ := hf.branchWith hbus (fun _ target => target) wrongPage flag condition
    rw [show branchWith wrongPage flag condition bus _ = (n, r) from hb] at hn hagree
    refine ⟨_, ?_, hagree⟩
    rw [atomicStep, decodeStep_of_branch hirq' (hcur.trans ht) (by rw [hop]; exact hbr)]
    exact congrArg some (Prod.ext hn rfl)

/-- The agreement over `k` instructions. -/
theorem atomicRun_agrees :
    ∀ (k : Nat) {s t : M6502}, AgreeUpToReads s t → (∃ v : BitVec 8, t.value = v.setWidth 16) →
      (∀ j < k, ∀ n r, instructionRun table bus j t = some (n, r) → ¬Diverges table bus r) →
      ∀ {n : Nat} {r : M6502}, instructionRun table bus k t = some (n, r) →
      ∃ r', atomicRun ext table bus k s = some (n, r') ∧ AgreeUpToReads r' r
  | 0, s, t, h, _, _, n, r, hr => by
    cases hr
    exact ⟨s, rfl, h⟩
  | k + 1, s, t, h, hv, hdiv, n, r, hr => by
    obtain ⟨n₁, r₁, n₂, h₁, h₂, rfl⟩ := stepRun_succ_eq_some hr
    obtain ⟨r₁', ha₁, hagree₁⟩ := atomicStep_agrees ext table hbus h hv
      (hdiv 0 (Nat.succ_pos k) 0 t rfl) h₁
    have hdiv₁ : ∀ j < k, ∀ n r, instructionRun table bus j r₁ = some (n, r) →
        ¬Diverges table bus r := fun j hj n' r' hrun =>
      hdiv (j + 1) (Nat.succ_lt_succ hj) (n₁ + n') r'
        ((stepRun_succ_iff h₁).mpr ⟨n', hrun, rfl⟩)
    obtain ⟨r', ha₂, hagree⟩ := atomicRun_agrees k hagree₁ (instructionStep_boundary table bus h₁ hv).2
      hdiv₁ h₂
    refine ⟨r', ?_, hagree⟩
    show (atomicStep ext table bus s).bind _ = _
    rw [ha₁, Option.some_bind]
    show Option.map _ (atomicRun ext table bus k r₁') = _
    rw [ha₂, Option.map_some']

end Programs

theorem sampleExt_ignoresIa : IgnoresIa sampleExt := by
  simp only [IgnoresIa, List.mem_cons, List.mem_singleton, List.not_mem_nil, or_false]
  rintro f (rfl | rfl | rfl) _ t i <;> exact ⟨default, rfl⟩

/-- `LDX #$02; DEX; BNE $02F0` at `$0300`: the branch is taken, to another page. -/
def crossBus : DataBusReadFn :=
  romBus [(0x300, 0xA2), (0x301, 0x02), (0x302, 0xCA), (0x303, 0xD0), (0x304, 0xEB)]

def crossStart : M6502 :=
  { (default : M6502) with pc := 0x300, addressModeCycleFn := .InstructionFetch }

/-- The three instructions take eight cycles, the branch across the page four, and none of
them is one where the code leaves §4. -/
theorem cross_run :
    (∀ j < 3, ∀ n r, instructionRun sampleTable crossBus j crossStart = some (n, r) →
      ¬Diverges sampleTable crossBus r) ∧
    ∃ r, instructionRun sampleTable crossBus 3 crossStart = some (8, r) := by
  refine ⟨fun j hj n r hrun => ?_, ?_⟩
  · have hd : (instructionRun sampleTable crossBus j crossStart).map
        (fun p => decide (Diverges sampleTable crossBus p.2)) = some false := by
      rcases j with _ | _ | _ | j
      all_goals first | omega | decide
    rw [hrun] at hd
    simpa using hd
  · have h : (instructionRun sampleTable crossBus 3 crossStart).map Prod.fst = some 8 := by decide
    obtain ⟨⟨n, r⟩, hrun, rfl⟩ := Option.map_eq_some'.mp h
    exact ⟨r, hrun⟩

end Cpu6502
