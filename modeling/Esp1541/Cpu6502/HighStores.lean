import Esp1541.Cpu6502.CodeTable

/-!
# The `SHA` family in the indexed write chains

`SHA`, `SHX`, `SHY` and `SHS` store a register ANDed with `(ea >> 8) + 1`
(`storeHighAnd`), and they run in the chain's last cycle, after the indexing cycle has
added the index to `ea`. So the byte is taken from the high byte of the indexed address
`B + i`, and the write goes to `B + i` whether or not the index carried into the high
byte: the address is never ANDed with the stored byte
(`run_abs_indexed_store_high`, `run_idy_store_high`, `sha_page_cross_store`).
-/

namespace Cpu6502

/-- The bodies that store through `storeHighAnd`. -/
def Opcode.storesHighAnd : Opcode → Bool
  | .SHA | .SHS | .SHX | .SHY => true
  | _ => false

/-- The register the body ANDs with the high byte: `a & x` for `SHA` and `SHS`, `x` for
`SHX`, `y` for `SHY`. -/
def Opcode.highAndRegister (op : Opcode) (s : M6502) : BitVec 8 :=
  match op with
  | .SHA | .SHS => s.a &&& s.x
  | .SHX => s.x
  | .SHY => s.y
  | _ => 0

section Stores

variable (ext : OutOfLine) (bus : DataBusReadFn)

/-- Out of accumulator addressing, a body of the family writes its byte at `ea`, and
`SHS` also loads `sp` with `a & x`. -/
theorem opcodeCycle_storesHighAnd {op : Opcode} (hop : op.storesHighAnd) (s : M6502)
    (hs : s.addressModeCycleFn ≠ .sb_1_T1) :
    opcodeCycle ext bus op s =
      { s.log (.write s.ea ((((s.ea >>> 8) + 1) &&& (op.highAndRegister s).setWidth 16).setWidth 8))
        with sp := if op = .SHS then s.a &&& s.x else s.sp } := by
  cases op <;> first | exact absurd hop (by decide) |
    (simp only [opcodeCycle, SHA, SHS, SHX, SHY, storeHighAnd, writeValue, hs, reduceIte]; rfl)

/-- `abs,X` and `abs,Y` with a body of the family: the operand `B` is read at `pc` and
`pc + 1`, the dummy read is at `B`, and the one write is at `B + i`, of the register ANDed
with the high byte of `B + i` plus one. -/
theorem run_abs_indexed_store_high {m : Mode} (hm : m = .absx_3_4 ∨ m = .absy_3_4)
    {op : Opcode} (hop : op.storesHighAnd) (s : M6502) (hs : s.addressModeCycleFn = m.T1)
    (ho : s.opcodeCycleFn = op) :
    let B := (bus s.trace s.pc).setWidth 16 |||
      (bus (s.trace ++ [.read s.pc]) (s.pc + 1)).setWidth 16 <<< 8
    let E := B + (if m = .absx_3_4 then s.x else s.y).setWidth 16
    let r := run ext bus 4 s
    r.trace = s.trace ++ [.read s.pc, .read (s.pc + 1), .read B,
      .write E ((((E >>> 8) + 1) &&& (op.highAndRegister s).setWidth 16).setWidth 8)] ∧
      r.sp = (if op = .SHS then s.a &&& s.x else s.sp) ∧ r.pc = s.pc + 2 := by
  obtain ⟨i, hi⟩ := run_cycles_eq_program ext bus m s hs
  obtain ⟨ea, ia, value, pc, opcode, a, x, y, status, sp, c1, c2, c3, c4, t, op', trace⟩ := s
  subst ho
  rcases hm with rfl | rfl <;> dsimp only [Mode.cycles] at hi ⊢ <;> rw [hi] <;>
  dsimp only [executeOpcode, Mode.programHandOver, Mode.program, Mode.program.baseIndexedWrite,
    Mode.last, M6502.operand, busRead, bind, StateT.bind, pure, StateT.pure, StateT.run,
    Option.getD, Option.map] <;>
  rw [opcodeCycle_storesHighAnd ext bus hop _ (by dsimp only; decide)] <;>
  refine ⟨?_, rfl, rfl⟩ <;>
  simp only [join_eq_append, M6502.log, List.append_assoc, List.cons_append, List.nil_append,
    reduceIte, reduceCtorEq] <;>
  rfl

/-- `SHX $nnnn,Y` from its `T1`: the run leaves `pc` past the two operand bytes. -/
theorem run_abs_indexed_store_high_shx :
    let s : M6502 :=
      { (default : M6502) with x := 0x0F, addressModeCycleFn := .absy_3_4_T1, opcodeCycleFn := .SHX }
    s.addressModeCycleFn = Mode.absy_3_4.T1 ∧ (run default (fun _ _ => 0) 4 s).pc = s.pc + 2 :=
  ⟨rfl, (@run_abs_indexed_store_high default _ .absy_3_4 (.inr rfl) .SHX rfl _ rfl rfl).2.2⟩

/-- `(zp),Y` with a body of the family: the pointer `B` is read at `zp` and
`(zp + 1) & 0xFF`, the dummy read is at `B + y`, and the one write is at `B + y`, of the
register ANDed with the high byte of `B + y` plus one. -/
theorem run_idy_store_high {op : Opcode} (hop : op.storesHighAnd) (s : M6502)
    (hs : s.addressModeCycleFn = .idy_3_6_T1) (ho : s.opcodeCycleFn = op) :
    let zp := (bus s.trace s.pc).setWidth 16
    let B := (bus (s.trace ++ [.read s.pc]) zp).setWidth 16 |||
      (bus (s.trace ++ [.read s.pc, .read zp]) ((zp + 1) &&& 0xff)).setWidth 16 <<< 8
    let E := B + s.y.setWidth 16
    let r := run ext bus 5 s
    r.trace = s.trace ++ [.read s.pc, .read zp, .read ((zp + 1) &&& 0xff), .read E,
      .write E ((((E >>> 8) + 1) &&& (op.highAndRegister s).setWidth 16).setWidth 8)] ∧
      r.sp = (if op = .SHS then s.a &&& s.x else s.sp) ∧ r.pc = s.pc + 1 := by
  obtain ⟨i, hi⟩ := run_cycles_eq_program ext bus .idy_3_6 s hs
  dsimp only [Mode.cycles] at hi ⊢
  rw [hi]
  obtain ⟨ea, ia, value, pc, opcode, a, x, y, status, sp, c1, c2, c3, c4, t, op', trace⟩ := s
  subst ho
  dsimp only [executeOpcode, Mode.programHandOver, Mode.program,
    Mode.program.carriedIndirectIndexed, Mode.last, M6502.operand, busRead, bind, StateT.bind,
    pure, StateT.pure, StateT.run, Option.getD, Option.map]
  rw [opcodeCycle_storesHighAnd ext bus hop _ (by dsimp only; decide)]
  refine ⟨?_, rfl, rfl⟩
  simp only [join_eq_append, zero_page_succ, M6502.log, List.append_assoc, List.cons_append,
    List.nil_append]
  rfl

/-- `SHA ($nn),Y` from its `T1`: the run leaves `pc` past the operand byte. -/
theorem run_idy_store_high_sha :
    let s : M6502 :=
      { (default : M6502) with a := 0x0F, x := 0x0F, addressModeCycleFn := .idy_3_6_T1,
                               opcodeCycleFn := .SHA }
    s.addressModeCycleFn = .idy_3_6_T1 ∧ (run default (fun _ _ => 0) 5 s).pc = s.pc + 1 :=
  ⟨rfl, (@run_idy_store_high default _ .SHA rfl _ rfl rfl).2.2⟩

end Stores

/-- `SHA $12FF,Y` with `y = 1` and `a = x = 0x0F`: the dummy read is at `0x12FF`, and the
one write is at `0x1300`, of `0x0F & (0x13 + 1) = 0x04`. -/
theorem sha_page_cross_store :
    let bus : DataBusReadFn := fun _ address =>
      if address = 0 then 0xFF else if address = 1 then 0x12 else 0
    let s : M6502 :=
      { (default : M6502) with a := 0x0F, x := 0x0F, y := 0x01,
                               addressModeCycleFn := .absy_3_4_T1, opcodeCycleFn := .SHA }
    (run default bus 4 s).trace = [.read 0, .read 1, .read 0x12FF, .write 0x1300 0x04] := by
  decide

end Cpu6502
