import Mathlib.Data.BitVec

/-!
# The M6502 machine: state, bus and status flags

The state of the `M6502` class of m6502.h, a cycle-accurate NMOS 6502, as a flat
record. `uint8_t` and `uint16_t` are `BitVec 8` and `BitVec 16`; the unions `ea`/`ra`
and `ia`/`oldpc` are one field each, under the first name. The two member-function
pointers are tags: `addressModeCycleFn` names the next cycle (`Stage`) and
`opcodeCycleFn` the opcode body (`Opcode`).

The host's bus callbacks are observed through `trace`, the accesses made so far. A
read is answered by a `DataBusReadFn` from that history, so a host with any memory
map and any side effects of reads and writes is one such function.

The member functions m6502.h declares but defines in m6502.cpp are parameters
(`OutOfLine`): every result is proved for all of them.

The status helpers (`ClearB` … `EstablishNZ`) are functions on the status byte, each
an instance of `setFlag`, `clearFlag` or `putFlag`.
-/

namespace Cpu6502

/-! ## The bus -/

/-- One bus cycle as the host sees it. -/
inductive Access
  | read (address : BitVec 16)
  | write (address : BitVec 16) (value : BitVec 8)
  deriving DecidableEq, Repr

/-- The address an access is made at. -/
def Access.address : Access → BitVec 16
  | .read address => address
  | .write address _ => address

/-- A byte widened to 16 bits is below `0x100`: an operand byte, or an address in page
zero. -/
theorem setWidth_toNat_lt (v : BitVec 8) : (v.setWidth 16).toNat < 256 := by
  rw [BitVec.toNat_setWidth]
  have := v.isLt
  omega

/-- The host's read callback: the byte on the data bus for a read of `address`, given
every access made before it. Writes reach the host as entries of that history. -/
abbrev DataBusReadFn := List Access → BitVec 16 → BitVec 8

/-- The byte the last write to `address` in `past` stored, if any. -/
def lastWrite (past : List Access) (address : BitVec 16) : Option (BitVec 8) :=
  past.foldl (fun last acc => match acc with
    | .write a v => if a = address then some v else last
    | .read _ => last) none

@[simp] theorem lastWrite_nil (address : BitVec 16) : lastWrite [] address = none := rfl

@[simp] theorem lastWrite_append_read (past : List Access) (a address : BitVec 16) :
    lastWrite (past ++ [.read a]) address = lastWrite past address := by
  simp [lastWrite]

@[simp] theorem lastWrite_append_write (past : List Access) (a address : BitVec 16)
    (v : BitVec 8) :
    lastWrite (past ++ [.write a v]) address =
      if a = address then some v else lastWrite past address := by
  simp [lastWrite]

/-- The last write in `past ++ rest` is the last one in `rest`, else the last in `past`. -/
theorem lastWrite_append (past rest : List Access) (address : BitVec 16) :
    lastWrite (past ++ rest) address = (lastWrite rest address).or (lastWrite past address) := by
  induction rest using List.reverseRecOn with
  | nil => rw [List.append_nil]; rfl
  | append_singleton rest acc ih =>
    rw [← List.append_assoc]
    cases acc with
    | read a => simp only [lastWrite_append_read, ih]
    | write a v =>
      simp only [lastWrite_append_write, ih]
      split <;> rfl

/-- A bus that is RAM everywhere: a read returns the last byte written at the address,
`0x00` before any write. -/
def ramBus : DataBusReadFn := fun past address => (lastWrite past address).getD 0

/-- A bus that holds the bytes `image` lists, reads `0x00` elsewhere and ignores writes. -/
def romBus (image : List (BitVec 16 × BitVec 8)) : DataBusReadFn := fun _ address =>
  ((image.find? (·.1 = address)).map (·.2)).getD 0

/-! ## Cycle and opcode tags -/

/-- The cycle functions m6502.h declares, with `SUPPORT_IRQ` on and `SUPPORT_NMI`,
`SUPPORT_RDY_HALTING` off. Numbers follow appendix A of the MCS6500 manual. -/
inductive Stage
  | InstructionFetch | InstructionFetchIRQ
  | sb_1_T1 | sb_jam_T1 | imm_2_1_T1
  | rel_5_8_T1 | rel_5_8_T2 | rel_5_8_T3
  | zp_2_1_T1 | zp_2_1_T2 | zp_3_1_T1 | zp_3_1_T2
  | abs_2_3_T1 | abs_2_3_T2 | abs_2_3_T3 | abs_3_2_T1 | abs_3_2_T2 | abs_3_2_T3
  | idx_2_4_T1 | idx_2_4_T2 | idx_2_4_T3 | idx_2_4_T4 | idx_2_4_T5
  | idx_3_3_T1 | idx_3_3_T2 | idx_3_3_T3 | idx_3_3_T4 | idx_3_3_T5
  | idx_Undoc_T1 | idx_Undoc_T2 | idx_Undoc_T3 | idx_Undoc_T4 | idx_Undoc_T5
  | idx_Undoc_T6 | idx_Undoc_T7
  | absx_2_5_T1 | absx_2_5_T2 | absx_2_5_T3 | absx_2_5_T4
  | absx_3_4_T1 | absx_3_4_T2 | absx_3_4_T3 | absx_3_4_T4
  | absy_2_5_T1 | absy_2_5_T2 | absy_2_5_T3 | absy_2_5_T4
  | absy_3_4_T1 | absy_3_4_T2 | absy_3_4_T3 | absy_3_4_T4
  | zpx_2_6_T1 | zpx_2_6_T2 | zpx_2_6_T3 | zpx_3_5_T1 | zpx_3_5_T2 | zpx_3_5_T3
  | zpy_2_6_T1 | zpy_2_6_T2 | zpy_2_6_T3 | zpy_3_5_T1 | zpy_3_5_T2 | zpy_3_5_T3
  | idy_2_7_T1 | idy_2_7_T2 | idy_2_7_T3 | idy_2_7_T4 | idy_2_7_T5
  | idy_3_6_T1 | idy_3_6_T2 | idy_3_6_T3 | idy_3_6_T4 | idy_3_6_T5
  | idy_Undoc_T1 | idy_Undoc_T2 | idy_Undoc_T3 | idy_Undoc_T4 | idy_Undoc_T5
  | idy_Undoc_T6 | idy_Undoc_T7
  | zp_4_1_T1 | zp_4_1_T2 | zp_4_1_T3 | zp_4_1_T4
  | abs_4_2_T1 | abs_4_2_T2 | abs_4_2_T3 | abs_4_2_T4 | abs_4_2_T5
  | zpx_4_3_T1 | zpx_4_3_T2 | zpx_4_3_T3 | zpx_4_3_T4 | zpx_4_3_T5
  | absx_4_4_T1 | absx_4_4_T2 | absx_4_4_T3 | absx_4_4_T4 | absx_4_4_T5 | absx_4_4_T6
  | absy_4_4_T1 | absy_4_4_T2 | absy_4_4_T3 | absy_4_4_T4 | absy_4_4_T5 | absy_4_4_T6
  | ph_5_1_T1 | ph_5_1_T2 | pl_5_2_T1 | pl_5_2_T2 | pl_5_2_T3
  | jsr_5_3_T1 | jsr_5_3_T2 | jsr_5_3_T3 | jsr_5_3_T4 | jsr_5_3_T5
  | rti_5_5_T1 | rti_5_5_T2 | rti_5_5_T3 | rti_5_5_T4 | rti_5_5_T5
  | abs5_6_1_T1 | abs5_6_1_T2 | abs5_6_2_T1 | abs5_6_2_T2 | abs5_6_2_T3 | abs5_6_2_T4
  | rts_5_7_T1 | rts_5_7_T2 | rts_5_7_T3 | rts_5_7_T4 | rts_5_7_T5
  | brk_5_4_T1 | brk_5_4_T2 | brk_5_4_T3 | brk_5_4_T4 | brk_5_4_T5 | brk_5_4_T6
  | Reset_T0 | Reset_T1 | Reset_T2 | Reset_T3 | Reset_T4 | Reset_T5 | Reset_T6
  | IRQ_T1 | IRQ_T2 | IRQ_T3 | IRQ_T4 | IRQ_T5 | IRQ_T6
  deriving DecidableEq, Repr, Inhabited

/-- The opcode functions of m6502.h, documented then undocumented. -/
inductive Opcode
  | ADC | ANC | AND | ASL | BCC | BCS | BEQ | BIT | BMI | BNE | BPL | BVC | BVS | BRK
  | CLC | CLD | CLI | CLV | CMP | CPX | CPY | DEC | DEX | DEY | EOR | INC | INX | INY
  | JAM | JMP | JSR | LDA | LDX | LDY | LSR | NOP | ORA | PHA | PHP | PLA | PLP | ROL
  | ROR | RTI | RTS | SBC | SEC | SED | SEI | STA | STX | STY | TAX | TAY | TSX | TXA
  | TXS | TYA
  | ASR | LXA | ARR | LAX | LAS | SAX | SBX | SHA | SHY | DCP | ISB | SLO | RLA | SRE
  | RRA | SHS | SHX | XAA
  deriving DecidableEq, Repr, Inhabited

/-! ## The state -/

/-- The data members of `M6502`, and the bus history. -/
structure M6502 where
  /-- Effective address; shares storage with `ra`, a branch's offset. -/
  ea : BitVec 16
  /-- Intermediate address; shares storage with `oldpc`, a branch's old PC. -/
  ia : BitVec 16
  /-- Intermediate data value. -/
  value : BitVec 16
  pc : BitVec 16
  opcode : BitVec 8
  a : BitVec 8
  x : BitVec 8
  y : BitVec 8
  status : BitVec 8
  sp : BitVec 8
  CLIMaskingInterrupt : Bool
  BranchTakenMaskingInterrupt : Bool
  IRQPending : Bool
  /-- Whether the `IRQ` line object is asserted. -/
  IRQ : Bool
  addressModeCycleFn : Stage
  opcodeCycleFn : Opcode
  /-- Every access made on the bus so far, oldest first. -/
  trace : List Access
  deriving DecidableEq, Repr, Inhabited

/-- A cycle function: one call of a member function, against the host's bus. -/
abbrev Cycle := DataBusReadFn → M6502 → M6502

/-- `s` with one more access on the bus. -/
@[simps]
def M6502.log (s : M6502) (acc : Access) : M6502 := { s with trace := s.trace ++ [acc] }

/-- The member functions m6502.h declares and m6502.cpp defines: the fetch stages,
the stages that test an interrupt or a page cross, and the decimal-capable bodies. -/
structure OutOfLine where
  InstructionFetch : Cycle
  InstructionFetchIRQ : Cycle
  rel_5_8_T2 : Cycle
  absx_2_5_T3 : Cycle
  absy_2_5_T3 : Cycle
  idy_2_7_T4 : Cycle
  brk_5_4_T4 : Cycle
  IRQ_T4 : Cycle
  ADC : Cycle
  SBC : Cycle
  ARR : Cycle
  deriving Inhabited

/-! ## Status flags -/

def flagCarry : BitVec 8 := 0x01
def flagZero : BitVec 8 := 0x02
def flagInterrupt : BitVec 8 := 0x04
def flagDecimal : BitVec 8 := 0x08
def flagBreak : BitVec 8 := 0x10
def flagConstant : BitVec 8 := 0x20
def flagOverflow : BitVec 8 := 0x40
def flagSign : BitVec 8 := 0x80

/-- `status |= flag`. -/
def setFlag (flag status : BitVec 8) : BitVec 8 := status ||| flag

/-- `status &= ~flag`. -/
def clearFlag (flag status : BitVec 8) : BitVec 8 := status &&& ~~~flag

/-- `test != 0 ? Set() : Clear()`, the helpers that take a test. -/
def putFlag (flag : BitVec 8) (test : Bool) (status : BitVec 8) : BitVec 8 :=
  if test then setFlag flag status else clearFlag flag status

def clearB := clearFlag flagBreak
def setB := setFlag flagBreak
def clearC := clearFlag flagCarry
def setC := setFlag flagCarry
def clearZ := clearFlag flagZero
def clearI := clearFlag flagInterrupt
def setI := setFlag flagInterrupt
def clearD := clearFlag flagDecimal
def setD := setFlag flagDecimal
def clearV := clearFlag flagOverflow
def setV := setFlag flagOverflow
def clearN := clearFlag flagSign

/-- `SetC(uint16_t test)`. -/
def setCIf := putFlag flagCarry
/-- `SetZ(uint16_t test)`. -/
def setZIf := putFlag flagZero
/-- `SetV(uint16_t test)`. -/
def setVIf := putFlag flagOverflow
/-- `SetN(uint16_t test)`. -/
def setNIf := putFlag flagSign

/-- Z from the low byte of `val`. -/
def establishZ (val : BitVec 16) : BitVec 8 → BitVec 8 := setZIf (val &&& 0x00FF = 0)

/-- N from bit 7 of `val`. -/
def establishN (val : BitVec 16) : BitVec 8 → BitVec 8 := setNIf (val &&& 0x0080 ≠ 0)

/-- C from the high byte of `val`. -/
def establishC (val : BitVec 16) : BitVec 8 → BitVec 8 := setCIf (val &&& 0xFF00 ≠ 0)

def establishNZ (val : BitVec 16) (status : BitVec 8) : BitVec 8 :=
  establishN val (establishZ val status)

/-- A second test of a flag replaces the first. -/
@[simp] theorem putFlag_putFlag (f : BitVec 8) (t u : Bool) (p : BitVec 8) :
    putFlag f t (putFlag f u p) = putFlag f t p := by
  ext i
  cases t <;> cases u <;> simp [putFlag, setFlag, clearFlag] <;> cases f.getLsbD i <;> simp

/-- Tests of two flags with no bit in common commute. -/
theorem putFlag_comm {f g : BitVec 8} (h : f &&& g = 0) (t u : Bool) (p : BitVec 8) :
    putFlag f t (putFlag g u p) = putFlag g u (putFlag f t p) := by
  ext i
  have hi := congrArg (fun v : BitVec 8 => v.getLsbD i) h
  simp only [BitVec.getLsbD_and, BitVec.getLsbD_zero] at hi
  cases t <;> cases u <;> simp [putFlag, setFlag, clearFlag] <;>
    cases hf : f.getLsbD i <;> cases hg : g.getLsbD i <;> simp_all

/-- A test of a flag is not seen through a mask that covers the flag. -/
theorem putFlag_or_of_le {f g : BitVec 8} (h : f ||| g = g) (t : Bool) (p : BitVec 8) :
    putFlag f t p ||| g = p ||| g := by
  ext i
  have hi := congrArg (fun v : BitVec 8 => v.getLsbD i) h
  simp only [BitVec.getLsbD_or] at hi
  cases t <;> simp [putFlag, setFlag, clearFlag] <;> cases hf : f.getLsbD i <;> simp_all

end Cpu6502
