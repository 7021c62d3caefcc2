import Esp1541.Cpu6502.Opcodes

/-!
# Address-mode cycles and the dispatcher

Every cycle function of m6502.h, one bus access each. Cycles that share a body up to
the cycle they continue at (`ea = BUS_READ(pc++)` then `next`, and so on) are one
helper applied to `next`; each cycle keeps its own definition under its own name.

`executeOpcode` runs the body `opcodeCycleFn` names and schedules the fetch.
`stageCycle` is the call through `addressModeCycleFn`, and `step` (`Step()`, in
m6502.cpp) makes that call once. `run n` is `n` calls of `step`.

Every cycle of m6502.h but `rti_5_5_T3` keeps `value` or loads a byte into it, and keeps
`status` or sets I or clears B in it, before the body it runs (`stageCycle_frame`); the
other cycles are the functions of m6502.cpp (`stageCycle_of_not_inHeader`).
-/

namespace Cpu6502

/-! ## Shared cycle bodies -/

section Helpers

variable (next : Stage) (ext : OutOfLine) (bus : DataBusReadFn) (s : M6502)

/-- `ExecuteOpcode()`: the body, then the next instruction fetch. -/
def executeOpcode : M6502 :=
  { opcodeCycle ext bus s.opcodeCycleFn s with addressModeCycleFn := .InstructionFetch }

/-- `ea = BUS_READ(pc++)`. -/
def fetchEa : M6502 :=
  { s.log (.read s.pc) with ea := (bus s.trace s.pc).setWidth 16, pc := s.pc + 1,
                            addressModeCycleFn := next }

/-- `ea |= (BUS_READ(pc++) << 8)`. -/
def fetchEaHigh : M6502 :=
  { s.log (.read s.pc) with ea := s.ea ||| ((bus s.trace s.pc).setWidth 16 <<< 8),
                            pc := s.pc + 1, addressModeCycleFn := next }

/-- `ia = BUS_READ(pc++)`. -/
def fetchIa : M6502 :=
  { s.log (.read s.pc) with ia := (bus s.trace s.pc).setWidth 16, pc := s.pc + 1,
                            addressModeCycleFn := next }

/-- `BUS_READ(pc)`, discarded. -/
def dummyReadPc : M6502 :=
  { s.log (.read s.pc) with addressModeCycleFn := next }

/-- `BUS_READ(ea)`, discarded. -/
def dummyReadEa : M6502 :=
  { s.log (.read s.ea) with addressModeCycleFn := next }

/-- `BUS_READ(ia)`, discarded. -/
def dummyReadIa : M6502 :=
  { s.log (.read s.ia) with addressModeCycleFn := next }

/-- `BUS_READ(0x100 + sp)`, discarded. -/
def dummyReadStack : M6502 :=
  { s.log (.read (stackAddress s.sp)) with addressModeCycleFn := next }

/-- `value = BUS_READ(ea)`. -/
def readValue : M6502 :=
  { s.log (.read s.ea) with value := (bus s.trace s.ea).setWidth 16, addressModeCycleFn := next }

/-- `value = BUS_READ(ea); ExecuteOpcode()`. -/
def readValueExecute : M6502 :=
  executeOpcode ext bus { s.log (.read s.ea) with value := (bus s.trace s.ea).setWidth 16 }

/-- `dataBusWriteFn(ea, (uint8_t)value)`: the read-modify-write dummy write. -/
def writeBack : M6502 :=
  { s.log (.write s.ea (s.value.setWidth 8)) with addressModeCycleFn := next }

/-- `ea = (ea + reg) & 0xFF`: the zero-page index, wrapping in page zero. -/
def zpIndex (reg : BitVec 8) (ea : BitVec 16) : BitVec 16 := (ea + reg.setWidth 16) &&& 0xFF

/-- `ea = (ea + reg) & 0xFF; value = BUS_READ(ea)`. -/
def zpIndexReadValue (reg : BitVec 8) : M6502 :=
  let ea := zpIndex reg s.ea
  { s.log (.read ea) with ea := ea, value := (bus s.trace ea).setWidth 16,
                          addressModeCycleFn := next }

/-- `ia = (ia + x) & 0xff; ea = BUS_READ(ia++)`. -/
def indexPointerLow : M6502 :=
  let ia := zpIndex s.x s.ia
  { s.log (.read ia) with ia := ia + 1, ea := (bus s.trace ia).setWidth 16,
                          addressModeCycleFn := next }

/-- `ea = BUS_READ(ia++)`. -/
def pointerLow : M6502 :=
  { s.log (.read s.ia) with ia := s.ia + 1, ea := (bus s.trace s.ia).setWidth 16,
                            addressModeCycleFn := next }

/-- `ea |= (BUS_READ(ia & 0xff) << 8)`: the pointer's second byte, wrapping in page zero. -/
def pointerHigh : M6502 :=
  { s.log (.read (s.ia &&& 0xff)) with
      ea := s.ea ||| ((bus s.trace (s.ia &&& 0xff)).setWidth 16 <<< 8), addressModeCycleFn := next }

/-- `BUS_READ(ea); ea += reg`: the dummy read before indexing. -/
def dummyReadThenIndex (reg : BitVec 8) : M6502 :=
  { s.log (.read s.ea) with ea := s.ea + reg.setWidth 16, addressModeCycleFn := next }

/-- `ea += reg; BUS_READ(ea)`: the dummy read after indexing. -/
def indexThenDummyRead (reg : BitVec 8) : M6502 :=
  { s.log (.read (s.ea + reg.setWidth 16)) with ea := s.ea + reg.setWidth 16,
                                                addressModeCycleFn := next }

/-- `Push((uint8_t)(pc >> 8))`. -/
def pushPch : M6502 := { push ((s.pc >>> 8).setWidth 8) s with addressModeCycleFn := next }

/-- `Push(pc & 0xff)`. -/
def pushPcl : M6502 := { push ((s.pc &&& 0xff).setWidth 8) s with addressModeCycleFn := next }

/-- `ea = BUS_READ(vector)`: the vector's low byte. -/
def readVectorLow (vector : BitVec 16) : M6502 :=
  { s.log (.read vector) with ea := (bus s.trace vector).setWidth 16, addressModeCycleFn := next }

/-- `BUS_READ(0x100 + sp--)`: the reset's dummy push. -/
def dummyPush : M6502 :=
  { s.log (.read (stackAddress s.sp)) with sp := s.sp - 1, addressModeCycleFn := next }

end Helpers

/-! ## Cycle functions -/

section Cycles

variable (ext : OutOfLine) (bus : DataBusReadFn) (s : M6502)

def sb_1_T1 : M6502 := executeOpcode ext bus { s.log (.read s.pc) with value := s.a.setWidth 16 }
def sb_jam_T1 : M6502 := executeOpcode ext bus (s.log (.read s.pc))

def imm_2_1_T1 : M6502 :=
  executeOpcode ext bus { s.log (.read s.pc) with value := (bus s.trace s.pc).setWidth 16,
                                                  pc := s.pc + 1 }

/-- Branches run their body in T1; the body picks the next cycle. -/
def rel_5_8_T1 : M6502 := opcodeCycle ext bus s.opcodeCycleFn s
def rel_5_8_T3 : M6502 := dummyReadPc .InstructionFetch s

def zp_2_1_T1 := fetchEa .zp_2_1_T2
def zp_2_1_T2 := readValueExecute ext
def zp_3_1_T1 := fetchEa .zp_3_1_T2
def zp_3_1_T2 := executeOpcode ext

def abs_2_3_T1 := fetchEa .abs_2_3_T2
def abs_2_3_T2 := fetchEaHigh .abs_2_3_T3
def abs_2_3_T3 := readValueExecute ext
def abs_3_2_T1 := fetchEa .abs_3_2_T2
def abs_3_2_T2 := fetchEaHigh .abs_3_2_T3
def abs_3_2_T3 := executeOpcode ext

def idx_2_4_T1 := fetchIa .idx_2_4_T2
def idx_2_4_T2 := dummyReadIa .idx_2_4_T3
def idx_2_4_T3 := indexPointerLow .idx_2_4_T4
def idx_2_4_T4 := pointerHigh .idx_2_4_T5
def idx_2_4_T5 := readValueExecute ext
def idx_3_3_T1 := fetchIa .idx_3_3_T2
def idx_3_3_T2 := dummyReadIa .idx_3_3_T3
def idx_3_3_T3 := indexPointerLow .idx_3_3_T4
def idx_3_3_T4 := pointerHigh .idx_3_3_T5
def idx_3_3_T5 := executeOpcode ext
def idx_Undoc_T1 := fetchIa .idx_Undoc_T2
def idx_Undoc_T2 := dummyReadIa .idx_Undoc_T3
def idx_Undoc_T3 := indexPointerLow .idx_Undoc_T4
def idx_Undoc_T4 := pointerHigh .idx_Undoc_T5
def idx_Undoc_T5 := readValue .idx_Undoc_T6
def idx_Undoc_T6 := writeBack .idx_Undoc_T7
def idx_Undoc_T7 := executeOpcode ext

def absx_2_5_T1 := fetchEa .absx_2_5_T2
def absx_2_5_T2 := fetchEaHigh .absx_2_5_T3
def absx_2_5_T4 := readValueExecute ext
def absx_3_4_T1 := fetchEa .absx_3_4_T2
def absx_3_4_T2 := fetchEaHigh .absx_3_4_T3
def absx_3_4_T3 : M6502 := dummyReadThenIndex .absx_3_4_T4 s s.x
def absx_3_4_T4 := executeOpcode ext
def absy_2_5_T1 := fetchEa .absy_2_5_T2
def absy_2_5_T2 := fetchEaHigh .absy_2_5_T3
def absy_2_5_T4 := readValueExecute ext
def absy_3_4_T1 := fetchEa .absy_3_4_T2
def absy_3_4_T2 := fetchEaHigh .absy_3_4_T3
def absy_3_4_T3 : M6502 := dummyReadThenIndex .absy_3_4_T4 s s.y
def absy_3_4_T4 := executeOpcode ext

def zpx_2_6_T1 := fetchEa .zpx_2_6_T2
def zpx_2_6_T2 := dummyReadEa .zpx_2_6_T3
def zpx_2_6_T3 : M6502 := executeOpcode ext bus (zpIndexReadValue s.addressModeCycleFn bus s s.x)
def zpx_3_5_T1 := fetchEa .zpx_3_5_T2
def zpx_3_5_T2 := dummyReadEa .zpx_3_5_T3
def zpx_3_5_T3 : M6502 := executeOpcode ext bus { s with ea := zpIndex s.x s.ea }
def zpy_2_6_T1 := fetchEa .zpy_2_6_T2
def zpy_2_6_T2 := dummyReadEa .zpy_2_6_T3
def zpy_2_6_T3 : M6502 := executeOpcode ext bus (zpIndexReadValue s.addressModeCycleFn bus s s.y)
def zpy_3_5_T1 := fetchEa .zpy_3_5_T2
def zpy_3_5_T2 := dummyReadEa .zpy_3_5_T3
def zpy_3_5_T3 : M6502 := executeOpcode ext bus { s with ea := zpIndex s.y s.ea }

def idy_2_7_T1 := fetchIa .idy_2_7_T2
def idy_2_7_T2 := pointerLow .idy_2_7_T3
def idy_2_7_T3 := pointerHigh .idy_2_7_T4
def idy_2_7_T5 := readValueExecute ext
def idy_3_6_T1 := fetchIa .idy_3_6_T2
def idy_3_6_T2 := pointerLow .idy_3_6_T3
def idy_3_6_T3 := pointerHigh .idy_3_6_T4
def idy_3_6_T4 : M6502 := indexThenDummyRead .idy_3_6_T5 s s.y
def idy_3_6_T5 := executeOpcode ext
def idy_Undoc_T1 := fetchIa .idy_Undoc_T2
def idy_Undoc_T2 := pointerLow .idy_Undoc_T3
def idy_Undoc_T3 := pointerHigh .idy_Undoc_T4
def idy_Undoc_T4 : M6502 := indexThenDummyRead .idy_Undoc_T5 s s.y
def idy_Undoc_T5 := readValue .idy_Undoc_T6
def idy_Undoc_T6 := writeBack .idy_Undoc_T7
def idy_Undoc_T7 := executeOpcode ext

def zp_4_1_T1 := fetchEa .zp_4_1_T2
def zp_4_1_T2 := readValue .zp_4_1_T3
def zp_4_1_T3 := writeBack .zp_4_1_T4
def zp_4_1_T4 := executeOpcode ext
def abs_4_2_T1 := fetchEa .abs_4_2_T2
def abs_4_2_T2 := fetchEaHigh .abs_4_2_T3
def abs_4_2_T3 := readValue .abs_4_2_T4
def abs_4_2_T4 := writeBack .abs_4_2_T5
def abs_4_2_T5 := executeOpcode ext
def zpx_4_3_T1 := fetchEa .zpx_4_3_T2
def zpx_4_3_T2 := dummyReadEa .zpx_4_3_T3
def zpx_4_3_T3 : M6502 := zpIndexReadValue .zpx_4_3_T4 bus s s.x
def zpx_4_3_T4 := writeBack .zpx_4_3_T5
def zpx_4_3_T5 := executeOpcode ext
def absx_4_4_T1 := fetchEa .absx_4_4_T2
def absx_4_4_T2 := fetchEaHigh .absx_4_4_T3
def absx_4_4_T3 : M6502 := indexThenDummyRead .absx_4_4_T4 s s.x
def absx_4_4_T4 := readValue .absx_4_4_T5
def absx_4_4_T5 := writeBack .absx_4_4_T6
def absx_4_4_T6 := executeOpcode ext
def absy_4_4_T1 := fetchEa .absy_4_4_T2
def absy_4_4_T2 := fetchEaHigh .absy_4_4_T3
def absy_4_4_T3 : M6502 := indexThenDummyRead .absy_4_4_T4 s s.y
def absy_4_4_T4 := readValue .absy_4_4_T5
def absy_4_4_T5 := writeBack .absy_4_4_T6
def absy_4_4_T6 := executeOpcode ext

def ph_5_1_T1 := dummyReadPc .ph_5_1_T2
def ph_5_1_T2 := executeOpcode ext
def pl_5_2_T1 := dummyReadPc .pl_5_2_T2
def pl_5_2_T2 := dummyReadStack .pl_5_2_T3
def pl_5_2_T3 := executeOpcode ext

def jsr_5_3_T1 := fetchEa .jsr_5_3_T2
def jsr_5_3_T2 := dummyReadStack .jsr_5_3_T3
def jsr_5_3_T3 := pushPch .jsr_5_3_T4
def jsr_5_3_T4 := pushPcl .jsr_5_3_T5
def jsr_5_3_T5 : M6502 :=
  let ea := s.ea ||| ((bus s.trace s.pc).setWidth 16 <<< 8)
  executeOpcode ext bus { s.log (.read s.pc) with ea := ea, pc := ea }

def rti_5_5_T1 : M6502 := { s.log (.read s.pc) with pc := s.pc + 1,
                                                    addressModeCycleFn := .rti_5_5_T2 }
def rti_5_5_T2 := dummyReadStack .rti_5_5_T3
def rti_5_5_T3 : M6502 := { pull s with status := pulled bus s, addressModeCycleFn := .rti_5_5_T4 }
def rti_5_5_T4 : M6502 :=
  { pull s with pc := (pulled bus s).setWidth 16, addressModeCycleFn := .rti_5_5_T5 }
def rti_5_5_T5 : M6502 :=
  executeOpcode ext bus { pull s with pc := s.pc ||| ((pulled bus s).setWidth 16 <<< 8) }

def abs5_6_1_T1 := fetchEa .abs5_6_1_T2
def abs5_6_1_T2 : M6502 := executeOpcode ext bus (fetchEaHigh s.addressModeCycleFn bus s)
def abs5_6_2_T1 := fetchIa .abs5_6_2_T2
def abs5_6_2_T2 : M6502 :=
  { s.log (.read s.pc) with ia := s.ia ||| ((bus s.trace s.pc).setWidth 16 <<< 8),
                            pc := s.pc + 1, addressModeCycleFn := .abs5_6_2_T3 }
def abs5_6_2_T3 := pointerLow .abs5_6_2_T4
def abs5_6_2_T4 : M6502 :=
  executeOpcode ext bus { s.log (.read s.ia) with ea := s.ea ||| ((bus s.trace s.ia).setWidth 16 <<< 8) }

def rts_5_7_T1 : M6502 := { s.log (.read s.pc) with pc := s.pc + 1,
                                                    addressModeCycleFn := .rts_5_7_T2 }
def rts_5_7_T2 := dummyReadStack .rts_5_7_T3
def rts_5_7_T3 : M6502 :=
  { pull s with pc := (pulled bus s).setWidth 16, addressModeCycleFn := .rts_5_7_T4 }
def rts_5_7_T4 : M6502 :=
  { pull s with pc := s.pc ||| ((pulled bus s).setWidth 16 <<< 8), addressModeCycleFn := .rts_5_7_T5 }
def rts_5_7_T5 : M6502 := executeOpcode ext bus { s.log (.read s.pc) with pc := s.pc + 1 }

def brk_5_4_T1 : M6502 := { s.log (.read s.pc) with pc := s.pc + 1,
                                                    addressModeCycleFn := .brk_5_4_T2 }
def brk_5_4_T2 := pushPch .brk_5_4_T3
def brk_5_4_T3 := pushPcl .brk_5_4_T4
def brk_5_4_T5 := readVectorLow .brk_5_4_T6 bus s 0xFFFE
def brk_5_4_T6 : M6502 :=
  executeOpcode ext bus { s.log (.read 0xFFFF) with status := setI s.status,
                                                    pc := s.ea ||| ((bus s.trace 0xFFFF).setWidth 16 <<< 8) }

def Reset_T0 : M6502 := { s.log (.read s.pc) with sp := 0, addressModeCycleFn := .Reset_T1 }
def Reset_T1 := dummyReadPc .Reset_T2
def Reset_T2 := dummyPush .Reset_T3
def Reset_T3 := dummyPush .Reset_T4
def Reset_T4 : M6502 := dummyPush .Reset_T5 { s with status := clearB s.status }
def Reset_T5 := readVectorLow .Reset_T6 bus s 0xFFFC
def Reset_T6 : M6502 :=
  { s.log (.read 0xFFFD) with pc := s.ea ||| ((bus s.trace 0xFFFD).setWidth 16 <<< 8),
                              addressModeCycleFn := .InstructionFetch }

def IRQ_T1 := dummyReadPc .IRQ_T2
def IRQ_T2 := pushPch .IRQ_T3
def IRQ_T3 := pushPcl .IRQ_T4
def IRQ_T5 := readVectorLow .IRQ_T6 bus s 0xFFFE
def IRQ_T6 : M6502 :=
  { s.log (.read 0xFFFF) with
    status := setI s.status, pc := s.ea ||| ((bus s.trace 0xFFFF).setWidth 16 <<< 8),
    addressModeCycleFn := .InstructionFetchIRQ }

end Cycles

/-! ## The dispatcher -/

/-- `(this->*addressModeCycleFn)()`: the cycle function a tag names. -/
def stageCycle (ext : OutOfLine) (bus : DataBusReadFn) : Stage → M6502 → M6502
  | .InstructionFetch => ext.InstructionFetch bus | .InstructionFetchIRQ => ext.InstructionFetchIRQ bus
  | .sb_1_T1 => sb_1_T1 ext bus | .sb_jam_T1 => sb_jam_T1 ext bus | .imm_2_1_T1 => imm_2_1_T1 ext bus
  | .rel_5_8_T1 => rel_5_8_T1 ext bus | .rel_5_8_T2 => ext.rel_5_8_T2 bus | .rel_5_8_T3 => rel_5_8_T3
  | .zp_2_1_T1 => zp_2_1_T1 bus | .zp_2_1_T2 => zp_2_1_T2 ext bus
  | .zp_3_1_T1 => zp_3_1_T1 bus | .zp_3_1_T2 => zp_3_1_T2 ext bus
  | .abs_2_3_T1 => abs_2_3_T1 bus | .abs_2_3_T2 => abs_2_3_T2 bus | .abs_2_3_T3 => abs_2_3_T3 ext bus
  | .abs_3_2_T1 => abs_3_2_T1 bus | .abs_3_2_T2 => abs_3_2_T2 bus | .abs_3_2_T3 => abs_3_2_T3 ext bus
  | .idx_2_4_T1 => idx_2_4_T1 bus | .idx_2_4_T2 => idx_2_4_T2 | .idx_2_4_T3 => idx_2_4_T3 bus
  | .idx_2_4_T4 => idx_2_4_T4 bus | .idx_2_4_T5 => idx_2_4_T5 ext bus
  | .idx_3_3_T1 => idx_3_3_T1 bus | .idx_3_3_T2 => idx_3_3_T2 | .idx_3_3_T3 => idx_3_3_T3 bus
  | .idx_3_3_T4 => idx_3_3_T4 bus | .idx_3_3_T5 => idx_3_3_T5 ext bus
  | .idx_Undoc_T1 => idx_Undoc_T1 bus | .idx_Undoc_T2 => idx_Undoc_T2
  | .idx_Undoc_T3 => idx_Undoc_T3 bus | .idx_Undoc_T4 => idx_Undoc_T4 bus
  | .idx_Undoc_T5 => idx_Undoc_T5 bus | .idx_Undoc_T6 => idx_Undoc_T6
  | .idx_Undoc_T7 => idx_Undoc_T7 ext bus
  | .absx_2_5_T1 => absx_2_5_T1 bus | .absx_2_5_T2 => absx_2_5_T2 bus
  | .absx_2_5_T3 => ext.absx_2_5_T3 bus | .absx_2_5_T4 => absx_2_5_T4 ext bus
  | .absx_3_4_T1 => absx_3_4_T1 bus | .absx_3_4_T2 => absx_3_4_T2 bus
  | .absx_3_4_T3 => absx_3_4_T3 | .absx_3_4_T4 => absx_3_4_T4 ext bus
  | .absy_2_5_T1 => absy_2_5_T1 bus | .absy_2_5_T2 => absy_2_5_T2 bus
  | .absy_2_5_T3 => ext.absy_2_5_T3 bus | .absy_2_5_T4 => absy_2_5_T4 ext bus
  | .absy_3_4_T1 => absy_3_4_T1 bus | .absy_3_4_T2 => absy_3_4_T2 bus
  | .absy_3_4_T3 => absy_3_4_T3 | .absy_3_4_T4 => absy_3_4_T4 ext bus
  | .zpx_2_6_T1 => zpx_2_6_T1 bus | .zpx_2_6_T2 => zpx_2_6_T2 | .zpx_2_6_T3 => zpx_2_6_T3 ext bus
  | .zpx_3_5_T1 => zpx_3_5_T1 bus | .zpx_3_5_T2 => zpx_3_5_T2 | .zpx_3_5_T3 => zpx_3_5_T3 ext bus
  | .zpy_2_6_T1 => zpy_2_6_T1 bus | .zpy_2_6_T2 => zpy_2_6_T2 | .zpy_2_6_T3 => zpy_2_6_T3 ext bus
  | .zpy_3_5_T1 => zpy_3_5_T1 bus | .zpy_3_5_T2 => zpy_3_5_T2 | .zpy_3_5_T3 => zpy_3_5_T3 ext bus
  | .idy_2_7_T1 => idy_2_7_T1 bus | .idy_2_7_T2 => idy_2_7_T2 bus | .idy_2_7_T3 => idy_2_7_T3 bus
  | .idy_2_7_T4 => ext.idy_2_7_T4 bus | .idy_2_7_T5 => idy_2_7_T5 ext bus
  | .idy_3_6_T1 => idy_3_6_T1 bus | .idy_3_6_T2 => idy_3_6_T2 bus | .idy_3_6_T3 => idy_3_6_T3 bus
  | .idy_3_6_T4 => idy_3_6_T4 | .idy_3_6_T5 => idy_3_6_T5 ext bus
  | .idy_Undoc_T1 => idy_Undoc_T1 bus | .idy_Undoc_T2 => idy_Undoc_T2 bus
  | .idy_Undoc_T3 => idy_Undoc_T3 bus | .idy_Undoc_T4 => idy_Undoc_T4
  | .idy_Undoc_T5 => idy_Undoc_T5 bus | .idy_Undoc_T6 => idy_Undoc_T6
  | .idy_Undoc_T7 => idy_Undoc_T7 ext bus
  | .zp_4_1_T1 => zp_4_1_T1 bus | .zp_4_1_T2 => zp_4_1_T2 bus | .zp_4_1_T3 => zp_4_1_T3
  | .zp_4_1_T4 => zp_4_1_T4 ext bus
  | .abs_4_2_T1 => abs_4_2_T1 bus | .abs_4_2_T2 => abs_4_2_T2 bus | .abs_4_2_T3 => abs_4_2_T3 bus
  | .abs_4_2_T4 => abs_4_2_T4 | .abs_4_2_T5 => abs_4_2_T5 ext bus
  | .zpx_4_3_T1 => zpx_4_3_T1 bus | .zpx_4_3_T2 => zpx_4_3_T2 | .zpx_4_3_T3 => zpx_4_3_T3 bus
  | .zpx_4_3_T4 => zpx_4_3_T4 | .zpx_4_3_T5 => zpx_4_3_T5 ext bus
  | .absx_4_4_T1 => absx_4_4_T1 bus | .absx_4_4_T2 => absx_4_4_T2 bus | .absx_4_4_T3 => absx_4_4_T3
  | .absx_4_4_T4 => absx_4_4_T4 bus | .absx_4_4_T5 => absx_4_4_T5
  | .absx_4_4_T6 => absx_4_4_T6 ext bus
  | .absy_4_4_T1 => absy_4_4_T1 bus | .absy_4_4_T2 => absy_4_4_T2 bus | .absy_4_4_T3 => absy_4_4_T3
  | .absy_4_4_T4 => absy_4_4_T4 bus | .absy_4_4_T5 => absy_4_4_T5
  | .absy_4_4_T6 => absy_4_4_T6 ext bus
  | .ph_5_1_T1 => ph_5_1_T1 | .ph_5_1_T2 => ph_5_1_T2 ext bus
  | .pl_5_2_T1 => pl_5_2_T1 | .pl_5_2_T2 => pl_5_2_T2 | .pl_5_2_T3 => pl_5_2_T3 ext bus
  | .jsr_5_3_T1 => jsr_5_3_T1 bus | .jsr_5_3_T2 => jsr_5_3_T2 | .jsr_5_3_T3 => jsr_5_3_T3
  | .jsr_5_3_T4 => jsr_5_3_T4 | .jsr_5_3_T5 => jsr_5_3_T5 ext bus
  | .rti_5_5_T1 => rti_5_5_T1 | .rti_5_5_T2 => rti_5_5_T2 | .rti_5_5_T3 => rti_5_5_T3 bus
  | .rti_5_5_T4 => rti_5_5_T4 bus | .rti_5_5_T5 => rti_5_5_T5 ext bus
  | .abs5_6_1_T1 => abs5_6_1_T1 bus | .abs5_6_1_T2 => abs5_6_1_T2 ext bus
  | .abs5_6_2_T1 => abs5_6_2_T1 bus | .abs5_6_2_T2 => abs5_6_2_T2 bus
  | .abs5_6_2_T3 => abs5_6_2_T3 bus | .abs5_6_2_T4 => abs5_6_2_T4 ext bus
  | .rts_5_7_T1 => rts_5_7_T1 | .rts_5_7_T2 => rts_5_7_T2 | .rts_5_7_T3 => rts_5_7_T3 bus
  | .rts_5_7_T4 => rts_5_7_T4 bus | .rts_5_7_T5 => rts_5_7_T5 ext bus
  | .brk_5_4_T1 => brk_5_4_T1 | .brk_5_4_T2 => brk_5_4_T2 | .brk_5_4_T3 => brk_5_4_T3
  | .brk_5_4_T4 => ext.brk_5_4_T4 bus | .brk_5_4_T5 => brk_5_4_T5 bus
  | .brk_5_4_T6 => brk_5_4_T6 ext bus
  | .Reset_T0 => Reset_T0 | .Reset_T1 => Reset_T1 | .Reset_T2 => Reset_T2 | .Reset_T3 => Reset_T3
  | .Reset_T4 => Reset_T4 | .Reset_T5 => Reset_T5 bus | .Reset_T6 => Reset_T6 bus
  | .IRQ_T1 => IRQ_T1 | .IRQ_T2 => IRQ_T2 | .IRQ_T3 => IRQ_T3 | .IRQ_T4 => ext.IRQ_T4 bus
  | .IRQ_T5 => IRQ_T5 bus | .IRQ_T6 => IRQ_T6 bus

/-- Modelled from the spec: `Step()` is defined in m6502.cpp; with
`SUPPORT_RDY_HALTING` off it calls the function `addressModeCycleFn` names (§4.2). -/
def step (ext : OutOfLine) (bus : DataBusReadFn) (s : M6502) : M6502 :=
  stageCycle ext bus s.addressModeCycleFn s

/-- `n` calls of `Step()`. -/
def run (ext : OutOfLine) (bus : DataBusReadFn) : Nat → M6502 → M6502
  | 0, s => s
  | n + 1, s => run ext bus n (step ext bus s)

/-- The SYNC pin: the next `Step()` is `InstructionFetch`. -/
def SYNC (s : M6502) : Bool := s.addressModeCycleFn = .InstructionFetch

/-- The SO pin sets V at once. -/
def SO (s : M6502) : M6502 := { s with status := setV s.status }

/-- Whether m6502.h itself defines the cycle function. -/
def Stage.inHeader : Stage → Bool
  | .InstructionFetch | .InstructionFetchIRQ | .rel_5_8_T2 | .absx_2_5_T3 | .absy_2_5_T3
  | .idy_2_7_T4 | .brk_5_4_T4 | .IRQ_T4 => false
  | _ => true

/-! ## The cursor each cycle leaves -/

/-- The cycle each cycle function of m6502.h schedules: the next cycle of its chain,
or `InstructionFetch` after `ExecuteOpcode`. Out-of-line cycles, whose successor
m6502.cpp decides, and `rel_5_8_T1`, whose body decides, map to themselves. -/
def Stage.next : Stage → Stage
  | .zp_2_1_T1 => .zp_2_1_T2 | .zp_3_1_T1 => .zp_3_1_T2
  | .abs_2_3_T1 => .abs_2_3_T2 | .abs_2_3_T2 => .abs_2_3_T3
  | .abs_3_2_T1 => .abs_3_2_T2 | .abs_3_2_T2 => .abs_3_2_T3
  | .idx_2_4_T1 => .idx_2_4_T2 | .idx_2_4_T2 => .idx_2_4_T3 | .idx_2_4_T3 => .idx_2_4_T4
  | .idx_2_4_T4 => .idx_2_4_T5
  | .idx_3_3_T1 => .idx_3_3_T2 | .idx_3_3_T2 => .idx_3_3_T3 | .idx_3_3_T3 => .idx_3_3_T4
  | .idx_3_3_T4 => .idx_3_3_T5
  | .idx_Undoc_T1 => .idx_Undoc_T2 | .idx_Undoc_T2 => .idx_Undoc_T3
  | .idx_Undoc_T3 => .idx_Undoc_T4 | .idx_Undoc_T4 => .idx_Undoc_T5
  | .idx_Undoc_T5 => .idx_Undoc_T6 | .idx_Undoc_T6 => .idx_Undoc_T7
  | .absx_2_5_T1 => .absx_2_5_T2 | .absx_2_5_T2 => .absx_2_5_T3
  | .absx_3_4_T1 => .absx_3_4_T2 | .absx_3_4_T2 => .absx_3_4_T3 | .absx_3_4_T3 => .absx_3_4_T4
  | .absy_2_5_T1 => .absy_2_5_T2 | .absy_2_5_T2 => .absy_2_5_T3
  | .absy_3_4_T1 => .absy_3_4_T2 | .absy_3_4_T2 => .absy_3_4_T3 | .absy_3_4_T3 => .absy_3_4_T4
  | .zpx_2_6_T1 => .zpx_2_6_T2 | .zpx_2_6_T2 => .zpx_2_6_T3
  | .zpx_3_5_T1 => .zpx_3_5_T2 | .zpx_3_5_T2 => .zpx_3_5_T3
  | .zpy_2_6_T1 => .zpy_2_6_T2 | .zpy_2_6_T2 => .zpy_2_6_T3
  | .zpy_3_5_T1 => .zpy_3_5_T2 | .zpy_3_5_T2 => .zpy_3_5_T3
  | .idy_2_7_T1 => .idy_2_7_T2 | .idy_2_7_T2 => .idy_2_7_T3 | .idy_2_7_T3 => .idy_2_7_T4
  | .idy_3_6_T1 => .idy_3_6_T2 | .idy_3_6_T2 => .idy_3_6_T3 | .idy_3_6_T3 => .idy_3_6_T4
  | .idy_3_6_T4 => .idy_3_6_T5
  | .idy_Undoc_T1 => .idy_Undoc_T2 | .idy_Undoc_T2 => .idy_Undoc_T3
  | .idy_Undoc_T3 => .idy_Undoc_T4 | .idy_Undoc_T4 => .idy_Undoc_T5
  | .idy_Undoc_T5 => .idy_Undoc_T6 | .idy_Undoc_T6 => .idy_Undoc_T7
  | .zp_4_1_T1 => .zp_4_1_T2 | .zp_4_1_T2 => .zp_4_1_T3 | .zp_4_1_T3 => .zp_4_1_T4
  | .abs_4_2_T1 => .abs_4_2_T2 | .abs_4_2_T2 => .abs_4_2_T3 | .abs_4_2_T3 => .abs_4_2_T4
  | .abs_4_2_T4 => .abs_4_2_T5
  | .zpx_4_3_T1 => .zpx_4_3_T2 | .zpx_4_3_T2 => .zpx_4_3_T3 | .zpx_4_3_T3 => .zpx_4_3_T4
  | .zpx_4_3_T4 => .zpx_4_3_T5
  | .absx_4_4_T1 => .absx_4_4_T2 | .absx_4_4_T2 => .absx_4_4_T3 | .absx_4_4_T3 => .absx_4_4_T4
  | .absx_4_4_T4 => .absx_4_4_T5 | .absx_4_4_T5 => .absx_4_4_T6
  | .absy_4_4_T1 => .absy_4_4_T2 | .absy_4_4_T2 => .absy_4_4_T3 | .absy_4_4_T3 => .absy_4_4_T4
  | .absy_4_4_T4 => .absy_4_4_T5 | .absy_4_4_T5 => .absy_4_4_T6
  | .ph_5_1_T1 => .ph_5_1_T2 | .pl_5_2_T1 => .pl_5_2_T2 | .pl_5_2_T2 => .pl_5_2_T3
  | .jsr_5_3_T1 => .jsr_5_3_T2 | .jsr_5_3_T2 => .jsr_5_3_T3 | .jsr_5_3_T3 => .jsr_5_3_T4
  | .jsr_5_3_T4 => .jsr_5_3_T5
  | .rti_5_5_T1 => .rti_5_5_T2 | .rti_5_5_T2 => .rti_5_5_T3 | .rti_5_5_T3 => .rti_5_5_T4
  | .rti_5_5_T4 => .rti_5_5_T5
  | .abs5_6_1_T1 => .abs5_6_1_T2
  | .abs5_6_2_T1 => .abs5_6_2_T2 | .abs5_6_2_T2 => .abs5_6_2_T3 | .abs5_6_2_T3 => .abs5_6_2_T4
  | .rts_5_7_T1 => .rts_5_7_T2 | .rts_5_7_T2 => .rts_5_7_T3 | .rts_5_7_T3 => .rts_5_7_T4
  | .rts_5_7_T4 => .rts_5_7_T5
  | .brk_5_4_T1 => .brk_5_4_T2 | .brk_5_4_T2 => .brk_5_4_T3 | .brk_5_4_T3 => .brk_5_4_T4
  | .brk_5_4_T5 => .brk_5_4_T6
  | .Reset_T0 => .Reset_T1 | .Reset_T1 => .Reset_T2 | .Reset_T2 => .Reset_T3
  | .Reset_T3 => .Reset_T4 | .Reset_T4 => .Reset_T5 | .Reset_T5 => .Reset_T6
  | .IRQ_T1 => .IRQ_T2 | .IRQ_T2 => .IRQ_T3 | .IRQ_T3 => .IRQ_T4 | .IRQ_T5 => .IRQ_T6
  | .IRQ_T6 => .InstructionFetchIRQ
  | .InstructionFetch => .InstructionFetch | .InstructionFetchIRQ => .InstructionFetchIRQ
  | .rel_5_8_T1 => .rel_5_8_T1 | .rel_5_8_T2 => .rel_5_8_T2 | .absx_2_5_T3 => .absx_2_5_T3
  | .absy_2_5_T3 => .absy_2_5_T3 | .idy_2_7_T4 => .idy_2_7_T4 | .brk_5_4_T4 => .brk_5_4_T4
  | .IRQ_T4 => .IRQ_T4
  | _ => .InstructionFetch

/-- A cycle of m6502.h whose successor is fixed by the cycle itself. -/
def Stage.fixedNext (t : Stage) : Bool := t.inHeader && t != .rel_5_8_T1

/-- Every such cycle leaves `Stage.next` as the cursor, from every state and bus. -/
theorem addressModeCycleFn_stageCycle (ext : OutOfLine) (bus : DataBusReadFn) (s : M6502)
    {t : Stage} (ht : t.fixedNext) :
    (stageCycle ext bus t s).addressModeCycleFn = t.next := by
  cases t <;> first | rfl | simp [Stage.fixedNext, Stage.inHeader] at ht

/-! ## What a cycle does to `value` and `status` -/

section Effect

variable (ext : OutOfLine) (bus : DataBusReadFn)

/-- A cycle m6502.h only declares is the function m6502.cpp gives for it. -/
theorem stageCycle_of_not_inHeader {t : Stage} (ht : t.inHeader = false) :
    ∃ f ∈ [ext.InstructionFetch, ext.InstructionFetchIRQ, ext.rel_5_8_T2, ext.absx_2_5_T3,
      ext.absy_2_5_T3, ext.idy_2_7_T4, ext.brk_5_4_T4, ext.IRQ_T4],
      stageCycle ext bus t = f bus := by
  cases t <;> first | exact absurd ht (by decide) | exact ⟨_, by simp, rfl⟩

/-- What a cycle of m6502.h does to `value` and `status` before the body it runs, if any:
`value` is kept or loaded with a byte, `status` is kept or gets I set or B cleared. -/
structure CycleEffect (s r : M6502) : Prop where
  value : r.value = s.value ∨ ∃ b : BitVec 8, r.value = b.setWidth 16
  status : r.status = s.status ∨ r.status = setI s.status ∨ r.status = clearB s.status

/-- Every cycle of m6502.h but `rti_5_5_T3` is a `CycleEffect`, followed by
`ExecuteOpcode` in a chain's last cycle, or by the body alone in `rel_5_8_T1`. -/
theorem stageCycle_frame {t : Stage} (ht : t.inHeader) (hrti : t ≠ .rti_5_5_T3) (s : M6502) :
    ∃ r, (stageCycle ext bus t s = r ∨ stageCycle ext bus t s = executeOpcode ext bus r ∨
      stageCycle ext bus t s = opcodeCycle ext bus r.opcodeCycleFn r) ∧ CycleEffect s r := by
  cases t
  case rti_5_5_T3 => exact absurd rfl hrti
  case InstructionFetch | InstructionFetchIRQ | rel_5_8_T2 | absx_2_5_T3 | absy_2_5_T3
    | idy_2_7_T4 | brk_5_4_T4 | IRQ_T4 => exact absurd ht (by decide)
  case rel_5_8_T1 => exact ⟨s, .inr (.inr rfl), .inl rfl, .inl rfl⟩
  case Reset_T4 => exact ⟨_, .inl rfl, .inl rfl, .inr (.inr rfl)⟩
  case IRQ_T6 => exact ⟨_, .inl rfl, .inl rfl, .inr (.inl rfl)⟩
  case brk_5_4_T6 => exact ⟨_, .inr (.inl rfl), .inl rfl, .inr (.inl rfl)⟩
  case zp_4_1_T2 | abs_4_2_T3 | zpx_4_3_T3 | absx_4_4_T4 | absy_4_4_T4 | idx_Undoc_T5
    | idy_Undoc_T5 => exact ⟨_, .inl rfl, .inr ⟨_, rfl⟩, .inl rfl⟩
  case sb_1_T1 | imm_2_1_T1 | zp_2_1_T2 | abs_2_3_T3 | idx_2_4_T5 | absx_2_5_T4 | absy_2_5_T4
    | zpx_2_6_T3 | zpy_2_6_T3 | idy_2_7_T5 => exact ⟨_, .inr (.inl rfl), .inr ⟨_, rfl⟩, .inl rfl⟩
  case sb_jam_T1 | zp_3_1_T2 | abs_3_2_T3 | idx_3_3_T5 | idx_Undoc_T7 | absx_3_4_T4
    | absy_3_4_T4 | zpx_3_5_T3 | zpy_3_5_T3 | idy_3_6_T5 | idy_Undoc_T7 | zp_4_1_T4 | abs_4_2_T5
    | zpx_4_3_T5 | absx_4_4_T6 | absy_4_4_T6 | ph_5_1_T2 | pl_5_2_T3 | jsr_5_3_T5 | rti_5_5_T5
    | abs5_6_1_T2 | abs5_6_2_T4 | rts_5_7_T5 => exact ⟨_, .inr (.inl rfl), .inl rfl, .inl rfl⟩
  all_goals exact ⟨_, .inl rfl, .inl rfl, .inl rfl⟩

end Effect
end Cpu6502
