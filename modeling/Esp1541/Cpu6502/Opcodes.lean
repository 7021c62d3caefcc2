import Esp1541.Cpu6502.Machine

/-!
# Opcode bodies

The opcode functions of m6502.h, each a function of the state. Bodies reach the bus
through `push`, `pull` and `writeValue`; `writeValue` stores into `a` when the cycle
running the body is `sb_1_T1` (accumulator addressing) and writes at `ea` otherwise.
The eight branches share `branchCondition` (the `BRANCH_CONDITION` macro) and the three
compares share `compare`.

`ADC`, `SBC` and `ARR` are defined out of line and come from `OutOfLine`; `ISB` and
`RRA` call them. `opcodeCycle` is the dispatch through `opcodeCycleFn`.
-/

namespace Cpu6502

/-- `XAA_MAGIC`, measured on 1541 drives. -/
def xaaMagic : BitVec 16 := 0xee
/-- `LXA_MAGIC`, measured on 1541 drives. -/
def lxaMagic : BitVec 16 := 0xee

/-! ## Stack and result helpers -/

/-- The stack slot `sp` points at: `0x100 + sp`. -/
def stackAddress (sp : BitVec 8) : BitVec 16 := 0x100 + sp.setWidth 16

/-- Distinct `sp` values name distinct slots of page 1. -/
@[simp] theorem stackAddress_inj {a b : BitVec 8} : stackAddress a = stackAddress b ↔ a = b :=
  ⟨fun h => by simp only [stackAddress] at h; bv_omega, congrArg _⟩

/-- `Push(val)`: write at `0x100 + sp`, then `sp--`. -/
@[simps]
def push (val : BitVec 8) (s : M6502) : M6502 :=
  { s.log (.write (stackAddress s.sp) val) with sp := s.sp - 1 }

/-- The state after `Pull()`: `++sp`, then a read at `0x100 + sp`. -/
@[simps]
def pull (s : M6502) : M6502 :=
  { s.log (.read (stackAddress (s.sp + 1))) with sp := s.sp + 1 }

/-- The byte `Pull()` returns. -/
def pulled (bus : DataBusReadFn) (s : M6502) : BitVec 8 :=
  bus s.trace (stackAddress (s.sp + 1))

/-- `WriteValue(byte)`: into `a` under accumulator addressing, else to the bus at `ea`. -/
def writeValue (byte : BitVec 8) (s : M6502) : M6502 :=
  if s.addressModeCycleFn = .sb_1_T1 then { s with a := byte } else s.log (.write s.ea byte)

theorem writeValue_of_sb_1_T1 {s : M6502} (h : s.addressModeCycleFn = .sb_1_T1) (byte : BitVec 8) :
    writeValue byte s = { s with a := byte } :=
  if_pos h

theorem writeValue_of_ne {s : M6502} (h : s.addressModeCycleFn ≠ .sb_1_T1) (byte : BitVec 8) :
    writeValue byte s = s.log (.write s.ea byte) :=
  if_neg h

@[simp] theorem writeValue_value (byte : BitVec 8) (s : M6502) :
    (writeValue byte s).value = s.value := by
  unfold writeValue
  split <;> rfl

/-- `BRANCH_CONDITION(flag, condition)`: read the offset at `pc++`, sign-extend it into
`ra`; if `(status & flag) == condition`, keep the old `pc` in `oldpc`, move the low
byte of `pc` and continue at `rel_5_8_T2`, else fetch. -/
def branchCondition (flag condition : BitVec 8) (bus : DataBusReadFn) (s : M6502) : M6502 :=
  let ra₀ := (bus s.trace s.pc).setWidth 16
  let ra := if ra₀ &&& 0x80 ≠ 0 then ra₀ ||| 0xFF00 else ra₀
  let pc := s.pc + 1
  let s' := { s.log (.read s.pc) with ea := ra, pc := pc }
  if s.status &&& flag = condition then
    { s' with ia := pc, pc := (pc &&& 0xff00) ||| ((pc + ra) &&& 0xff),
              addressModeCycleFn := .rel_5_8_T2 }
  else { s' with addressModeCycleFn := .InstructionFetch }

@[simp] theorem branchCondition_value (flag condition : BitVec 8) (bus : DataBusReadFn)
    (s : M6502) : (branchCondition flag condition bus s).value = s.value := by
  unfold branchCondition
  split <;> rfl

/-- The flag a branch tests, and the value of `status & flag` that takes it. -/
def Opcode.branch : Opcode → Option (BitVec 8 × BitVec 8)
  | .BCC => some (flagCarry, 0) | .BCS => some (flagCarry, flagCarry)
  | .BEQ => some (flagZero, flagZero) | .BMI => some (flagSign, flagSign)
  | .BNE => some (flagZero, 0) | .BPL => some (flagSign, 0)
  | .BVC => some (flagOverflow, 0) | .BVS => some (flagOverflow, flagOverflow)
  | _ => none

/-- The status after `CMP`, `CPX` or `CPY` with register `reg`. -/
def compare (reg : BitVec 8) (s : M6502) : BitVec 8 :=
  let result := reg.setWidth 16 - s.value
  establishN result (setZIf (reg = s.value.setWidth 8) (setCIf (s.value.setWidth 8 ≤ reg) s.status))

/-! ## Documented opcodes -/

section Bodies

variable (ext : OutOfLine) (bus : DataBusReadFn) (s : M6502)

def ANC : M6502 :=
  let result := s.a.setWidth 16 &&& s.value
  { s with status := setCIf (result &&& 0x0080 ≠ 0) (establishNZ result s.status),
           a := result.setWidth 8 }

def AND : M6502 :=
  let result := s.a.setWidth 16 &&& s.value
  { s with status := establishNZ result s.status, a := result.setWidth 8 }

def ASL : M6502 :=
  let result := s.value <<< 1
  writeValue (result.setWidth 8) { s with status := establishNZ result (establishC result s.status) }

def BCC : M6502 := branchCondition flagCarry 0 bus s
def BCS : M6502 := branchCondition flagCarry flagCarry bus s
def BEQ : M6502 := branchCondition flagZero flagZero bus s
def BMI : M6502 := branchCondition flagSign flagSign bus s
def BNE : M6502 := branchCondition flagZero 0 bus s
def BPL : M6502 := branchCondition flagSign 0 bus s
def BVC : M6502 := branchCondition flagOverflow 0 bus s
def BVS : M6502 := branchCondition flagOverflow flagOverflow bus s

def BIT : M6502 :=
  let result := s.a.setWidth 16 &&& s.value
  { s with status := establishN s.value (setVIf (s.value &&& 0x40 ≠ 0) (establishZ result s.status)) }

def CLC : M6502 := { s with status := clearC s.status }
def CLD : M6502 := { s with status := clearD s.status }
/-- `I` clears at once; `CLIMaskingInterrupt` holds the IRQ off for one more instruction. -/
def CLI : M6502 := { s with status := clearI s.status, CLIMaskingInterrupt := true }
def CLV : M6502 := { s with status := clearV s.status }

def CMP : M6502 := { s with status := compare s.a s }
def CPX : M6502 := { s with status := compare s.x s }
def CPY : M6502 := { s with status := compare s.y s }

def DEC : M6502 :=
  let result := s.value - 1
  writeValue (result.setWidth 8) { s with status := establishNZ result s.status }

def DEX : M6502 := { s with x := s.x - 1, status := establishNZ ((s.x - 1).setWidth 16) s.status }
def DEY : M6502 := { s with y := s.y - 1, status := establishNZ ((s.y - 1).setWidth 16) s.status }

def EOR : M6502 :=
  let result := s.a.setWidth 16 ^^^ s.value
  { s with status := establishNZ result s.status, a := result.setWidth 8 }

def INC : M6502 :=
  let result := s.value + 1
  writeValue (result.setWidth 8) { s with status := establishNZ result s.status }

def INX : M6502 := { s with x := s.x + 1, status := establishNZ ((s.x + 1).setWidth 16) s.status }
def INY : M6502 := { s with y := s.y + 1, status := establishNZ ((s.y + 1).setWidth 16) s.status }

def JMP : M6502 := { s with pc := s.ea }

def LDA : M6502 :=
  { s with a := s.value.setWidth 8, status := establishNZ ((s.value.setWidth 8).setWidth 16) s.status }
def LDX : M6502 :=
  { s with x := s.value.setWidth 8, status := establishNZ ((s.value.setWidth 8).setWidth 16) s.status }
def LDY : M6502 :=
  { s with y := s.value.setWidth 8, status := establishNZ ((s.value.setWidth 8).setWidth 16) s.status }

def LSR : M6502 :=
  let result := s.value >>> 1
  writeValue (result.setWidth 8)
    { s with status := establishNZ result (setCIf (s.value &&& 1 ≠ 0) s.status) }

def ORA : M6502 :=
  let result := s.a.setWidth 16 ||| s.value
  { s with status := establishNZ result s.status, a := result.setWidth 8 }

def PHA : M6502 := push s.a s
/-- B and U are pushed as 1. -/
def PHP : M6502 := push (s.status ||| flagConstant ||| flagBreak) s
def PLA : M6502 :=
  { pull s with a := pulled bus s, status := establishNZ ((pulled bus s).setWidth 16) s.status }
def PLP : M6502 := { pull s with status := pulled bus s ||| flagConstant }

def ROL : M6502 :=
  let result := (s.value <<< 1) ||| (s.status &&& flagCarry).setWidth 16
  writeValue (result.setWidth 8) { s with status := establishNZ result (establishC result s.status) }

def ROR : M6502 :=
  let result := (s.value >>> 1) ||| ((s.status &&& flagCarry).setWidth 16 <<< 7)
  writeValue (result.setWidth 8)
    { s with status := establishNZ result (setCIf (s.value &&& 1 ≠ 0) s.status) }

def SEC : M6502 := { s with status := setC s.status }
def SED : M6502 := { s with status := setD s.status }
def SEI : M6502 := { s with status := setI s.status }

def STA : M6502 := writeValue s.a s
def STX : M6502 := writeValue s.x s
def STY : M6502 := writeValue s.y s

def TAX : M6502 := { s with x := s.a, status := establishNZ (s.a.setWidth 16) s.status }
def TAY : M6502 := { s with y := s.a, status := establishNZ (s.a.setWidth 16) s.status }
def TSX : M6502 := { s with x := s.sp, status := establishNZ (s.sp.setWidth 16) s.status }
def TXA : M6502 := { s with a := s.x, status := establishNZ (s.x.setWidth 16) s.status }
def TXS : M6502 := { s with sp := s.x }
def TYA : M6502 := { s with a := s.y, status := establishNZ (s.y.setWidth 16) s.status }

/-! ## Undocumented opcodes -/

def ASR : M6502 :=
  let result := s.a.setWidth 16 &&& s.value
  let status := setCIf (result &&& 1 ≠ 0) s.status
  { s with status := establishNZ (result >>> 1) status, a := (result >>> 1).setWidth 8 }

def LXA : M6502 :=
  let result := (s.a.setWidth 16 ||| lxaMagic) &&& s.value
  { s with status := establishNZ result s.status, x := result.setWidth 8, a := result.setWidth 8 }

def LAX : M6502 := LDX (LDA s)

def LAS : M6502 :=
  let sp := s.sp &&& s.value.setWidth 8
  { s with sp := sp, x := sp, a := sp, status := establishNZ (sp.setWidth 16) s.status }

def SAX : M6502 := writeValue (s.a &&& s.x) s

def SBX : M6502 :=
  let result := (s.a &&& s.x).setWidth 16 - s.value
  let x := (result &&& 0xff).setWidth 8
  { s with x := x, status := setCIf (result < 0x100) (establishNZ (x.setWidth 16) s.status) }

/-- `WriteValue(((ea >> 8) + 1) & reg)`: the store of `SHA`, `SHY`, `SHX` and `SHS`, the
register ANDed with the high byte of `ea` plus one. -/
def storeHighAnd (reg : BitVec 8) : M6502 :=
  writeValue ((((s.ea >>> 8) + 1) &&& reg.setWidth 16).setWidth 8) s

/-- `WriteValue(a & x & ((ea >> 8) + 1))`. -/
def SHA : M6502 := storeHighAnd s (s.a &&& s.x)

def SHY : M6502 := storeHighAnd s s.y

def DCP : M6502 :=
  let result := (s.value - 1) &&& 0xff
  let status := setCIf (result.setWidth 8 ≤ s.a) s.status
  writeValue (result.setWidth 8)
    { s with status := establishNZ (s.a.setWidth 16 - (result.setWidth 8).setWidth 16) status }

def ISB : M6502 :=
  let v := (s.value + 1) &&& 0xff
  ext.SBC bus (writeValue (v.setWidth 8) { s with value := v })

def SLO : M6502 :=
  let result := s.value <<< 1
  let a := s.a ||| result.setWidth 8
  writeValue (result.setWidth 8)
    { s with a := a, status := establishNZ (a.setWidth 16) (establishC result s.status) }

def RLA : M6502 :=
  let result := (s.value <<< 1) ||| (s.status &&& flagCarry).setWidth 16
  let a := s.a &&& result.setWidth 8
  writeValue (result.setWidth 8)
    { s with a := a, status := establishNZ (a.setWidth 16) (establishC result s.status) }

def SRE : M6502 :=
  let result := s.value >>> 1
  let a := s.a ^^^ result.setWidth 8
  writeValue (result.setWidth 8)
    { s with a := a, status := establishNZ (a.setWidth 16) (setCIf (s.value &&& 1 ≠ 0) s.status) }

/-- The carry set here is the one `ADC` adds. -/
def RRA : M6502 :=
  let result := (s.value >>> 1) ||| ((s.status &&& flagCarry).setWidth 16 <<< 7)
  let s' := writeValue (result.setWidth 8) { s with status := setCIf (s.value &&& 1 ≠ 0) s.status }
  ext.ADC bus { s' with value := result &&& 0xff }

/-- `result = a & x; WriteValue(result & ((ea >> 8) + 1)); sp = result`. -/
def SHS : M6502 := { storeHighAnd s (s.a &&& s.x) with sp := s.a &&& s.x }

def SHX : M6502 := storeHighAnd s s.x

def XAA : M6502 :=
  let result := (s.a.setWidth 16 ||| xaaMagic) &&& s.x.setWidth 16 &&& (s.value.setWidth 8).setWidth 16
  { s with status := establishNZ result s.status, a := result.setWidth 8 }

end Bodies

/-- The body `opcodeCycleFn` names, run once: `(this->*opcodeCycleFn)()`. -/
def opcodeCycle (ext : OutOfLine) (bus : DataBusReadFn) : Opcode → M6502 → M6502
  | .ADC => ext.ADC bus | .ANC => ANC | .AND => AND | .ASL => ASL
  | .BCC => BCC bus | .BCS => BCS bus | .BEQ => BEQ bus | .BIT => BIT | .BMI => BMI bus
  | .BNE => BNE bus | .BPL => BPL bus | .BVC => BVC bus | .BVS => BVS bus | .BRK => id
  | .CLC => CLC | .CLD => CLD | .CLI => CLI | .CLV => CLV | .CMP => CMP | .CPX => CPX
  | .CPY => CPY | .DEC => DEC | .DEX => DEX | .DEY => DEY | .EOR => EOR | .INC => INC
  | .INX => INX | .INY => INY | .JAM => id | .JMP => JMP | .JSR => id | .LDA => LDA
  | .LDX => LDX | .LDY => LDY | .LSR => LSR | .NOP => id | .ORA => ORA | .PHA => PHA
  | .PHP => PHP | .PLA => PLA bus | .PLP => PLP bus | .ROL => ROL | .ROR => ROR
  | .RTI => id | .RTS => id | .SBC => ext.SBC bus | .SEC => SEC | .SED => SED
  | .SEI => SEI | .STA => STA | .STX => STX | .STY => STY | .TAX => TAX | .TAY => TAY
  | .TSX => TSX | .TXA => TXA | .TXS => TXS | .TYA => TYA
  | .ASR => ASR | .LXA => LXA | .ARR => ext.ARR bus | .LAX => LAX | .LAS => LAS
  | .SAX => SAX | .SBX => SBX | .SHA => SHA | .SHY => SHY | .DCP => DCP
  | .ISB => ISB ext bus | .SLO => SLO | .RLA => RLA | .SRE => SRE | .RRA => RRA ext bus
  | .SHS => SHS | .SHX => SHX | .XAA => XAA

/-- Each branch body is `BRANCH_CONDITION` at its own flag and value. -/
theorem opcodeCycle_of_branch (ext : OutOfLine) (bus : DataBusReadFn) {op : Opcode}
    {flag condition : BitVec 8} (h : op.branch = some (flag, condition)) :
    opcodeCycle ext bus op = branchCondition flag condition bus := by
  cases op <;> first | exact absurd h (by decide) | (cases h <;> rfl)

end Cpu6502
