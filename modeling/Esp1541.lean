import Esp1541.Cpu6502.Machine
import Esp1541.Cpu6502.Opcodes
import Esp1541.Cpu6502.Stages
import Esp1541.Cpu6502.Chains
import Esp1541.Cpu6502.CycleLaw
import Esp1541.Cpu6502.Status
import Esp1541.Cpu6502.Sync
import Esp1541.Cpu6502.Stack
import Esp1541.Cpu6502.Interrupts
import Esp1541.Cpu6502.HighStores
import Esp1541.Cpu6502.Addressing
import Esp1541.Cpu6502.BodySpec
import Esp1541.Cpu6502.Branches
import Esp1541.Cpu6502.Programs
import Esp1541.Cpu6502.Scratch
import Esp1541.Cpu6502.ReadModifyWrite
import Esp1541.Cpu6502.Operand
import Esp1541.Cpu6502.CodeTable
import Esp1541.Cpu6502.Atomic
import Esp1541.Cpu6502.InertReads
import Esp1541.Iec.Commands
import Esp1541.Screen.Framebuffer
import Esp1541.Screen.Text
import Esp1541.Screen.Lines
import Esp1541.Uart.PrintNumber
