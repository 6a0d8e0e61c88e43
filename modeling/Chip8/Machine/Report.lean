import Chip8.Machine
import Chip8.Text.Hex

/-!
# Reports

The state of a machine as text: one line for live debugging, two more with the flags and the call
stack for crash reports, and a short one for traces.  Registers are listed from VF down to V0 in
all but the short one.
-/

namespace Chip8

open Text

namespace Machine

/-- Sixteen registers as one hexadecimal number with VF in front. -/
def registersText (registers : Registers) : String :=
  "0x" ++ Hex.bytes (registers.upTo 15).toList.reverse

/-- The line that names an instruction, the state in which it was met, the word it was read from
and the address of that word. -/
def line (machine : Machine) (fetchedFrom opcode : Int) (instruction : String) : String :=
  "V: " ++ registersText machine.v
    ++ " I: 0x" ++ Hex.text 4 machine.index
    ++ " DT: 0x" ++ Hex.text 2 machine.delay
    ++ " ST: 0x" ++ Hex.text 2 machine.sound
    ++ " PC: 0x" ++ Hex.text 3 fetchedFrom
    ++ " OP: 0x" ++ Hex.text 4 opcode
    ++ " IN: " ++ instruction

/-- The outstanding return addresses, oldest first. -/
def stackText (machine : Machine) : String :=
  match machine.stack.toList with
  | [] => "(Empty)"
  | addresses => " ".intercalate (addresses.map fun address => "0x" ++ Hex.text 3 address)

/-- The line followed by flags and call stack. -/
def fullReport (machine : Machine) (fetchedFrom opcode : Int) (instruction : String) : String :=
  machine.line fetchedFrom opcode instruction
    ++ "\nRPL: " ++ registersText machine.flags
    ++ "\nStack: " ++ machine.stackText

/-- Program counter, index, registers from V0 on and number of outstanding calls. -/
def summary (machine : Machine) : String :=
  " ".intercalate
    [Hex.text 4 machine.pc, Hex.text 4 machine.index, Hex.bytes machine.v.toList,
      toString machine.stack.depth]

end Machine

end Chip8
