import Chip8.Product
import Chip8.Text.Hex

/-!
# Faults

Everything that can stop the machine or refuse a request to it, with the wording shown to the user.
-/

namespace Chip8

/-- What is known about an instruction that the architecture does not have. -/
structure CrashReport where
  /-- Number of the architecture that refused the instruction, as reports show it. -/
  arch : String
  /-- Number that was to be executed. -/
  opcode : Int
  /-- Address from which it was fetched. -/
  address : Int
  /-- Registers, flags and call stack at that moment, as text. -/
  state : String
deriving DecidableEq, Repr

namespace CrashReport

/-- The full report on several lines. -/
def text (report : CrashReport) : String :=
  "Emulation halted.\n\n" ++ Product.intro ++ "Debug info (arch " ++ report.arch
    ++ "):\n" ++ report.state ++ "\n\nOpcode 0x" ++ Text.Hex.text 4 report.opcode
    ++ " at address 0x" ++ Text.Hex.text 3 report.address
    ++ " is not emulated for the selected architecture."

end CrashReport

/-- Why the machine or a part of it refuses. -/
inductive Fault where
  /-- An address outside memory. -/
  | outOfBounds (address : Int)
  /-- A call with no room left for its return address. -/
  | stackOverflow
  /-- A return with no call outstanding. -/
  | stackUnderflow
  /-- An instruction that the architecture does not have. -/
  | unsupported (report : CrashReport)
  /-- A number that is no 16-bit instruction word. -/
  | notAWord
  /-- A key that the keypad does not have. -/
  | noSuchKey (key : Int)
  /-- A selection of display planes that do not all exist. -/
  | noSuchPlanes
  /-- A pixel that lies outside the plane even when counted from its end. -/
  | noSuchPixel
  /-- Wrapping around a screen without pixels. -/
  | emptyScreen
  /-- A number that does not fit a byte. -/
  | notAByte
  /-- A register beyond those that there are. -/
  | noSuchRegister
  /-- A negative number of cells. -/
  | negativeCount
  /-- A number of cells that is too long a number. -/
  | countTooLong
  /-- A negative number of display planes. -/
  | negativePlanes
  /-- A screen without display planes. -/
  | noPlanes
deriving DecidableEq, Repr

namespace Fault

/-- The wording shown to the user. -/
def message : Fault → String
  | .outOfBounds address => "Memory access out of bounds at 0x" ++ Text.Hex.text 4 address
  | .stackOverflow => "Stack overflow"
  | .stackUnderflow => "Stack underflow"
  | .unsupported report => report.text
  | .notAWord => "Opcode is wider than 16 bits"
  | .noSuchKey key => "Key " ++ toString key ++ " is out of range"
  | .noSuchPlanes => "Selected display plane is out of range for this architecture"
  | .noSuchPixel => "Pixel is outside the screen"
  | .emptyScreen => "Screen has no pixels"
  | .notAByte => "Number does not fit a byte"
  | .noSuchRegister => "Register is missing"
  | .negativeCount => "Size is negative"
  | .countTooLong => "Size is too long a number"
  | .negativePlanes => "Number of display planes is negative"
  | .noPlanes => "Screen has no display planes"

/-- Whether the fault is one that programs cause, so that it ends a session with a report. -/
def isReported : Fault → Bool
  | .outOfBounds _ | .stackOverflow | .stackUnderflow | .unsupported _ | .noSuchKey _
  | .noSuchPlanes => true
  | _ => false

end Fault

end Chip8
