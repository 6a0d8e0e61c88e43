import Chip8.BoundedStack
import Chip8.Dialect
import Chip8.Font
import Chip8.Instruction
import Chip8.Memory
import Chip8.Registers

/-!
# Machine

Everything that a running program can observe or change.  A machine refers to nothing outside
itself, so keeping the value is keeping the state.
-/

namespace Chip8

/-- Return addresses of outstanding calls. -/
abbrev CallStack := BoundedStack Int

/-- A slot for a return address that was never used holds address zero. -/
instance CallStack.unusedSlot : Zero Int := ⟨0⟩

/-- The state of a machine. -/
structure Machine where
  /-- Main memory. -/
  memory : Memory
  /-- Return addresses of outstanding calls. -/
  stack : CallStack
  /-- The display. -/
  screen : Screen
  /-- Flags that outlive a reset. -/
  flags : Registers
  /-- Address of the next instruction. -/
  pc : Int
  /-- General registers V0 to VF. -/
  v : Registers
  /-- The index register I. -/
  index : Int
  /-- Delay timer. -/
  delay : Int
  /-- Sound timer. -/
  sound : Int
  /-- Whether the buzzer is on. -/
  beeping : Bool
  /-- Which keys are held. -/
  keys : Vector Bool 16
  /-- Whether high resolution is chosen. -/
  highRes : Bool
  /-- Whether the current instruction is the first one of a frame. -/
  keyFrame : Bool
  /-- Whether the word after the current one starts a long instruction. -/
  nextWide : Bool
  /-- The sampled sound, one bit a sample. -/
  pattern : Registers
  /-- Pitch of the sampled sound. -/
  pitch : UInt8
deriving DecidableEq, Repr

namespace Machine

/-- Address at which programs are loaded and started. -/
def programStart : Nat := 0x200

/-- Number of return addresses that fit on the stack. -/
def stackCapacity : Nat := 16

/-- The pitch of a machine that is switched on. -/
def standardPitch : UInt8 := 64

/-- The pattern of a machine that is switched on: a square wave. -/
def standardPattern : Registers :=
  #[0x00, 0xFF, 0x00, 0xFF, 0x00, 0xFF, 0x00, 0xFF,
    0x00, 0xFF, 0x00, 0xFF, 0x00, 0xFF, 0x00, 0xFF]

/-- The state after switching off and on, apart from the flags, which survive.  The loaded program
is lost. -/
def reset (arch : Arch) (machine : Machine) : Machine where
  memory :=
    ((machine.memory.clear 0).patch Font.smallStart Font.small).patch Font.largeStart Font.large
  stack := machine.stack.clear
  screen := { machine.screen.reset with lowRes := arch.includes .superChip }
  flags := machine.flags
  pc := programStart
  v := .zeros
  index := 0
  delay := 0
  sound := 0
  beeping := false
  keys := Vector.replicate 16 false
  highRes := false
  keyFrame := true
  nextWide := false
  pattern := standardPattern
  pitch := standardPitch

/-- A machine without fonts, in the form in which it is first assembled. -/
def assemble (arch : Arch) (dialect : Dialect) : Machine where
  memory := .zeros arch.memorySize
  stack := .empty stackCapacity
  screen := .blank arch.screenWidth arch.screenHeight 2 (!dialect .clipping)
  flags := .zeros
  pc := programStart
  v := .zeros
  index := 0
  delay := 0
  sound := 0
  beeping := false
  keys := Vector.replicate 16 false
  highRes := false
  keyFrame := true
  nextWide := false
  pattern := standardPattern
  pitch := standardPitch

/-- A machine that has just been switched on for the first time. -/
def powerOn (arch : Arch) (dialect : Dialect) : Machine := (assemble arch dialect).reset arch

/-- Put a program into memory. -/
def load (machine : Machine) (program : Array UInt8) : Except Fault Machine := do
  let memory ← machine.memory.writeBlock programStart program
  return { machine with memory }

/-- A timer one tick later; it stops at zero. -/
def countDown (timer : Int) : Int := if 0 < timer then timer - 1 else timer

/-- Count both timers down; the buzzer sounds while the sound timer is still running. -/
def tick (machine : Machine) : Machine :=
  let sound := countDown machine.sound
  { machine with
    delay := countDown machine.delay
    sound
    beeping := 0 < sound }

/-- Press or release a key. -/
def setKey (machine : Machine) (key : Int) (held : Bool) : Except Fault Machine :=
  if h : 0 ≤ key ∧ key < 16 then
    .ok { machine with keys := machine.keys.set key.toNat held }
  else
    .error (.noSuchKey key)

/-- The lowest key that is held. -/
def lowestKey? (machine : Machine) : Option Digit :=
  (List.finRange 16).find? machine.keys.get

end Machine

end Chip8
