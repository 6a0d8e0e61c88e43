import Chip8.Instruction.Decode
import Chip8.Instruction.Mnemonic
import Chip8.Machine.Report

/-!
# Processor

A machine together with the rules it follows and what is needed to report on it.  A step fetches a
word, decodes it and executes the instruction.  The processor never loops or waits by itself.
-/

namespace Chip8

/-- A machine that executes instructions. -/
structure Processor where
  /-- Architecture whose instructions are understood. -/
  arch : Arch
  /-- Dialect in which they are executed. -/
  dialect : Dialect
  /-- How reports show the architecture. -/
  label : String
  /-- Whether every instruction is announced before it is executed. -/
  live : Bool
  /-- The machine proper. -/
  machine : Machine
  /-- The number that was last handed over for execution. -/
  opcode : Int
  /-- Address of the instruction that was last fetched. -/
  fetchedFrom : Int
  /-- Random bytes still to be given out; zeros follow. -/
  dice : List UInt8

/-- What an activity of the processor amounts to. -/
structure Outcome (α : Type) where
  /-- The processor afterwards. -/
  processor : Processor
  /-- Lines announced on the way. -/
  lines : List String
  /-- The result, or what stopped it. -/
  result : Except Fault α

namespace Processor

/-- A processor around a machine that has just been switched on. -/
def powerOn (arch : Arch) (dialect : Dialect) (live : Bool) (dice : List UInt8) : Processor where
  arch
  dialect
  label := toString arch.code
  live
  machine := .powerOn arch dialect
  opcode := 0
  fetchedFrom := Machine.programStart
  dice

/-- Put a program into memory. -/
def load (processor : Processor) (program : Array UInt8) : Except Fault Processor := do
  let machine ← processor.machine.load program
  return { processor with machine }

/-- Return to the state after switching on, apart from the flags of the machine. -/
def reset (processor : Processor) : Processor :=
  { processor with
    machine := processor.machine.reset processor.arch
    opcode := 0
    fetchedFrom := Machine.programStart }

/-- Continue from a machine that was kept. -/
def restore (processor : Processor) (machine : Machine) : Processor := { processor with machine }

/-- Count the timers down. -/
def tick (processor : Processor) : Processor :=
  { processor with machine := processor.machine.tick }

/-- Press or release a key. -/
def setKey (processor : Processor) (key : Int) (held : Bool) : Except Fault Processor := do
  let machine ← processor.machine.setKey key held
  return { processor with machine }

/-- The line that live debugging shows for an instruction text; it needs all registers. -/
def line (processor : Processor) (text : String) : Except Fault String := do
  processor.machine.v.demand [15]
  return processor.machine.line processor.fetchedFrom processor.opcode text

/-- The report that is made when the processor stops; it needs all registers and flags. -/
def report (processor : Processor) (text : String) : Except Fault String := do
  processor.machine.v.demand [15]
  processor.machine.flags.demand [15]
  return processor.machine.fullReport processor.fetchedFrom processor.opcode text

/-- Text that stands for an instruction which is not known. -/
def unknownText : String := "???"

/-- The fault of an instruction that the architecture does not have, or that of reporting it. -/
def unsupported (processor : Processor) : Fault :=
  match processor.report unknownText with
  | .error fault => fault
  | .ok state =>
      .unsupported
        { arch := processor.label
          opcode := processor.opcode
          address := processor.fetchedFrom
          state }

/-- The lines by which a live processor announces an instruction.  Announcing is one call for all
instructions, made by `execute` before the instruction has any effect: that each kind of instruction
announces itself first is built in here, and one that did so halfway through could not be told. -/
def announce (processor : Processor) (instruction : Instruction) : Except Fault (List String) :=
  if processor.live then
    (instruction.mnemonic? processor.dialect processor.machine).toList.mapM processor.line
  else
    .ok []

/-- Take a random byte if an instruction needs one. -/
def roll (processor : Processor) : Instruction → UInt8 × List UInt8
  | .random _ _ => (processor.dice.headD 0, processor.dice.tail)
  | _ => (0, processor.dice)

/-- Decode and execute a number as an instruction word. -/
def execute (processor : Processor) (opcode : Int) : Outcome Unit :=
  let processor := { processor with opcode }
  match Word.ofInt? opcode with
  | none => ⟨processor, [], .error .notAWord⟩
  | some word =>
      match word.decode processor.arch with
      | .unknown => ⟨processor, [], .error processor.unsupported⟩
      | .reserved instruction =>
          match processor.announce instruction with
          | .error fault => ⟨processor, [], .error fault⟩
          | .ok lines => ⟨processor, lines, .error processor.unsupported⟩
      | .instruction instruction =>
          match processor.announce instruction with
          | .error fault => ⟨processor, [], .error fault⟩
          | .ok lines =>
              let (random, dice) := processor.roll instruction
              let (machine, result) :=
                processor.machine.execute processor.arch processor.dialect random instruction
              ⟨{ processor with machine, dice }, lines, result⟩

/-- The first word of an instruction that has a second one. -/
def wideWord : Nat := 0xF000

/-- Whether the word at an address lies in memory and starts a long instruction. -/
def startsWide (memory : Memory) (address : Int) : Bool :=
  address + 1 < memory.size &&
    match memory.readBlock address 2 with
    | .ok block => Memory.bigEndian block == wideWord
    | .error _ => false

/-- Read the word at the program counter, move past it and look at the one behind it. -/
def fetch (processor : Processor) : Except Fault (Processor × Nat) := do
  let machine := processor.machine
  let opcode ← machine.operand
  let pc := machine.pc + 2
  let nextWide := startsWide machine.memory pc
  return ({ processor with machine := { machine with pc, nextWide } }, opcode)

/-- Fetch, decode and execute one instruction. -/
def step (processor : Processor) (keyFrame : Bool) : Outcome Unit :=
  let processor :=
    { processor with
      machine := { processor.machine with keyFrame }
      fetchedFrom := processor.machine.pc }
  match processor.fetch with
  | .error fault => ⟨processor, [], .error fault⟩
  | .ok (processor, opcode) => processor.execute opcode

/-- Take a number of steps, of which at most the first is the first one of a frame, after `lines`
have been announced. -/
def steps : Nat → Bool → Array String → Processor → Outcome Unit
  | 0, _, lines, processor => ⟨processor, lines.toList, .ok ()⟩
  | count + 1, keyFrame, lines, processor =>
      let outcome := processor.step keyFrame
      let lines := lines ++ outcome.lines
      match outcome.result with
      | .error fault => ⟨outcome.processor, lines.toList, .error fault⟩
      | .ok () => steps count false lines outcome.processor

end Processor

end Chip8
