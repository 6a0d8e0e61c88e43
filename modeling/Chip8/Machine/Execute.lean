import Chip8.Machine.Sprite

/-!
# Execution

The effect of each instruction on a machine.  An instruction is refused before it does anything if
a register that it reads is missing.  What is missed or refused later on leaves standing what was
done by then.
-/

namespace Chip8

namespace Condition

/-- Whether the condition holds of a machine. -/
def holds (machine : Machine) : Condition → Bool
  | .byteEqual x byte => machine.v.read x == byte
  | .byteUnequal x byte => machine.v.read x != byte
  | .equal x y => machine.v.read x == machine.v.read y
  | .unequal x y => machine.v.read x != machine.v.read y
  | .held x => machine.keys.get (Fin.ofNat 16 (machine.v.read x).toNat)
  | .released x => !machine.keys.get (Fin.ofNat 16 (machine.v.read x).toNat)

/-- The registers that a condition looks at. -/
def operands : Condition → List Digit
  | .byteEqual x _ | .byteUnequal x _ | .held x | .released x => [x]
  | .equal x y | .unequal x y => [x, y]

end Condition

namespace Arithmetic

/-- The result of an operation on two bytes and, if it sets one, the flag. -/
def apply (dialect : Dialect) (a b : UInt8) : Arithmetic → UInt8 × Option UInt8
  | .copy => (b, none)
  | .or => (a ||| b, if dialect .flagReset then some 0 else none)
  | .and => (a &&& b, if dialect .flagReset then some 0 else none)
  | .xor => (a ^^^ b, if dialect .flagReset then some 0 else none)
  | .add => (a + b, some (if 0xFF < a.toNat + b.toNat then 1 else 0))
  | .subtract => (a - b, some (if b ≤ a then 1 else 0))
  | .subtractFrom => (b - a, some (if a ≤ b then 1 else 0))
  | .shiftRight =>
      let source := if dialect .shiftInPlace then a else b
      (source >>> 1, some (source &&& 1))
  | .shiftLeft =>
      let source := if dialect .shiftInPlace then a else b
      (source <<< 1, some (source >>> 7))

/-- Whether an operation ignores Vy in a dialect. -/
def isUnary (dialect : Dialect) : Arithmetic → Bool
  | .shiftRight | .shiftLeft => dialect .shiftInPlace
  | _ => false

end Arithmetic

namespace Machine

/-- Step over the next instruction, including the operand of a long one. -/
def skipNext (machine : Machine) : Machine :=
  { machine with pc := machine.pc + if machine.nextWide then 4 else 2 }

/-- Go back to the instruction that is being executed, so that it runs again. -/
def again (machine : Machine) : Machine := { machine with pc := machine.pc - 2 }

/-- Nothing more is to be done. -/
def done (machine : Machine) : Machine × Except Fault Unit := (machine, .ok ())

/-- Go over to another machine, or stay with this one if there is none. -/
def settle (machine : Machine) : Except Fault Machine → Machine × Except Fault Unit
  | .ok other => other.done
  | .error fault => (machine, .error fault)

/-- Put a byte into Vx. -/
def setRegister (machine : Machine) (x : Digit) (value : UInt8) : Machine :=
  { machine with v := machine.v.write x value }

/-- Combine Vx and Vy.  The flag is written after the result, so it wins when Vx is VF. -/
def combine (dialect : Dialect) (machine : Machine) (operation : Arithmetic) (x y : Digit) :
    Machine × Except Fault Unit :=
  let (result, flag) := operation.apply dialect (machine.v.read x) (machine.v.read y)
  let machine := machine.setRegister x result
  match flag with
  | some flag => (machine.setRegister 15 flag, machine.v.demand [15])
  | none => machine.done

/-- Move I past a block of registers if the dialect does so. -/
def passBlock (arch : Arch) (dialect : Dialect) (machine : Machine) (x : Digit) : Machine :=
  if dialect .indexAdvance then
    { machine with index := (machine.index + x + 1) % arch.memorySize }
  else
    machine

/-- The registers from Vx to Vy, both included, in that order. -/
def range (x y : Digit) : List Digit :=
  if x ≤ y then
    (List.finRange 16).filter fun r => x ≤ r ∧ r ≤ y
  else
    ((List.finRange 16).filter fun r => y ≤ r ∧ r ≤ x).reverse

/-- Store registers at consecutive addresses, up to the first that is missing or refused. -/
def storeEach (v : Registers) (address : Int) :
    List Digit → Memory → Memory × Except Fault Unit
  | [], memory => (memory, .ok ())
  | r :: rest, memory =>
      match v.demand [r] *> memory.write address (v.read r) with
      | .error fault => (memory, .error fault)
      | .ok memory => storeEach v (address + 1) rest memory

/-- Load registers from consecutive addresses, up to the first that is missing or refused. -/
def loadEach (memory : Memory) (address : Int) :
    List Digit → Registers → Registers × Except Fault Unit
  | [], v => (v, .ok ())
  | r :: rest, v =>
      match memory.read address <* v.demand [r] with
      | .error fault => (v, .error fault)
      | .ok value => loadEach memory (address + 1) rest (v.write r value)

/-- Refuse a block of registers at I that ends outside memory. -/
def checkRange (machine : Machine) (registers : List Digit) : Except Fault Unit :=
  machine.memory.check (machine.index + registers.length - 1)

/-- Store Vx to Vy at I, in that order. -/
def storeRange (machine : Machine) (x y : Digit) : Machine × Except Fault Unit :=
  match machine.checkRange (range x y) with
  | .error fault => (machine, .error fault)
  | .ok () =>
      let (memory, result) := storeEach machine.v machine.index (range x y) machine.memory
      ({ machine with memory }, result)

/-- Load Vx to Vy from I, in that order. -/
def loadRange (machine : Machine) (x y : Digit) : Machine × Except Fault Unit :=
  match machine.checkRange (range x y) with
  | .error fault => (machine, .error fault)
  | .ok () =>
      let (v, result) := loadEach machine.memory machine.index (range x y) machine.v
      ({ machine with v }, result)

/-- Put the delay timer into Vx, unless it does not fit a byte. -/
def readDelay (machine : Machine) (x : Digit) : Except Fault Machine :=
  if 0 ≤ machine.delay ∧ machine.delay ≤ 0xFF then
    .ok (machine.setRegister x (.ofNat machine.delay.toNat))
  else
    .error .notAByte

/-- Whether drawing has to wait for the next frame. -/
def mustWait (dialect : Dialect) (machine : Machine) : Bool :=
  dialect .frameWait && !machine.keyFrame

/-- Scroll the selected planes.  The distance is in logical pixels unless the dialect says that it
is physical. -/
def scroll (dialect : Dialect) (machine : Machine) (direction : Direction) (count : Digit) :
    Except Fault Machine := do
  let distance := if dialect .physicalScroll then count.val else count * machine.screen.scale
  return { machine with screen := ← machine.screen.scroll direction distance }

/-- Switch the resolution.  XO-CHIP blanks both planes when it does. -/
def setResolution (arch : Arch) (machine : Machine) (high : Bool) : Machine :=
  let screen := { machine.screen with lowRes := !high }
  { machine with
    highRes := high
    screen := if arch.includes .xoChip then screen.clearAll else screen }

/-- The word at the program counter. -/
def operand (machine : Machine) : Except Fault Nat :=
  return Memory.bigEndian (← machine.memory.readBlock machine.pc 2)

/-- The register that an indexed jump adds. -/
def jumpRegister (dialect : Dialect) (address : Fin 0x1000) : Digit :=
  if dialect .jumpByRegister then ⟨address / 0x100, by omega⟩ else 0

/-- The registers that an instruction has to find before it does anything. -/
def operands (dialect : Dialect) (machine : Machine) : Instruction → List Digit
  | .skip condition => condition.operands
  | .arithmetic operation x y => if operation.isUnary dialect then [x] else [x, y]
  | .jumpIndexed address => [jumpRegister dialect address]
  | .draw x y _ => if machine.mustWait dialect then [] else [x, y]
  | .readDelay x => if (machine.readDelay x).isOk then [x] else []
  | .awaitKey x => if machine.lowestKey?.isSome then [x] else []
  | .setByte x _ | .addByte x _ | .random x _ | .setDelay x | .setSound x | .addIndex x
  | .smallDigit x | .largeDigit x | .storeDecimal x | .setPitch x => [x]
  | _ => []

/-- What an instruction does once its registers are found, given the random byte that it may ask
for.  The program counter already points past the instruction's first word. -/
def perform (arch : Arch) (dialect : Dialect) (random : UInt8) (machine : Machine) :
    Instruction → Machine × Except Fault Unit
  | .nop => machine.done
  | .clear => { machine with screen := machine.screen.clear }.done
  | .ret => machine.settle do
      let (pc, stack) ← machine.stack.pop
      return { machine with pc, stack }
  | .jump address => { machine with pc := address.val }.done
  | .call address => machine.settle do
      let stack ← machine.stack.push machine.pc
      return { machine with pc := address.val, stack }
  | .skip condition => (if condition.holds machine then machine.skipNext else machine).done
  | .setByte x byte => (machine.setRegister x byte).done
  | .addByte x byte => (machine.setRegister x (machine.v.read x + byte)).done
  | .arithmetic operation x y => machine.combine dialect operation x y
  | .setIndex address => { machine with index := address.val }.done
  | .jumpIndexed address =>
      let offset := (machine.v.read (jumpRegister dialect address)).toNat
      { machine with pc := (offset + address.val) % arch.memorySize }.done
  | .random x mask => (machine.setRegister x (random &&& mask)).done
  | .draw x y rows =>
      if machine.mustWait dialect then
        machine.again.done
      else
        match machine.draw arch dialect x y rows with
        | .ok other => (other, machine.v.demand [15])
        | .error fault => (machine, .error fault)
  | .readDelay x => machine.settle (machine.readDelay x)
  | .awaitKey x =>
      match machine.lowestKey? with
      | some key => (machine.setRegister x (.ofNat key)).done
      | none => machine.again.done
  | .setDelay x => { machine with delay := (machine.v.read x).toNat }.done
  | .setSound x => { machine with sound := (machine.v.read x).toNat }.done
  | .addIndex x =>
      { machine with index := (machine.index + (machine.v.read x).toNat) % arch.memorySize }.done
  | .smallDigit x =>
      { machine with
        index := Font.smallStart + Font.smallSize * ((machine.v.read x).toNat % 16) }.done
  | .storeDecimal x => machine.settle do
      let value := machine.v.read x
      let memory ← machine.memory.writeBlock machine.index
        #[value / 100, value / 10 % 10, value % 10]
      return { machine with memory }
  | .store x => machine.settle do
      let memory ← machine.memory.writeBlock machine.index (machine.v.upTo x)
      return { machine with memory }.passBlock arch dialect x
  | .load x => machine.settle do
      let block ← machine.memory.readBlock machine.index (x + 1 : Nat)
      return { machine with v := machine.v.refill x block }.passBlock arch dialect x
  | .scroll direction count => machine.settle (machine.scroll dialect direction count)
  | .restart => { machine with pc := programStart }.done
  | .resolution high => (machine.setResolution arch high).done
  | .largeDigit x =>
      { machine with
        index := Font.largeStart + Font.largeSize * ((machine.v.read x).toNat % 16) }.done
  | .saveFlags x => { machine with flags := machine.flags.refill x (machine.v.upTo x) }.done
  | .loadFlags x => { machine with v := machine.v.refill x (machine.flags.upTo x) }.done
  | .storeRange x y => machine.storeRange x y
  | .loadRange x y => machine.loadRange x y
  | .setIndexLong => machine.settle do
      let index ← machine.operand
      return { machine with index, pc := machine.pc + 2 }
  | .selectPlanes mask => machine.settle do
      let screen ← machine.screen.select mask.val
      return { machine with screen }
  | .loadPattern => machine.settle do
      let pattern ← machine.memory.readBlock machine.index 16
      return { machine with pattern }
  | .setPitch x => { machine with pitch := machine.v.read x }.done

/-- The effect of an instruction, given the random byte that it may ask for: the machine afterwards
and what it was refused for, if it was. -/
def execute (arch : Arch) (dialect : Dialect) (random : UInt8) (machine : Machine)
    (instruction : Instruction) : Machine × Except Fault Unit :=
  match machine.v.demand (machine.operands dialect instruction) with
  | .error fault => (machine, .error fault)
  | .ok () => machine.perform arch dialect random instruction

end Machine

end Chip8
