import Chip8.Fault
import Chip8.Instruction

/-!
# Registers

Rows of byte registers: the general ones, the flags that outlive a reset, and the sound pattern.
-/

namespace Chip8

/-- A row of byte registers.  A machine that is switched on has sixteen in each row, and a row keeps
its length unless a block of another length is loaded into it. -/
abbrev Registers := Array UInt8

namespace Registers

/-- Sixteen zeros. -/
def zeros : Registers := Array.replicate 16 0

/-- The register of a number; a missing one reads as zero. -/
def read (registers : Registers) (x : Digit) : UInt8 := registers.getD x 0

/-- Put a byte into the register of a number; a missing one is left alone. -/
def write (registers : Registers) (x : Digit) (value : UInt8) : Registers :=
  registers.setIfInBounds x value

/-- Refuse if one of the given registers is missing. -/
def demand (registers : Registers) (needed : List Digit) : Except Fault Unit :=
  if needed.all fun x => x.val < registers.size then .ok () else .error .noSuchRegister

/-- The first registers, up to and including Vx. -/
def upTo (registers : Registers) (x : Digit) : Array UInt8 := registers.extract 0 (x + 1)

/-- Replace the first registers, up to and including Vx, by a block. -/
def refill (registers : Registers) (x : Digit) (block : Array UInt8) : Registers :=
  block ++ registers.extract (x + 1) registers.size

end Registers

end Chip8
