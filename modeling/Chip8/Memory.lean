import Chip8.Store

/-!
# Memory

Byte memory, and the numbers that its blocks spell.
-/

namespace Chip8

/-- Byte-addressed memory. -/
abbrev Memory := Store UInt8

namespace Memory

/-- Memory of zeros. -/
def zeros (size : Nat) : Memory := .filled size 0

/-- Store a number, which has to be a byte.  The address is looked at first. -/
def writeNumber (memory : Memory) (address number : Int) : Except Fault Memory := do
  memory.check address
  if number < 0 ∨ 0xFF < number then
    throw .notAByte
  memory.write address (.ofNat number.toNat)

/-- The number that a block spells, most significant byte first. -/
def bigEndian (block : Array UInt8) : Nat :=
  block.foldl (fun value byte => value * 256 + byte.toNat) 0

end Memory

end Chip8
