import Chip8.Screen

/-!
# Instructions

The instruction set as data.  Operands are registers, digits, bytes and 12-bit addresses, so an
instruction never refers to anything that cannot exist.
-/

namespace Chip8

/-- The number of a general register, or any other hexadecimal digit. -/
abbrev Digit := Fin 16

/-- There are digits, so a number is read modulo sixteen as one. -/
instance Digit.neZero : @NeZero Nat (@Zero.ofOfNat0 Nat (instOfNatNat 0)) 16 := ⟨by decide⟩

/-- A condition on which the following instruction is skipped. -/
inductive Condition where
  /-- Vx equals a byte. -/
  | byteEqual (x : Digit) (byte : UInt8)
  /-- Vx differs from a byte. -/
  | byteUnequal (x : Digit) (byte : UInt8)
  /-- Vx equals Vy. -/
  | equal (x y : Digit)
  /-- Vx differs from Vy. -/
  | unequal (x y : Digit)
  /-- The key numbered by Vx is held. -/
  | held (x : Digit)
  /-- The key numbered by Vx is not held. -/
  | released (x : Digit)
deriving DecidableEq, Repr

/-- An operation on Vx and Vy that leaves its result in Vx. -/
inductive Arithmetic where
  | copy
  | or
  | and
  | xor
  | add
  | subtract
  | shiftRight
  | subtractFrom
  | shiftLeft
deriving DecidableEq, Repr

/-- An instruction of some member of the family. -/
inductive Instruction where
  /-- Do nothing. -/
  | nop
  /-- Blank the selected planes. -/
  | clear
  /-- Return from a call. -/
  | ret
  /-- Continue at an address. -/
  | jump (address : Fin 0x1000)
  /-- Call the code at an address. -/
  | call (address : Fin 0x1000)
  /-- Skip the next instruction if a condition holds. -/
  | skip (condition : Condition)
  /-- Put a byte into Vx. -/
  | setByte (x : Digit) (byte : UInt8)
  /-- Add a byte to Vx; no flag is set. -/
  | addByte (x : Digit) (byte : UInt8)
  /-- Combine Vx and Vy. -/
  | arithmetic (operation : Arithmetic) (x y : Digit)
  /-- Put an address into I. -/
  | setIndex (address : Fin 0x1000)
  /-- Continue at an address plus a register. -/
  | jumpIndexed (address : Fin 0x1000)
  /-- Put a random byte, masked, into Vx. -/
  | random (x : Digit) (mask : UInt8)
  /-- Draw the sprite at I at the place given by Vx and Vy. -/
  | draw (x y rows : Digit)
  /-- Put the delay timer into Vx. -/
  | readDelay (x : Digit)
  /-- Wait for a key and put its number into Vx. -/
  | awaitKey (x : Digit)
  /-- Set the delay timer from Vx. -/
  | setDelay (x : Digit)
  /-- Set the sound timer from Vx. -/
  | setSound (x : Digit)
  /-- Add Vx to I. -/
  | addIndex (x : Digit)
  /-- Point I at the small picture of the digit in Vx. -/
  | smallDigit (x : Digit)
  /-- Store the three decimal digits of Vx at I. -/
  | storeDecimal (x : Digit)
  /-- Store V0 to Vx at I. -/
  | store (x : Digit)
  /-- Load V0 to Vx from I. -/
  | load (x : Digit)
  /-- Scroll the selected planes. -/
  | scroll (direction : Direction) (count : Digit)
  /-- Start the program again. -/
  | restart
  /-- Switch between high and low resolution. -/
  | resolution (high : Bool)
  /-- Point I at the large picture of the digit in Vx. -/
  | largeDigit (x : Digit)
  /-- Save V0 to Vx in the persistent flags. -/
  | saveFlags (x : Digit)
  /-- Load V0 to Vx from the persistent flags. -/
  | loadFlags (x : Digit)
  /-- Store Vx to Vy at I, in that order. -/
  | storeRange (x y : Digit)
  /-- Load Vx to Vy from I, in that order. -/
  | loadRange (x y : Digit)
  /-- Put the word after the instruction into I. -/
  | setIndexLong
  /-- Select display planes. -/
  | selectPlanes (mask : Digit)
  /-- Load the sound pattern from I. -/
  | loadPattern
  /-- Set the pitch of the sound pattern from Vx. -/
  | setPitch (x : Digit)
deriving DecidableEq, Repr

end Chip8
