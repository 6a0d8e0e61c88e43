import Chip8.Arch
import Chip8.Instruction

/-!
# Decoding

From a 16-bit word to the instruction that an architecture reads in it.  The reading depends on the
architecture alone.
-/

namespace Chip8

/-- What an architecture makes of a word. -/
inductive Decoding where
  /-- An instruction to execute. -/
  | instruction (meaning : Instruction)
  /-- A known instruction with an operand that the architecture does not support. -/
  | reserved (meaning : Instruction)
  /-- No instruction at all. -/
  | unknown
deriving DecidableEq, Repr

/-- An instruction word. -/
structure Word where
  /-- The word as a number. -/
  value : Fin 0x10000
deriving DecidableEq, Repr

namespace Word

/-- The word that a number is, if it has at most 16 bits. -/
def ofInt? (number : Int) : Option Word :=
  if h : 0 ≤ number ∧ number < 0x10000 then some ⟨⟨number.toNat, by omega⟩⟩ else none

/-- First digit: the family of the instruction. -/
def family (word : Word) : Digit := ⟨word.value / 0x1000, by omega⟩

/-- Second digit, mostly the number of a register. -/
def x (word : Word) : Digit := ⟨word.value / 0x100 % 0x10, by omega⟩

/-- Third digit, mostly the number of a register. -/
def y (word : Word) : Digit := ⟨word.value / 0x10 % 0x10, by omega⟩

/-- Last digit. -/
def n (word : Word) : Digit := ⟨word.value % 0x10, by omega⟩

/-- Last two digits. -/
def byte (word : Word) : UInt8 := .ofNat (word.value % 0x100)

/-- Last three digits. -/
def address (word : Word) : Fin 0x1000 := ⟨word.value % 0x1000, by omega⟩

end Word

namespace Decoding

/-- An instruction that came with the architecture `base`. -/
def since (arch base : Arch) (meaning : Instruction) : Decoding :=
  if arch.includes base then .instruction meaning else .unknown

/-- Words of family 0, which are matched as a whole. -/
def system (arch : Arch) (word : Word) : Decoding :=
  match word.x.val, word.y.val, word.n.val with
  | 0x0, 0x0, 0x0 => .instruction .nop
  | 0x0, 0xE, 0x0 => .instruction .clear
  | 0x0, 0xE, 0xE => .instruction .ret
  | 0x0, 0xC, _ => since arch .superChip (.scroll .down word.n)
  | 0x0, 0xD, _ => since arch .xoChip (.scroll .up word.n)
  | 0x0, 0xF, 0xB => since arch .superChip (.scroll .right 4)
  | 0x0, 0xF, 0xC => since arch .superChip (.scroll .left 4)
  | 0x0, 0xF, 0xD => since arch .superChip .restart
  | 0x0, 0xF, 0xE => since arch .superChip (.resolution false)
  | 0x0, 0xF, 0xF => since arch .superChip (.resolution true)
  | _, _, _ => .unknown

/-- Words of family 5, told apart by their last digit. -/
def compare (arch : Arch) (word : Word) : Decoding :=
  match word.n.val with
  | 0x0 => .instruction (.skip (.equal word.x word.y))
  | 0x2 => since arch .xoChip (.storeRange word.x word.y)
  | 0x3 => since arch .xoChip (.loadRange word.x word.y)
  | _ => .unknown

/-- The operation that the last digit of a word of family 8 names. -/
def arithmetic? : Nat → Option Arithmetic
  | 0x0 => some .copy
  | 0x1 => some .or
  | 0x2 => some .and
  | 0x3 => some .xor
  | 0x4 => some .add
  | 0x5 => some .subtract
  | 0x6 => some .shiftRight
  | 0x7 => some .subtractFrom
  | 0xE => some .shiftLeft
  | _ => none

/-- Words of family 8, told apart by their last digit. -/
def combine (word : Word) : Decoding :=
  match arithmetic? word.n with
  | some operation => .instruction (.arithmetic operation word.x word.y)
  | none => .unknown

/-- Words of family E, told apart by their last two digits. -/
def keypad (word : Word) : Decoding :=
  match word.y.val, word.n.val with
  | 0x9, 0xE => .instruction (.skip (.held word.x))
  | 0xA, 0x1 => .instruction (.skip (.released word.x))
  | _, _ => .unknown

/-- A transfer of flags, of which only XO-CHIP has more than eight. -/
def flags (arch : Arch) (word : Word) (meaning : Instruction) : Decoding :=
  if arch.includes .xoChip then
    .instruction meaning
  else if arch.includes .superChip then
    if word.x ≤ 7 then .instruction meaning else .reserved meaning
  else
    .unknown

/-- A word of family F whose second digit must be zero. -/
def plain (arch : Arch) (word : Word) (meaning : Instruction) : Decoding :=
  if word.x = 0 then since arch .xoChip meaning else .unknown

/-- A selection of planes, of which there are two. -/
def planes (arch : Arch) (word : Word) : Decoding :=
  if arch.includes .xoChip then
    if word.x ≤ 3 then .instruction (.selectPlanes word.x) else .reserved (.selectPlanes word.x)
  else
    .unknown

/-- Words of family F, told apart by their last two digits. -/
def device (arch : Arch) (word : Word) : Decoding :=
  match word.y.val, word.n.val with
  | 0x0, 0x0 => plain arch word .setIndexLong
  | 0x0, 0x1 => planes arch word
  | 0x0, 0x2 => plain arch word .loadPattern
  | 0x0, 0x7 => .instruction (.readDelay word.x)
  | 0x0, 0xA => .instruction (.awaitKey word.x)
  | 0x1, 0x5 => .instruction (.setDelay word.x)
  | 0x1, 0x8 => .instruction (.setSound word.x)
  | 0x1, 0xE => .instruction (.addIndex word.x)
  | 0x2, 0x9 => .instruction (.smallDigit word.x)
  | 0x3, 0x0 => since arch .superChip (.largeDigit word.x)
  | 0x3, 0x3 => .instruction (.storeDecimal word.x)
  | 0x3, 0xA => since arch .xoChip (.setPitch word.x)
  | 0x5, 0x5 => .instruction (.store word.x)
  | 0x6, 0x5 => .instruction (.load word.x)
  | 0x7, 0x5 => flags arch word (.saveFlags word.x)
  | 0x8, 0x5 => flags arch word (.loadFlags word.x)
  | _, _ => .unknown

end Decoding

/-- What an architecture makes of a word. -/
def Word.decode (arch : Arch) (word : Word) : Decoding :=
  match word.family.val with
  | 0x0 => Decoding.system arch word
  | 0x1 => .instruction (.jump word.address)
  | 0x2 => .instruction (.call word.address)
  | 0x3 => .instruction (.skip (.byteEqual word.x word.byte))
  | 0x4 => .instruction (.skip (.byteUnequal word.x word.byte))
  | 0x5 => Decoding.compare arch word
  | 0x6 => .instruction (.setByte word.x word.byte)
  | 0x7 => .instruction (.addByte word.x word.byte)
  | 0x8 => Decoding.combine word
  | 0x9 => if word.n = 0 then .instruction (.skip (.unequal word.x word.y)) else .unknown
  | 0xA => .instruction (.setIndex word.address)
  | 0xB => .instruction (.jumpIndexed word.address)
  | 0xC => .instruction (.random word.x word.byte)
  | 0xD => .instruction (.draw word.x word.y word.n)
  | 0xE => Decoding.keypad word
  | _ => Decoding.device arch word

end Chip8
