/-!
# Architectures

The family has three members.  Each one runs every program of the members before it, with more
instructions, more memory or a larger screen, so the members are linearly ordered.
-/

namespace Chip8

/-- A member of the CHIP-8 family. -/
inductive Arch where
  /-- The base machine: one 64x32 screen and 4 KiB of memory. -/
  | chip8
  /-- Super-CHIP: high resolution, scrolling, large digits and persistent flags. -/
  | superChip
  /-- XO-CHIP: 64 KiB of memory, two display planes and sampled sound. -/
  | xoChip
deriving DecidableEq, Repr

namespace Arch

/-- Every member, oldest first. -/
def all : List Arch := [.chip8, .superChip, .xoChip]

/-- The number by which reports name a member. -/
def code : Arch → Nat
  | .chip8 => 0
  | .superChip => 10
  | .xoChip => 20

/-- The member with the given report number. -/
def ofCode? (number : Int) : Option Arch := all.find? fun arch => (arch.code : Int) == number

/-- The name used on the command line. -/
def name : Arch → String
  | .chip8 => "chip8"
  | .superChip => "schip"
  | .xoChip => "xochip"

/-- The member with the given command-line name. -/
def ofName? (text : String) : Option Arch := all.find? fun arch => arch.name == text

/-- Whether a member has everything that `base` has. -/
def includes (arch base : Arch) : Bool := base.code ≤ arch.code

/-- Number of bytes of memory; addresses computed by a program wrap at this bound. -/
def memorySize : Arch → Nat
  | .chip8 | .superChip => 0x1000
  | .xoChip => 0x10000

/-- Physical screen width in pixels. -/
def screenWidth : Arch → Nat
  | .chip8 => 64
  | .superChip | .xoChip => 128

/-- Physical screen height in pixels. -/
def screenHeight : Arch → Nat
  | .chip8 => 32
  | .superChip | .xoChip => 64

/-- Instructions executed in each frame unless another number is asked for. -/
def ticksPerFrame : Arch → Int
  | .chip8 => 15
  | .superChip => 20
  | .xoChip => 500

end Arch

end Chip8
