import Chip8.Machine
import Chip8.Proofs.BoundedStack
import Chip8.Proofs.Registers
import Chip8.Proofs.Screen

/-!
# Well-formed machines

The states that the parts of a machine allow for: full rows of registers, timers that are bytes,
memory, stack and screen of their sizes, and addresses that fit them.  A machine that is switched on
is well formed, and what the host does to it between instructions keeps it so.
-/

namespace Chip8

theorem Arch.thousand_le_memorySize (arch : Arch) : 0x1000 ≤ arch.memorySize := by
  cases arch <;> decide

theorem Arch.memorySize_pos (arch : Arch) : 0 < (arch.memorySize : Int) := by
  cases arch <;> decide

theorem Arch.memorySize_ne_zero (arch : Arch) : (arch.memorySize : Int) ≠ 0 := by
  cases arch <;> decide

namespace Machine

/-- The state is one in which a machine of an architecture can be. -/
structure WellFormed (arch : Arch) (dialect : Dialect) (machine : Machine) : Prop where
  /-- Number of general registers. -/
  v : machine.v.size = 16
  /-- Number of flags. -/
  flags : machine.flags.size = 16
  /-- Length of the sound pattern. -/
  pattern : machine.pattern.size = 16
  /-- The delay timer is a byte. -/
  delay : 0 ≤ machine.delay ∧ machine.delay ≤ 0xFF
  /-- The sound timer is a byte. -/
  sound : 0 ≤ machine.sound ∧ machine.sound ≤ 0xFF
  /-- Size of the memory. -/
  memory : machine.memory.Sized arch.memorySize
  /-- The index register is an address. -/
  index : 0 ≤ machine.index ∧ machine.index < arch.memorySize
  /-- The program counter is an address, or stands at most two bytes behind the memory. -/
  pc : 0 ≤ machine.pc ∧ machine.pc ≤ arch.memorySize + 2
  /-- Number of slots on the stack. -/
  stack : machine.stack.Within stackCapacity
  /-- A return address stands behind a word in memory. -/
  returns : ∀ address ∈ machine.stack.toList, 2 ≤ address ∧ address ≤ arch.memorySize
  /-- Sizes of the screen and of its two planes. -/
  screen : machine.screen.Shaped arch.screenWidth arch.screenHeight 2
  /-- The dialect decides what happens at the edges. -/
  wraps : machine.screen.wraps = !dialect .clipping
  /-- A later architecture shows large pixels unless high resolution is chosen. -/
  lowRes : machine.screen.lowRes = (arch.includes .superChip && !machine.highRes)
  /-- High resolution came with Super-CHIP. -/
  highRes : machine.highRes = true → arch.includes .superChip
  /-- The selection names existing planes. -/
  mask : machine.screen.mask ≤ 3
  /-- Before XO-CHIP only the first plane is ever selected and lit. -/
  single : arch.includes .xoChip = false →
    machine.screen.mask = 1 ∧ (machine.screen.plane 1).Unlit

variable {arch : Arch} {dialect : Dialect} {machine : Machine}

namespace WellFormed

/-- Repainting the screen keeps a machine well formed. -/
theorem repaint {painted : Screen} (wellFormed : machine.WellFormed arch dialect)
    (repainted : Screen.Repainted machine.screen painted) :
    { machine with screen := painted }.WellFormed arch dialect :=
  { wellFormed with
    screen := wellFormed.screen.repainted repainted
    wraps := repainted.wraps.trans wellFormed.wraps
    lowRes := repainted.lowRes.trans wellFormed.lowRes
    mask := by
      rw [repainted.mask]
      exact wellFormed.mask
    single := by
      intro base
      obtain ⟨first, unlit⟩ := wellFormed.single base
      refine ⟨repainted.mask.trans first, ?_⟩
      rw [repainted.unselected 1 (by rw [first]; decide)]
      exact unlit }

theorem setRegister (wellFormed : machine.WellFormed arch dialect) (x : Digit) (value : UInt8) :
    { machine with v := machine.v.write x value }.WellFormed arch dialect :=
  { wellFormed with v := by rw [Registers.size_write, wellFormed.v] }

theorem memorySize_eq (wellFormed : machine.WellFormed arch dialect) :
    machine.memory.size = arch.memorySize :=
  wellFormed.memory.addresses

theorem scale_le (wellFormed : machine.WellFormed arch dialect) :
    machine.screen.scale ≤ arch.screenWidth ∧ machine.screen.scale ≤ arch.screenHeight := by
  have small : machine.screen.scale ≤ 2 := by
    rw [Screen.scale]
    split <;> decide
  cases arch <;> exact ⟨small.trans (by decide), small.trans (by decide)⟩

/-- Pixels are large on the later architectures unless high resolution is chosen. -/
theorem scale_eq (wellFormed : machine.WellFormed arch dialect) :
    machine.screen.scale = if arch ≠ .chip8 ∧ machine.highRes = false then 2 else 1 := by
  rw [Screen.scale, wellFormed.lowRes]
  cases arch <;> cases machine.highRes <;> rfl

/-- Large or not, the pixels fill the screen exactly. -/
theorem logical_eq (wellFormed : machine.WellFormed arch dialect) :
    machine.screen.logicalWidth * machine.screen.scale = arch.screenWidth ∧
      machine.screen.logicalHeight * machine.screen.scale = arch.screenHeight := by
  rw [Screen.logicalWidth, Screen.logicalHeight, wellFormed.screen.width_eq,
    wellFormed.screen.height_eq, wellFormed.scale_eq]
  cases arch <;> cases machine.highRes <;> decide

/-! ## Between instructions -/

theorem tick (wellFormed : machine.WellFormed arch dialect) :
    machine.tick.WellFormed arch dialect := by
  have counted {timer : Int} (byte : 0 ≤ timer ∧ timer ≤ 0xFF) :
      0 ≤ countDown timer ∧ countDown timer ≤ 0xFF := by
    rw [countDown]
    split <;> omega
  exact
    { wellFormed with
      delay := counted wellFormed.delay
      sound := counted wellFormed.sound }

theorem setKey {key : Int} {held : Bool} {after : Machine}
    (wellFormed : machine.WellFormed arch dialect)
    (accepted : machine.setKey key held = .ok after) : after.WellFormed arch dialect := by
  rw [Machine.setKey] at accepted
  split at accepted <;> cases accepted
  exact { wellFormed with }

/-- A program is loaded if it ends inside memory. -/
theorem load_of_fits {program : Array UInt8} (wellFormed : machine.WellFormed arch dialect)
    (fits : programStart + program.size ≤ arch.memorySize) :
    machine.load program =
      .ok { machine with memory := machine.memory.patch programStart program } := by
  have start : programStart = 0x200 := rfl
  rw [load, Store.writeBlock_of_inside wellFormed.memory (by omega) (by omega)
    (by exact_mod_cast fits)]
  rfl

theorem fits_of_load {program : Array UInt8} {after : Machine}
    (wellFormed : machine.WellFormed arch dialect) (loaded : machine.load program = .ok after) :
    programStart + program.size ≤ arch.memorySize := by
  by_contra outside
  rw [Machine.load, Store.writeBlock_of_outside wellFormed.memory (by omega)] at loaded
  cases loaded

theorem load {program : Array UInt8} {after : Machine}
    (wellFormed : machine.WellFormed arch dialect) (loaded : machine.load program = .ok after) :
    after.WellFormed arch dialect := by
  rw [wellFormed.load_of_fits (wellFormed.fits_of_load loaded)] at loaded
  cases loaded
  exact { wellFormed with memory := wellFormed.memory.patch _ _ }

end WellFormed

/-- Loading a program touches nothing but the memory. -/
theorem exists_memory_of_load {program : Array UInt8} {after : Machine}
    (loaded : machine.load program = .ok after) : ∃ memory, after = { machine with memory } := by
  rw [load] at loaded
  rcases written : machine.memory.writeBlock programStart program with fault | memory
  · rw [written] at loaded
    cases loaded
  · rw [written] at loaded
    cases loaded
    exact ⟨memory, rfl⟩

theorem pc_of_load {program : Array UInt8} {after : Machine}
    (loaded : machine.load program = .ok after) : after.pc = machine.pc := by
  obtain ⟨memory, rfl⟩ := exists_memory_of_load loaded
  rfl

/-! ## Switching on -/

theorem unlit_reset {width height count : Nat}
    (shaped : machine.screen.Shaped width height count) {number : Nat} (inside : number < count) :
    ((machine.reset arch).screen.plane number).Unlit := by
  rw [show (machine.reset arch).screen.plane number = machine.screen.clearAll.plane number from rfl,
    Screen.plane_clearAll]
  exact Plane.unlit_clear (shaped.planes_sized number inside)

/-- Whatever the machine went through, the parts that a reset keeps make it well formed again. -/
theorem wellFormed_reset (flags : machine.flags.size = 16)
    (memory : machine.memory.Sized arch.memorySize)
    (stack : machine.stack.Within stackCapacity)
    (screen : machine.screen.Shaped arch.screenWidth arch.screenHeight 2)
    (wraps : machine.screen.wraps = !dialect .clipping) :
    (machine.reset arch).WellFormed arch dialect where
  v := Registers.size_zeros
  flags := by simpa only [Machine.reset] using flags
  pattern := rfl
  delay := ⟨Int.le_refl 0, show (0 : Int) ≤ 0xFF by decide⟩
  sound := ⟨Int.le_refl 0, show (0 : Int) ≤ 0xFF by decide⟩
  memory := ((memory.clear 0).patch _ _).patch _ _
  index := ⟨Int.le_refl 0, show (0 : Int) < arch.memorySize by cases arch <;> decide⟩
  pc := ⟨show (0 : Int) ≤ programStart by decide,
    show (programStart : Int) ≤ arch.memorySize + 2 by cases arch <;> decide⟩
  stack := stack.clear
  returns := by
    intro address member
    rw [show (machine.reset arch).stack.toList = [] from BoundedStack.toList_clear] at member
    cases member
  screen :=
    { width_eq := screen.clearAll.width_eq
      height_eq := screen.clearAll.height_eq
      planes_size := screen.clearAll.planes_size
      planes_sized := screen.clearAll.planes_sized }
  wraps := wraps
  lowRes := (Bool.and_true _).symm
  highRes := by
    intro high
    cases high
  mask := show 1 ≤ 3 by decide
  single _ := ⟨rfl, unlit_reset screen Nat.one_lt_two⟩

theorem WellFormed.reset (wellFormed : machine.WellFormed arch dialect) :
    (machine.reset arch).WellFormed arch dialect :=
  wellFormed_reset wellFormed.flags wellFormed.memory wellFormed.stack wellFormed.screen
    wellFormed.wraps

theorem wellFormed_powerOn (arch : Arch) (dialect : Dialect) :
    (powerOn arch dialect).WellFormed arch dialect :=
  wellFormed_reset Registers.size_zeros (Store.sized_filled _ _) (BoundedStack.within_empty _)
    (Screen.shaped_blank _ _ 2 _) rfl

theorem unlit_powerOn (arch : Arch) (dialect : Dialect) {number : Nat} (inside : number < 2) :
    ((powerOn arch dialect).screen.plane number).Unlit :=
  @unlit_reset arch (assemble arch dialect) _ _ 2 (Screen.shaped_blank _ _ 2 _) number inside

theorem memory_powerOn (arch : Arch) (dialect : Dialect) :
    (powerOn arch dialect).memory =
      (((Memory.zeros arch.memorySize).clear 0).patch Font.smallStart Font.small).patch
        Font.largeStart Font.large := rfl

/-- The first row of the first digit lies at the bottom of the memory, whatever program is loaded. -/
theorem getElem?_patch_powerOn (arch : Arch) (dialect : Dialect) (program : Array UInt8) :
    ((powerOn arch dialect).memory.patch programStart program).cells[0]? = some 0xF0 := by
  have sized : Store.Sized ((Memory.zeros arch.memorySize).clear 0) arch.memorySize :=
    (Store.sized_filled _ _).clear 0
  have room : 0 < ((Memory.zeros arch.memorySize).clear 0).cells.size := by
    rw [sized.cells]
    cases arch <;> decide
  rw [memory_powerOn, Store.getElem?_patch_outside _ _ (Or.inl (by decide)),
    Store.getElem?_patch_outside _ _ (Or.inl (by decide)),
    @Store.getElem?_patch_inside _ _ Font.smallStart 0 Font.small (by decide) (by decide) room]
  rfl

end Machine

end Chip8
