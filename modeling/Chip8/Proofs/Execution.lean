import Chip8.Machine.Execute
import Chip8.Proofs.Decode
import Chip8.Proofs.Sprite
import Chip8.Proofs.WellFormed

/-!
# Execution of single instructions

A well-formed machine refuses an instruction for one of four reasons, which can be told beforehand:
a call on a full stack, a return on an empty one, a second word or a block at I that ends outside
memory.  A refused instruction leaves the machine alone.  Any other is carried out, and what it
leaves behind is well formed again.
-/

namespace Chip8

namespace Machine

/-- Distance between two registers. -/
def span (x y : Digit) : Nat := (x - y : Nat) + (y - x : Nat)

/-- Number of bytes at I that an instruction needs. -/
def blockLength (arch : Arch) (dialect : Dialect) (machine : Machine) : Instruction → Nat
  | .draw _ _ rows => if machine.mustWait dialect then 0 else machine.spriteBytes arch rows
  | .storeDecimal _ => 3
  | .store x | .load x => x + 1
  | .storeRange x y | .loadRange x y => span x y + 1
  | .loadPattern => 16
  | _ => 0

/-- The fault of a block at an address that ends outside memory; one without bytes never does. -/
def blockFault? (arch : Arch) (address : Int) (length : Nat) : Option Fault :=
  if 0 < length ∧ arch.memorySize < address + length then
    some (.outOfBounds (address + length - 1))
  else
    none

/-- What a machine refuses an instruction for, if it does. -/
def refusal? (arch : Arch) (dialect : Dialect) (machine : Machine) (instruction : Instruction) :
    Option Fault :=
  match instruction with
  | .ret => if machine.stack.depth = 0 then some .stackUnderflow else none
  | .call _ => if machine.stack.depth = stackCapacity then some .stackOverflow else none
  | .setIndexLong => blockFault? arch machine.pc 2
  | _ => blockFault? arch machine.index (machine.blockLength arch dialect instruction)

/-- The three decimal digits of a byte. -/
def decimalDigits (value : UInt8) : Array UInt8 := #[value / 100, value / 10 % 10, value % 10]

/-- The program counter stands behind a word that lies in memory, and a long instruction that was
seen there lies in memory as well. -/
structure Fetched (arch : Arch) (machine : Machine) : Prop where
  /-- The word in front of the program counter is an address. -/
  behind : 2 ≤ machine.pc
  /-- The word in front of the program counter lies in memory. -/
  inside : machine.pc ≤ arch.memorySize
  /-- So does a first word of a long instruction at the program counter. -/
  wide : machine.nextWide = true → machine.pc + 2 ≤ arch.memorySize

variable {arch : Arch} {dialect : Dialect} {machine : Machine}

/-! ## Register ranges -/

theorem length_range (x y : Digit) : (range x y).length = span x y + 1 := by
  revert x y
  decide

/-- Storing registers one by one, where all of them fit, stores the block of their bytes. -/
theorem storeEach_of_fits {v : Registers} (full : v.size = 16) {memory : Memory} {size : Nat}
    (sized : memory.Sized size) {address : Int} (nonneg : 0 ≤ address) {registers : List Digit}
    (fits : address + registers.length ≤ size) :
    storeEach v address registers memory =
      (memory.patch address.toNat (registers.map v.read).toArray, .ok ()) := by
  induction registers generalizing address memory with
  | nil => rfl
  | cons register rest induction =>
      rw [List.length_cons] at fits
      have addresses := sized.addresses
      have next : (address + 1).toNat = address.toNat + 1 := by omega
      have stored := induction (sized.patch address.toNat #[v.read register])
        (by omega : 0 ≤ address + 1) (by omega)
      rw [next] at stored
      rw [storeEach, Registers.demand_of_full full,
        Store.write_of_inside nonneg (by omega)]
      exact stored

/-- Loading registers one by one never fails where all of them fit. -/
theorem loadEach_of_fits {memory : Memory} {size : Nat} (sized : memory.Sized size)
    {v : Registers} (full : v.size = 16) {address : Int} (nonneg : 0 ≤ address)
    {registers : List Digit} (fits : address + registers.length ≤ size) :
    ∃ after, loadEach memory address registers v = (after, .ok ()) ∧ after.size = 16 := by
  induction registers generalizing address v with
  | nil => exact ⟨v, rfl, full⟩
  | cons register rest induction =>
      rw [List.length_cons] at fits
      have addresses := sized.addresses
      obtain ⟨after, loaded, full_after⟩ :=
        induction (v := v.write register (memory.cells.getD address.toNat default))
          (by rw [Registers.size_write, full]) (by omega : 0 ≤ address + 1) (by omega)
      refine ⟨after, ?_, full_after⟩
      rw [loadEach, Registers.demand_of_full full,
        Store.read_of_inside nonneg (by omega)]
      exact loaded

section Ranges

variable {size : Nat} {x y : Digit}

theorem checkRange_of_fits (sized : machine.memory.Sized size) (nonneg : 0 ≤ machine.index)
    (fits : machine.index + (range x y).length ≤ size) :
    machine.checkRange (range x y) = .ok () := by
  have addresses := sized.addresses
  rw [checkRange]
  rw [length_range] at fits ⊢
  exact Store.check_of_inside (by omega) (by omega)

theorem storeRange_of_fits (full : machine.v.size = 16) (sized : machine.memory.Sized size)
    (nonneg : 0 ≤ machine.index) (fits : machine.index + (range x y).length ≤ size) :
    machine.storeRange x y =
      ({ machine with
          memory := machine.memory.patch machine.index.toNat
            ((range x y).map machine.v.read).toArray }, .ok ()) := by
  simp only [storeRange, checkRange_of_fits sized nonneg fits,
    storeEach_of_fits full sized nonneg fits]

theorem loadRange_of_fits (full : machine.v.size = 16) (sized : machine.memory.Sized size)
    (nonneg : 0 ≤ machine.index) (fits : machine.index + (range x y).length ≤ size) :
    ∃ v, machine.loadRange x y = ({ machine with v }, .ok ()) ∧ v.size = 16 := by
  obtain ⟨v, loaded, full_after⟩ := loadEach_of_fits sized full nonneg fits
  refine ⟨v, ?_, full_after⟩
  simp only [loadRange, checkRange_of_fits sized nonneg fits, loaded]

end Ranges

/-! ## Blocks at an address -/

theorem blockFault?_eq_none {address : Int} {length : Nat} (positive : 0 < length) :
    blockFault? arch address length = none ↔ address + length ≤ arch.memorySize := by
  rw [blockFault?]
  split <;> simp <;> omega

theorem blockFault?_eq_some {address : Int} {length : Nat} {fault : Fault} :
    blockFault? arch address length = some fault ↔
      0 < length ∧ arch.memorySize < address + length ∧
        fault = .outOfBounds (address + length - 1) := by
  rw [blockFault?]
  split <;> simp_all [eq_comm]

theorem refusal?_ret : machine.refusal? arch dialect .ret =
    if machine.stack.depth = 0 then some .stackUnderflow else none := rfl

theorem refusal?_call (address : Fin 0x1000) : machine.refusal? arch dialect (.call address) =
    if machine.stack.depth = stackCapacity then some .stackOverflow else none := rfl

theorem refusal?_draw (x y rows : Digit) : machine.refusal? arch dialect (.draw x y rows) =
    blockFault? arch machine.index
      (if machine.mustWait dialect then 0 else machine.spriteBytes arch rows) := rfl

/-- The four reasons for a refusal. -/
theorem refusal?_cases {instruction : Instruction} {fault : Fault}
    (refused : machine.refusal? arch dialect instruction = some fault) :
    (instruction = .ret ∧ machine.stack.depth = 0 ∧ fault = .stackUnderflow) ∨
    (∃ address, instruction = .call address ∧ machine.stack.depth = stackCapacity ∧
      fault = .stackOverflow) ∨
    (instruction = .setIndexLong ∧ arch.memorySize < machine.pc + 2 ∧
      fault = .outOfBounds (machine.pc + 1)) ∨
    (0 < machine.blockLength arch dialect instruction ∧
      arch.memorySize < machine.index + machine.blockLength arch dialect instruction ∧
      fault = .outOfBounds
        (machine.index + machine.blockLength arch dialect instruction - 1)) := by
  cases instruction with
  | ret =>
      rw [refusal?_ret] at refused
      split at refused
      case isTrue unused =>
        cases refused
        exact Or.inl ⟨rfl, unused, rfl⟩
      case isFalse => cases refused
  | call address =>
      rw [refusal?_call] at refused
      split at refused
      case isTrue full =>
        cases refused
        exact Or.inr (Or.inl ⟨address, rfl, full, rfl⟩)
      case isFalse => cases refused
  | setIndexLong =>
      obtain ⟨-, outside, rfl⟩ := blockFault?_eq_some.mp refused
      exact Or.inr (Or.inr (Or.inl ⟨rfl, outside, by congr 1; omega⟩))
  | _ => exact Or.inr (Or.inr (Or.inr (blockFault?_eq_some.mp refused)))

/-- The block of an instruction that is not refused lies inside memory. -/
theorem blockFault?_of_accepted {instruction : Instruction}
    (accepted : machine.refusal? arch dialect instruction = none) :
    blockFault? arch machine.index (machine.blockLength arch dialect instruction) = none := by
  cases instruction with
  | ret | call _ | setIndexLong => rfl
  | _ => exact accepted

theorem used_of_accepted (accepted : machine.refusal? arch dialect .ret = none) :
    0 < machine.stack.depth := by
  by_contra unused
  rw [refusal?_ret, if_pos (by omega)] at accepted
  cases accepted

theorem WellFormed.room_of_accepted (wellFormed : machine.WellFormed arch dialect)
    {address : Fin 0x1000} (accepted : machine.refusal? arch dialect (.call address) = none) :
    machine.stack.depth < stackCapacity := by
  have depth_le := wellFormed.stack.depth_le
  by_contra no_room
  rw [refusal?_call, if_pos (by omega)] at accepted
  cases accepted

/-! ## Effects -/

/-- Going over to another machine commutes with a change that both undergo. -/
theorem settle_map (change : Machine → Machine) (machine : Machine)
    {before after : Except Fault Machine} (same : after = change <$> before) :
    (change machine).settle after =
      (change (machine.settle before).1, (machine.settle before).2) := by
  rw [same]
  rcases before with fault | other <;> rfl

section Effects

variable {random : UInt8}

theorem perform_ret {pc : Int} {stack : CallStack} (popped : machine.stack.pop = .ok (pc, stack)) :
    machine.perform arch dialect random .ret = ({ machine with pc, stack }, .ok ()) := by
  rw [perform, popped]
  rfl

theorem perform_call {address : Fin 0x1000} {stack : CallStack}
    (pushed : machine.stack.push machine.pc = .ok stack) :
    machine.perform arch dialect random (.call address) =
      ({ machine with pc := address.val, stack }, .ok ()) := by
  rw [perform, pushed]
  rfl

theorem perform_draw_of_wait {x y rows : Digit} (waits : machine.mustWait dialect = true) :
    machine.perform arch dialect random (.draw x y rows) = (machine.again, .ok ()) := by
  rw [perform, if_pos waits]
  rfl

theorem perform_draw {x y rows : Digit} {after : Machine} (full : machine.v.size = 16)
    (goes : ¬ machine.mustWait dialect = true)
    (drawn : machine.draw arch dialect x y rows = .ok after) :
    machine.perform arch dialect random (.draw x y rows) = (after, .ok ()) := by
  rw [perform, if_neg goes, drawn]
  simp only [Registers.demand_of_full full]

theorem perform_storeDecimal {x : Digit} {result : Except Fault Memory}
    (written : machine.memory.writeBlock machine.index (decimalDigits (machine.v.read x)) =
      result) :
    machine.perform arch dialect random (.storeDecimal x) =
      machine.settle (result.map fun memory => { machine with memory }) := by
  rw [← written]
  rfl

theorem perform_store {x : Digit} {result : Except Fault Memory}
    (written : machine.memory.writeBlock machine.index (machine.v.upTo x) = result) :
    machine.perform arch dialect random (.store x) =
      machine.settle (result.map fun memory =>
        { machine with memory }.passBlock arch dialect x) := by
  rw [← written]
  rfl

theorem perform_load {x : Digit} {result : Except Fault (Array UInt8)}
    (read : machine.memory.readBlock machine.index (x + 1 : Nat) = result) :
    machine.perform arch dialect random (.load x) =
      machine.settle (result.map fun block =>
        { machine with v := machine.v.refill x block }.passBlock arch dialect x) := by
  rw [← read]
  rfl

end Effects

namespace WellFormed

theorem readBlock_of_fault (wellFormed : machine.WellFormed arch dialect) {address : Int}
    {length : Nat} {fault : Fault} (refused : blockFault? arch address length = some fault) :
    machine.memory.readBlock address length = .error fault := by
  obtain ⟨-, outside, rfl⟩ := blockFault?_eq_some.mp refused
  exact Store.readBlock_of_outside wellFormed.memory outside

theorem writeBlock_of_fault (wellFormed : machine.WellFormed arch dialect) {address : Int}
    (block : Array UInt8) {fault : Fault}
    (refused : blockFault? arch address block.size = some fault) :
    machine.memory.writeBlock address block = .error fault := by
  obtain ⟨-, outside, rfl⟩ := blockFault?_eq_some.mp refused
  exact Store.writeBlock_of_outside wellFormed.memory outside

/-- A block that ends inside memory is read in full. -/
theorem exists_readBlock (wellFormed : machine.WellFormed arch dialect) {address : Int}
    (nonneg : 0 ≤ address) {length : Nat} (positive : 0 < length)
    (accepted : blockFault? arch address length = none) :
    ∃ block, machine.memory.readBlock address length = .ok block ∧ block.size = length := by
  have inside := (blockFault?_eq_none positive).mp accepted
  refine ⟨_, Store.readBlock_of_inside wellFormed.memory nonneg (by omega) inside, ?_⟩
  have cells := wellFormed.memory.cells
  simp only [Array.size_extract, cells]
  omega

theorem writeBlock_of_accepted (wellFormed : machine.WellFormed arch dialect)
    (block : Array UInt8) (positive : 0 < block.size)
    (accepted : blockFault? arch machine.index block.size = none) :
    machine.memory.writeBlock machine.index block =
      .ok (machine.memory.patch machine.index.toNat block) := by
  have nonneg := wellFormed.index.1
  exact Store.writeBlock_of_inside wellFormed.memory nonneg (by omega)
    ((blockFault?_eq_none positive).mp accepted)

/-- A word that ends inside memory is read as a number of sixteen bits. -/
theorem exists_operand (wellFormed : machine.WellFormed arch dialect)
    (inside : machine.pc + 2 ≤ arch.memorySize) :
    ∃ value < 0x10000, machine.operand = .ok value := by
  obtain ⟨block, read, two⟩ := wellFormed.exists_readBlock wellFormed.pc.1 Nat.two_pos
    ((blockFault?_eq_none Nat.two_pos).mpr inside)
  refine ⟨Memory.bigEndian block, Memory.bigEndian_lt two, ?_⟩
  rw [operand, show (2 : Int) = (2 : Nat) from rfl, read]
  rfl

theorem operand_of_outside (wellFormed : machine.WellFormed arch dialect)
    (outside : arch.memorySize < machine.pc + 2) :
    machine.operand = .error (.outOfBounds (machine.pc + 1)) := by
  have refused : blockFault? arch machine.pc 2 = some (.outOfBounds (machine.pc + 1)) :=
    blockFault?_eq_some.mpr ⟨Nat.two_pos, outside, by congr 1; omega⟩
  rw [operand, show (2 : Int) = (2 : Nat) from rfl, wellFormed.readBlock_of_fault refused]
  rfl

/-! ## Changes that keep a machine well formed -/

theorem setV (wellFormed : machine.WellFormed arch dialect) {v : Registers} (full : v.size = 16) :
    { machine with v }.WellFormed arch dialect :=
  { wellFormed with v := full }

theorem setMemory (wellFormed : machine.WellFormed arch dialect) {memory : Memory}
    (sized : memory.Sized arch.memorySize) : { machine with memory }.WellFormed arch dialect :=
  { wellFormed with memory := sized }

theorem setIndex (wellFormed : machine.WellFormed arch dialect) {index : Int}
    (nonneg : 0 ≤ index) (inside : index < arch.memorySize) :
    { machine with index }.WellFormed arch dialect :=
  { wellFormed with index := ⟨nonneg, inside⟩ }

theorem setPc (wellFormed : machine.WellFormed arch dialect) {pc : Int} (nonneg : 0 ≤ pc)
    (near : pc ≤ arch.memorySize + 2) : { machine with pc }.WellFormed arch dialect :=
  { wellFormed with pc := ⟨nonneg, near⟩ }

theorem passBlock (wellFormed : machine.WellFormed arch dialect) (x : Digit) :
    (machine.passBlock arch dialect x).WellFormed arch dialect := by
  rw [Machine.passBlock]
  split
  · exact wellFormed.setIndex (Int.emod_nonneg _ arch.memorySize_ne_zero)
      (Int.emod_lt_of_pos _ arch.memorySize_pos)
  · exact wellFormed

theorem again (wellFormed : machine.WellFormed arch dialect) (fetched : machine.Fetched arch) :
    machine.again.WellFormed arch dialect := by
  have behind := fetched.behind
  have near := wellFormed.pc.2
  exact wellFormed.setPc (by omega) (by omega)

theorem skipNext (wellFormed : machine.WellFormed arch dialect)
    (fetched : machine.Fetched arch) : machine.skipNext.WellFormed arch dialect := by
  have behind := fetched.behind
  have inside := fetched.inside
  have wide := fetched.wide
  -- A long skip is taken only over a word that lies in memory, so four bytes are not too many.
  refine wellFormed.setPc ?_ ?_ <;> split <;> simp_all <;> omega

theorem setResolution (wellFormed : machine.WellFormed arch dialect)
    (extended : arch.includes .superChip) (high : Bool) :
    (machine.setResolution arch high).WellFormed arch dialect := by
  by_cases blanked : arch.includes .xoChip
  · simp only [Machine.setResolution, if_pos blanked]
    exact
      { wellFormed with
        screen :=
          { width_eq := wellFormed.screen.clearAll.width_eq
            height_eq := wellFormed.screen.clearAll.height_eq
            planes_size := wellFormed.screen.clearAll.planes_size
            planes_sized := wellFormed.screen.clearAll.planes_sized }
        wraps := wellFormed.wraps
        lowRes := by rw [extended]; rfl
        highRes := fun _ => extended
        mask := wellFormed.mask
        single := fun base => absurd blanked (by rw [base]; decide) }
  · simp only [Machine.setResolution, if_neg blanked]
    exact
      { wellFormed with
        screen :=
          { width_eq := wellFormed.screen.width_eq
            height_eq := wellFormed.screen.height_eq
            planes_size := wellFormed.screen.planes_size
            planes_sized := wellFormed.screen.planes_sized }
        lowRes := by rw [extended]; rfl
        highRes := fun _ => extended }

theorem selectPlanes (wellFormed : machine.WellFormed arch dialect)
    (extended : arch.includes .xoChip) {mask : Nat} (small : mask ≤ 3) :
    { machine with screen := { machine.screen with mask } }.WellFormed arch dialect :=
  { wellFormed with
    screen :=
      { width_eq := wellFormed.screen.width_eq
        height_eq := wellFormed.screen.height_eq
        planes_size := wellFormed.screen.planes_size
        planes_sized := wellFormed.screen.planes_sized }
    mask := small
    single := fun base => absurd extended (by rw [base]; decide) }

/-- A return leaves the other addresses on the stack. -/
theorem popCall (wellFormed : machine.WellFormed arch dialect) {pc : Int} {stack : CallStack}
    (within : stack.Within stackCapacity) (items : machine.stack.toList = stack.toList ++ [pc]) :
    { machine with pc, stack }.WellFormed arch dialect := by
  have returned := wellFormed.returns pc (by rw [items]; simp)
  exact
    { wellFormed.setPc (by omega : 0 ≤ pc) (by omega) with
      stack := within
      returns := fun address member =>
        wellFormed.returns address (by rw [items]; exact List.mem_append_left _ member) }

/-- A call leaves the address behind it on the stack. -/
theorem pushCall (wellFormed : machine.WellFormed arch dialect) (fetched : machine.Fetched arch)
    (address : Fin 0x1000) {stack : CallStack} (within : stack.Within stackCapacity)
    (items : stack.toList = machine.stack.toList ++ [machine.pc]) :
    { machine with pc := address.val, stack }.WellFormed arch dialect := by
  have thousand := arch.thousand_le_memorySize
  exact
    { wellFormed.setPc (by omega : (0 : Int) ≤ address.val) (by omega) with
      stack := within
      returns := by
        intro item member
        rw [items, List.mem_append, List.mem_singleton] at member
        rcases member with below | rfl
        · exact wellFormed.returns item below
        · exact ⟨fetched.behind, fetched.inside⟩ }

/-! ## Operations that never fail on a well-formed machine -/

theorem exists_combine (wellFormed : machine.WellFormed arch dialect) (operation : Arithmetic)
    (x y : Digit) :
    ∃ v, machine.combine dialect operation x y = ({ machine with v }, .ok ()) ∧ v.size = 16 := by
  rcases applied : operation.apply dialect (machine.v.read x) (machine.v.read y) with
    ⟨result, flag⟩
  have full : (machine.v.write x result).size = 16 := by rw [Registers.size_write, wellFormed.v]
  cases flag with
  | none =>
      refine ⟨machine.v.write x result, ?_, full⟩
      simp only [combine, applied]
      rfl
  | some flag =>
      refine ⟨(machine.v.write x result).write 15 flag, ?_, ?_⟩
      · simp only [combine, applied, Machine.setRegister, Registers.demand_of_full full]
      · rw [Registers.size_write, full]

theorem exists_scroll (wellFormed : machine.WellFormed arch dialect) (direction : Direction)
    (count : Digit) :
    ∃ screen, machine.scroll dialect direction count = .ok { machine with screen } ∧
      Screen.Repainted machine.screen screen := by
  obtain ⟨screen, scrolled, repainted⟩ := wellFormed.screen.scroll direction
    (if dialect .physicalScroll then count.val else count * machine.screen.scale)
  refine ⟨screen, ?_, repainted⟩
  simp only [scroll, scrolled]
  rfl

theorem readDelay_eq (wellFormed : machine.WellFormed arch dialect) (x : Digit) :
    machine.readDelay x = .ok (machine.setRegister x (.ofNat machine.delay.toNat)) := by
  rw [readDelay, if_pos wellFormed.delay]

theorem demand_eq (wellFormed : machine.WellFormed arch dialect) (needed : List Digit) :
    machine.v.demand needed = .ok () :=
  Registers.demand_of_full wellFormed.v needed

/-- A well-formed machine has every register that an instruction may ask for. -/
theorem execute_eq_perform (wellFormed : machine.WellFormed arch dialect) (random : UInt8)
    (instruction : Instruction) :
    machine.execute arch dialect random instruction =
      machine.perform arch dialect random instruction := by
  rw [execute, wellFormed.demand_eq]

/-! ## Sprites and register ranges -/

/-- The screen of a well-formed machine has pixels. -/
theorem visible (wellFormed : machine.WellFormed arch dialect) :
    ¬ (machine.screen.logicalWidth = 0 ∨ machine.screen.logicalHeight = 0) := by
  obtain ⟨wide, high⟩ := wellFormed.scale_le
  have positive := machine.screen.scale_pos
  have width_pos := Nat.div_pos wide positive
  have height_pos := Nat.div_pos high positive
  rw [Screen.logicalWidth, Screen.logicalHeight, wellFormed.screen.width_eq,
    wellFormed.screen.height_eq]
  norm_cast
  omega

theorem draw_of_fault (wellFormed : machine.WellFormed arch dialect) {x y rows : Digit}
    {fault : Fault}
    (refused : blockFault? arch machine.index (machine.spriteBytes arch rows) = some fault) :
    machine.draw arch dialect x y rows = .error fault := by
  refine draw_of_refused wellFormed.visible ?_
  have needed : machine.spriteBytes arch rows ≠ 0 :=
    Nat.pos_iff_ne_zero.mp (blockFault?_eq_some.mp refused).1
  rw [pictures, if_neg needed]
  exact wellFormed.readBlock_of_fault refused

/-- The pictures of a sprite that ends inside memory can be read. -/
theorem exists_pictures (wellFormed : machine.WellFormed arch dialect) {rows : Digit}
    (accepted : blockFault? arch machine.index (machine.spriteBytes arch rows) = none) :
    ∃ fetched, machine.pictures arch rows = .ok fetched := by
  by_cases none_needed : machine.spriteBytes arch rows = 0
  · exact ⟨#[], by rw [pictures, if_pos none_needed]⟩
  · obtain ⟨block, read, -⟩ := wellFormed.exists_readBlock wellFormed.index.1
      (Nat.pos_of_ne_zero none_needed) accepted
    exact ⟨block, by rw [pictures, if_neg none_needed, read]⟩

/-- Sprites start on the screen. -/
theorem corner_nonneg (wellFormed : machine.WellFormed arch dialect) (x y : Digit) :
    0 ≤ Int.fmod (machine.v.read x).toNat machine.screen.logicalWidth ∧
      0 ≤ Int.fmod (machine.v.read y).toNat machine.screen.logicalHeight := by
  constructor
  · rw [Screen.logicalWidth, wellFormed.screen.width_eq]
    exact Int.fmod_nonneg (Int.natCast_nonneg _)
      (Int.ediv_nonneg (Int.natCast_nonneg _) (Int.natCast_nonneg _))
  · rw [Screen.logicalHeight, wellFormed.screen.height_eq]
    exact Int.fmod_nonneg (Int.natCast_nonneg _)
      (Int.ediv_nonneg (Int.natCast_nonneg _) (Int.natCast_nonneg _))

/-- A sprite of at most sixteen rows on at most two planes has few rows that collide, so their
number fits a byte. -/
theorem draw_of_drawn (wellFormed : machine.WellFormed arch dialect) {x y rows : Digit}
    {fetched : Array UInt8} (pictures_eq : machine.pictures arch rows = .ok fetched)
    {after : Screen} {count : Nat}
    (drawn : machine.screen.drawPictures (dialect .clipCollision)
      (SpriteSize.ofRows arch machine.highRes rows)
      (Int.fmod (machine.v.read x).toNat machine.screen.logicalWidth)
      (Int.fmod (machine.v.read y).toNat machine.screen.logicalHeight)
      machine.screen.selected fetched = .ok (after, count)) :
    machine.draw arch dialect x y rows =
      .ok { machine with
        screen := after
        v := machine.v.write 15
          (.ofNat (if arch = .superChip ∧ machine.highRes then count else min count 1)) } := by
  have few := Screen.drawPictures_count_le drawn
  have few_planes : machine.screen.selected.length ≤ 2 := by
    rw [← wellFormed.screen.planes_size]
    exact (List.length_filter_le _ _).trans_eq List.length_range
  have few_rows : (SpriteSize.ofRows arch machine.highRes rows).rows ≤ 16 := by
    rw [SpriteSize.ofRows]
    split
    · exact Nat.le_refl _
    · exact Nat.le_of_lt rows.isLt
  have bound := Nat.mul_le_mul few_planes few_rows
  exact Machine.draw_of_drawn wellFormed.visible pictures_eq drawn (by omega)

/-- A sprite that ends inside memory is drawn; only the screen and VF change. -/
theorem exists_draw (wellFormed : machine.WellFormed arch dialect) (x y : Digit) {rows : Digit}
    (accepted : blockFault? arch machine.index (machine.spriteBytes arch rows) = none) :
    ∃ screen value,
      machine.draw arch dialect x y rows =
        .ok { machine with screen, v := machine.v.write 15 value } ∧
      Screen.Repainted machine.screen screen := by
  obtain ⟨fetched, pictures_eq⟩ := wellFormed.exists_pictures accepted
  obtain ⟨wide, high⟩ := wellFormed.scale_le
  obtain ⟨left_nonneg, top_nonneg⟩ := wellFormed.corner_nonneg x y
  obtain ⟨screen, count, drawn, repainted⟩ := wellFormed.screen.drawPictures wide high
    (dialect .clipCollision) (SpriteSize.ofRows arch machine.highRes rows) left_nonneg top_nonneg
    fetched
  exact ⟨screen, _, wellFormed.draw_of_drawn pictures_eq drawn, repainted⟩

theorem checkRange_of_fault (wellFormed : machine.WellFormed arch dialect) {x y : Digit}
    {fault : Fault} (refused : blockFault? arch machine.index (span x y + 1) = some fault) :
    machine.checkRange (range x y) = .error fault := by
  have addresses := wellFormed.memorySize_eq
  obtain ⟨-, outside, rfl⟩ := blockFault?_eq_some.mp refused
  rw [checkRange, length_range]
  exact Store.check_of_outside (by omega)

theorem exists_storeRange (wellFormed : machine.WellFormed arch dialect) {x y : Digit}
    (accepted : blockFault? arch machine.index (span x y + 1) = none) :
    ∃ memory, machine.storeRange x y = ({ machine with memory }, .ok ()) ∧
      memory.Sized arch.memorySize := by
  have inside := (blockFault?_eq_none (Nat.add_one_pos (span x y))).mp accepted
  rw [← length_range] at inside
  exact ⟨_, storeRange_of_fits wellFormed.v wellFormed.memory wellFormed.index.1 inside,
    wellFormed.memory.patch _ _⟩

theorem exists_loadRange (wellFormed : machine.WellFormed arch dialect) {x y : Digit}
    (accepted : blockFault? arch machine.index (span x y + 1) = none) :
    ∃ v, machine.loadRange x y = ({ machine with v }, .ok ()) ∧ v.size = 16 := by
  have inside := (blockFault?_eq_none (Nat.add_one_pos (span x y))).mp accepted
  rw [← length_range] at inside
  exact loadRange_of_fits wellFormed.v wellFormed.memory wellFormed.index.1 inside

/-! ## Instructions -/

/-- An instruction whose block ends outside memory leaves the machine as it was. -/
theorem perform_of_blockFault (wellFormed : machine.WellFormed arch dialect) {random : UInt8}
    {instruction : Instruction} {fault : Fault}
    (refused : blockFault? arch machine.index (machine.blockLength arch dialect instruction) =
      some fault) :
    machine.perform arch dialect random instruction = (machine, .error fault) := by
  cases instruction with
  | draw x y rows =>
      rw [blockLength] at refused
      by_cases waits : machine.mustWait dialect
      · rw [if_pos waits] at refused
        cases (blockFault?_eq_some.mp refused).1
      · rw [if_neg waits] at refused
        rw [perform, if_neg waits, wellFormed.draw_of_fault refused]
  | storeDecimal x =>
      rw [perform_storeDecimal (wellFormed.writeBlock_of_fault (decimalDigits _) refused)]
      rfl
  | store x =>
      have length := Registers.size_upTo wellFormed.v x
      rw [perform_store (wellFormed.writeBlock_of_fault _ (by rw [length]; exact refused))]
      rfl
  | load x =>
      rw [perform_load (wellFormed.readBlock_of_fault refused)]
      rfl
  | storeRange x y => rw [perform, storeRange, wellFormed.checkRange_of_fault refused]
  | loadRange x y => rw [perform, loadRange, wellFormed.checkRange_of_fault refused]
  | loadPattern =>
      have outside : machine.memory.readBlock machine.index 16 = .error fault :=
        wellFormed.readBlock_of_fault refused
      rw [perform, outside]
      rfl
  | _ => cases (blockFault?_eq_some.mp refused).1

/-- A refused instruction leaves the machine as it was. -/
theorem perform_of_refused (wellFormed : machine.WellFormed arch dialect) {random : UInt8}
    {instruction : Instruction} {fault : Fault}
    (refused : machine.refusal? arch dialect instruction = some fault) :
    machine.perform arch dialect random instruction = (machine, .error fault) := by
  rcases refusal?_cases refused with
    ⟨rfl, unused, rfl⟩ | ⟨address, rfl, full, rfl⟩ | ⟨rfl, outside, rfl⟩ | blocked
  · rw [perform, BoundedStack.pop_of_unused unused]
    rfl
  · rw [perform, wellFormed.stack.push_of_full machine.pc full]
    rfl
  · rw [perform, wellFormed.operand_of_outside outside]
    rfl
  · exact wellFormed.perform_of_blockFault (blockFault?_eq_some.mpr blocked)

/-- An instruction that is not refused is carried out.  If it had just been fetched, the machine is
well formed again afterwards. -/
theorem exists_perform (wellFormed : machine.WellFormed arch dialect) (random : UInt8)
    {instruction : Instruction} (supported : instruction.Supported arch)
    (accepted : machine.refusal? arch dialect instruction = none) :
    ∃ after, machine.perform arch dialect random instruction = (after, .ok ()) ∧
      (machine.Fetched arch → after.WellFormed arch dialect) := by
  have thousand := arch.thousand_le_memorySize
  cases instruction with
  | nop => exact ⟨machine, rfl, fun _ => wellFormed⟩
  | clear => exact ⟨_, rfl, fun _ => wellFormed.repaint machine.screen.repainted_clear⟩
  | ret =>
      obtain ⟨pc, stack, popped, within, items⟩ := wellFormed.stack.pop (used_of_accepted accepted)
      exact ⟨_, perform_ret popped, fun _ => wellFormed.popCall within items⟩
  | jump address => exact ⟨_, rfl, fun _ => wellFormed.setPc (by omega) (by omega)⟩
  | call address =>
      obtain ⟨stack, pushed, within, items⟩ :=
        wellFormed.stack.push machine.pc (wellFormed.room_of_accepted accepted)
      exact ⟨_, perform_call pushed, fun fetched =>
        wellFormed.pushCall fetched address within items⟩
  | skip condition =>
      refine ⟨_, rfl, fun fetched => ?_⟩
      split
      · exact wellFormed.skipNext fetched
      · exact wellFormed
  | setByte x byte => exact ⟨_, rfl, fun _ => wellFormed.setRegister x byte⟩
  | addByte x byte => exact ⟨_, rfl, fun _ => wellFormed.setRegister x _⟩
  | arithmetic operation x y =>
      obtain ⟨v, combined, full⟩ := wellFormed.exists_combine operation x y
      exact ⟨_, combined, fun _ => wellFormed.setV full⟩
  | setIndex address => exact ⟨_, rfl, fun _ => wellFormed.setIndex (by omega) (by omega)⟩
  | jumpIndexed address =>
      have below := Int.emod_lt_of_pos
        ((machine.v.read (jumpRegister dialect address)).toNat + address.val : Int)
        arch.memorySize_pos
      exact ⟨_, rfl, fun _ =>
        wellFormed.setPc (Int.emod_nonneg _ arch.memorySize_ne_zero) (by omega)⟩
  | random x mask => exact ⟨_, rfl, fun _ => wellFormed.setRegister x _⟩
  | draw x y rows =>
      by_cases waits : machine.mustWait dialect
      · -- Waiting goes back over the word that was fetched, so the counter stays in range.
        exact ⟨_, perform_draw_of_wait waits, wellFormed.again⟩
      · rw [refusal?_draw, if_neg waits] at accepted
        obtain ⟨screen, value, drawn, repainted⟩ := wellFormed.exists_draw x y accepted
        exact ⟨_, perform_draw wellFormed.v waits drawn,
          fun _ => (wellFormed.repaint repainted).setRegister 15 value⟩
  | readDelay x =>
      refine ⟨_, ?_, fun _ => wellFormed.setRegister x (.ofNat machine.delay.toNat)⟩
      rw [perform, wellFormed.readDelay_eq x]
      rfl
  | awaitKey x =>
      rcases held : machine.lowestKey? with _ | key
      · exact ⟨machine.again, by simp only [perform, held]; rfl, wellFormed.again⟩
      · refine ⟨_, ?_, fun _ => wellFormed.setRegister x (.ofNat key)⟩
        simp only [perform, held]
        rfl
  | setDelay x =>
      exact ⟨_, rfl, fun _ => { wellFormed with delay := machine.v.byte_read x }⟩
  | setSound x =>
      exact ⟨_, rfl, fun _ => { wellFormed with sound := machine.v.byte_read x }⟩
  | addIndex x =>
      exact ⟨_, rfl, fun _ => wellFormed.setIndex (Int.emod_nonneg _ arch.memorySize_ne_zero)
        (Int.emod_lt_of_pos _ arch.memorySize_pos)⟩
  | smallDigit x =>
      have digit := Nat.mod_lt (machine.v.read x).toNat (by omega : 16 > 0)
      refine ⟨_, rfl, fun _ => wellFormed.setIndex ?_ ?_⟩ <;>
        simp only [Font.smallStart, Font.smallSize] <;> omega
  | storeDecimal x =>
      refine ⟨_, ?_, fun _ => wellFormed.setMemory (wellFormed.memory.patch
        machine.index.toNat (decimalDigits (machine.v.read x)))⟩
      rw [perform_storeDecimal
        (wellFormed.writeBlock_of_accepted (decimalDigits _) (Nat.succ_pos 2) accepted)]
      rfl
  | store x =>
      have length := Registers.size_upTo wellFormed.v x
      refine ⟨_, ?_, fun _ => (wellFormed.setMemory (wellFormed.memory.patch
        machine.index.toNat (machine.v.upTo x))).passBlock x⟩
      rw [perform_store
        (wellFormed.writeBlock_of_accepted _ (by omega) (by rw [length]; exact accepted))]
      rfl
  | load x =>
      obtain ⟨block, read, length⟩ :=
        wellFormed.exists_readBlock wellFormed.index.1 (Nat.succ_pos _) accepted
      refine ⟨_, ?_, fun _ =>
        (wellFormed.setV (Registers.size_refill wellFormed.v length)).passBlock x⟩
      rw [perform_load read]
      rfl
  | scroll direction count =>
      obtain ⟨screen, scrolled, repainted⟩ := wellFormed.exists_scroll direction count
      refine ⟨_, ?_, fun _ => wellFormed.repaint repainted⟩
      rw [perform, scrolled]
      rfl
  | restart =>
      have start : programStart = 0x200 := rfl
      exact ⟨_, rfl, fun _ => wellFormed.setPc (by omega) (by omega)⟩
  | resolution high => exact ⟨_, rfl, fun _ => wellFormed.setResolution supported high⟩
  | largeDigit x =>
      have digit := Nat.mod_lt (machine.v.read x).toNat (by omega : 16 > 0)
      refine ⟨_, rfl, fun _ => wellFormed.setIndex ?_ ?_⟩ <;>
        simp only [Font.largeStart, Font.largeSize] <;> omega
  | saveFlags x =>
      exact ⟨_, rfl, fun _ =>
        { wellFormed with
          flags := Registers.size_refill wellFormed.flags (Registers.size_upTo wellFormed.v x) }⟩
  | loadFlags x =>
      exact ⟨_, rfl, fun _ => wellFormed.setV
        (Registers.size_refill wellFormed.v (Registers.size_upTo wellFormed.flags x))⟩
  | storeRange x y =>
      obtain ⟨memory, stored, sized⟩ := wellFormed.exists_storeRange accepted
      exact ⟨_, stored, fun _ => wellFormed.setMemory sized⟩
  | loadRange x y =>
      obtain ⟨v, loaded, full⟩ := wellFormed.exists_loadRange accepted
      exact ⟨_, loaded, fun _ => wellFormed.setV full⟩
  | setIndexLong =>
      have inside := (blockFault?_eq_none Nat.two_pos).mp accepted
      obtain ⟨value, spelled, read⟩ := wellFormed.exists_operand inside
      -- Only XO-CHIP has the instruction, and its memory takes every number of sixteen bits.
      have extended : arch.memorySize = 0x10000 := by cases arch <;> first | rfl | cases supported
      have nonneg := wellFormed.pc.1
      refine ⟨_, ?_, fun _ => (wellFormed.setIndex (Int.natCast_nonneg value) (by omega)).setPc
        (by omega : 0 ≤ machine.pc + 2) (by omega)⟩
      rw [perform, read]
      rfl
  | selectPlanes mask =>
      obtain ⟨extended, small⟩ := supported
      have planes := wellFormed.screen.planes_size
      have mask_le : mask.val ≤ 3 := small
      have named : 0 ≤ (mask.val : Int) ∧
          (mask.val : Int) < (1 <<< machine.screen.planes.size : Nat) := by
        rw [planes]
        omega
      refine ⟨_, ?_, fun _ => wellFormed.selectPlanes extended mask_le⟩
      rw [perform, Screen.select, if_pos named]
      rfl
  | loadPattern =>
      obtain ⟨block, read, length⟩ :=
        wellFormed.exists_readBlock wellFormed.index.1 (by omega : 0 < 16) accepted
      refine ⟨{ machine with pattern := block }, ?_, fun _ => { wellFormed with pattern := length }⟩
      rw [perform, show (16 : Int) = (16 : Nat) from rfl, read]
      rfl
  | setPitch x => exact ⟨_, rfl, fun _ => { wellFormed with }⟩

end WellFormed

end Machine

end Chip8
