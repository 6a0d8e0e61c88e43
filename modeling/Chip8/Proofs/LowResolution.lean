import Chip8.Proofs.Enlargement
import Chip8.Proofs.Step

/-!
# XO-CHIP in low resolution

An XO-CHIP machine in low resolution mirrors a CHIP-8 machine when it holds the same data, has the
same memory with zeros above, and shows the same picture enlarged.  What a CHIP-8 machine does with
addresses below 0x1000, its mirror does as well, and stays its mirror.
-/

namespace Chip8

namespace Memory

/-- The large memory begins with the small one and holds zeros above it. -/
structure Extended (small large : Memory) : Prop where
  /-- The first 4096 bytes. -/
  low : ∀ address < 0x1000, large.cells[address]? = small.cells[address]?
  /-- The bytes above them. -/
  high : ∀ address, 0x1000 ≤ address → address < 0x10000 → large.cells[address]? = some 0

variable {small large : Memory}

theorem extended_clear (small_sized : small.Sized 0x1000) (large_sized : large.Sized 0x10000) :
    Extended (small.clear 0) (large.clear 0) where
  low address inside := by
    rw [Store.getElem?_clear small_sized 0 inside, Store.getElem?_clear large_sized 0 (by omega)]
  high address _ inside := Store.getElem?_clear large_sized 0 inside

/-- Storing the same block below 0x1000 keeps the large memory an extension. -/
theorem Extended.patch (extended : Extended small large) (small_sized : small.Sized 0x1000)
    (large_sized : large.Sized 0x10000) {place : Nat} {block : Array UInt8}
    (fits : place + block.size ≤ 0x1000) :
    Extended (small.patch place block) (large.patch place block) where
  low address inside := by
    have small_cells := small_sized.cells
    have large_cells := large_sized.cells
    by_cases covered : place ≤ address ∧ address < place + block.size
    · obtain ⟨after, before_end⟩ := covered
      rw [Store.getElem?_patch_inside after before_end (by omega),
        Store.getElem?_patch_inside after before_end (by omega)]
    · rw [Store.getElem?_patch_outside _ _ (by omega), Store.getElem?_patch_outside _ _ (by omega)]
      exact extended.low address inside
  high address above inside := by
    rw [Store.getElem?_patch_outside _ _ (by omega)]
    exact extended.high address above inside

/-- Blocks below 0x1000 read the same. -/
theorem Extended.readBlock_eq (extended : Extended small large) (small_sized : small.Sized 0x1000)
    (large_sized : large.Sized 0x10000) {address count : Int} (nonneg : 0 ≤ address)
    (positive : 0 < count) (fits : address + count ≤ 0x1000) :
    large.readBlock address count = small.readBlock address count := by
  have small_cells := small_sized.cells
  have large_cells := large_sized.cells
  rw [Store.readBlock_of_inside small_sized nonneg positive fits,
    Store.readBlock_of_inside large_sized nonneg positive (by omega)]
  congr 1
  apply Array.ext_getElem?
  intro index
  rw [Array.getElem?_extract, Array.getElem?_extract, small_cells, large_cells,
    show min (address + count).toNat 0x1000 = (address + count).toNat by omega,
    show min (address + count).toNat 0x10000 = (address + count).toNat by omega]
  split
  · exact extended.low _ (by omega)
  · rfl

end Memory

namespace Machine

/-- A large machine holds the same data as a small one and shows the same picture enlarged. -/
structure Agrees (small large : Machine) : Prop where
  /-- General registers. -/
  v : large.v = small.v
  /-- Index register. -/
  index : large.index = small.index
  /-- Program counter. -/
  pc : large.pc = small.pc
  /-- Return addresses in use. -/
  calls : large.stack.toList = small.stack.toList
  /-- Delay timer. -/
  delay : large.delay = small.delay
  /-- Sound timer. -/
  sound : large.sound = small.sound
  /-- Buzzer. -/
  beeping : large.beeping = small.beeping
  /-- Keys. -/
  keys : large.keys = small.keys
  /-- Flags that outlive a reset. -/
  flags : large.flags = small.flags
  /-- Sound pattern. -/
  pattern : large.pattern = small.pattern
  /-- Pitch of the pattern. -/
  pitch : large.pitch = small.pitch
  /-- Memory. -/
  memory : Memory.Extended small.memory large.memory
  /-- Display. -/
  screen : Screen.Enlarged small.screen large.screen

/-- An XO-CHIP machine in low resolution mirrors a CHIP-8 machine. -/
structure Mirrored (dialect : Dialect) (small large : Machine) : Prop where
  /-- The small machine is one of CHIP-8. -/
  small_wellFormed : small.WellFormed .chip8 dialect
  /-- The large machine is one of XO-CHIP. -/
  large_wellFormed : large.WellFormed .xoChip dialect
  /-- They agree. -/
  agrees : Agrees small large

/-- The sum that an instruction computes and takes modulo the size of the memory, if it does. -/
def addressSum (dialect : Dialect) (machine : Machine) : Instruction → Int
  | .jumpIndexed address => (machine.v.read (jumpRegister dialect address)).toNat + address.val
  | .addIndex x => machine.index + (machine.v.read x).toNat
  | .store x | .load x => if dialect .indexAdvance then machine.index + x + 1 else 0
  | _ => 0

variable {dialect : Dialect} {small large : Machine}

/-! ## What both machines find -/

namespace Mirrored

theorem depth_eq (mirrored : Mirrored dialect small large) :
    large.stack.depth = small.stack.depth := by
  rw [← mirrored.small_wellFormed.stack.length_toList,
    ← mirrored.large_wellFormed.stack.length_toList, mirrored.agrees.calls]

theorem readBlock_eq (mirrored : Mirrored dialect small large) {address : Int}
    (nonneg : 0 ≤ address) {length : Nat} (positive : 0 < length)
    (accepted : blockFault? .chip8 address length = none) :
    large.memory.readBlock address length = small.memory.readBlock address length :=
  mirrored.agrees.memory.readBlock_eq mirrored.small_wellFormed.memory
    mirrored.large_wellFormed.memory nonneg (by omega) ((blockFault?_eq_none positive).mp accepted)

theorem holds_eq (mirrored : Mirrored dialect small large) (condition : Condition) :
    condition.holds large = condition.holds small := by
  cases condition <;> simp only [Condition.holds, mirrored.agrees.v, mirrored.agrees.keys]

theorem spriteBytes_eq (mirrored : Mirrored dialect small large) {rows : Digit} (short : rows ≠ 0) :
    SpriteSize.ofRows .xoChip large.highRes rows = SpriteSize.ofRows .chip8 small.highRes rows ∧
      large.spriteBytes .xoChip rows = small.spriteBytes .chip8 rows := by
  have size : SpriteSize.ofRows .xoChip large.highRes rows =
      SpriteSize.ofRows .chip8 small.highRes rows := by
    simp [SpriteSize.ofRows, short]
  obtain ⟨small_selected, large_selected⟩ := mirrored.agrees.screen.selected_eq
  exact ⟨size, by rw [spriteBytes, spriteBytes, size, small_selected, large_selected]⟩

theorem pictures_eq (mirrored : Mirrored dialect small large) {rows : Digit} (short : rows ≠ 0)
    (accepted : blockFault? .chip8 small.index (small.spriteBytes .chip8 rows) = none) :
    large.pictures .xoChip rows = small.pictures .chip8 rows := by
  rw [pictures, pictures, (mirrored.spriteBytes_eq short).2, mirrored.agrees.index]
  split
  · rfl
  case isFalse needed =>
    exact mirrored.readBlock_eq mirrored.small_wellFormed.index.1 (Nat.pos_of_ne_zero needed)
      accepted

end Mirrored

theorem blockFault?_of_chip8 {address : Int} {length : Nat}
    (accepted : blockFault? .chip8 address length = none) :
    blockFault? .xoChip address length = none := by
  rcases Nat.eq_zero_or_pos length with rfl | positive
  · rfl
  · have inside := (blockFault?_eq_none positive).mp accepted
    have large : (Arch.chip8.memorySize : Int) ≤ Arch.xoChip.memorySize := by decide
    exact (blockFault?_eq_none positive).mpr (inside.trans large)

namespace Mirrored

theorem mustWait_eq (keyFrame : large.keyFrame = small.keyFrame) :
    large.mustWait dialect = small.mustWait dialect := by
  rw [mustWait, mustWait, keyFrame]

/-- Both machines need blocks of the same length, tall sprites apart. -/
theorem blockLength_eq (mirrored : Mirrored dialect small large)
    (keyFrame : large.keyFrame = small.keyFrame) {instruction : Instruction}
    (short : ∀ x y, instruction ≠ .draw x y 0) :
    large.blockLength .xoChip dialect instruction =
      small.blockLength .chip8 dialect instruction := by
  cases instruction with
  | draw x y rows =>
      have short_rows : rows ≠ 0 := by
        rintro rfl
        exact short x y rfl
      simp only [blockLength, mustWait_eq keyFrame, (mirrored.spriteBytes_eq short_rows).2]
  | _ => rfl

/-- What the small machine does not refuse, the large one does not refuse either. -/
theorem refusal?_eq_none (mirrored : Mirrored dialect small large)
    (keyFrame : large.keyFrame = small.keyFrame) {instruction : Instruction}
    (short : ∀ x y, instruction ≠ .draw x y 0)
    (accepted : small.refusal? .chip8 dialect instruction = none) :
    large.refusal? .xoChip dialect instruction = none := by
  have block (accepted : blockFault? .chip8 small.index
      (small.blockLength .chip8 dialect instruction) = none) :
      blockFault? .xoChip large.index (large.blockLength .xoChip dialect instruction) = none := by
    rw [mirrored.blockLength_eq keyFrame short, mirrored.agrees.index]
    exact blockFault?_of_chip8 accepted
  cases instruction with
  | ret =>
      rw [refusal?_ret] at accepted ⊢
      rw [mirrored.depth_eq]
      exact accepted
  | call address =>
      rw [refusal?_call] at accepted ⊢
      rw [mirrored.depth_eq]
      exact accepted
  | setIndexLong =>
      have accepted : blockFault? .chip8 small.pc 2 = none := accepted
      show blockFault? .xoChip large.pc 2 = none
      rw [mirrored.agrees.pc]
      exact blockFault?_of_chip8 accepted
  | _ => exact block accepted

end Mirrored

/-! ## What both machines do -/

namespace Agrees

theorem setRegister (agrees : Agrees small large) (x : Digit) (value : UInt8) :
    Agrees (small.setRegister x value) (large.setRegister x value) :=
  { agrees with v := by rw [Machine.setRegister, Machine.setRegister, agrees.v] }

theorem again (agrees : Agrees small large) : Agrees small.again large.again :=
  { agrees with pc := by rw [Machine.again, Machine.again, agrees.pc] }

theorem skipNext (agrees : Agrees small large) (nextWide : large.nextWide = small.nextWide) :
    Agrees small.skipNext large.skipNext :=
  { agrees with pc := by rw [Machine.skipNext, Machine.skipNext, agrees.pc, nextWide] }

theorem combine (agrees : Agrees small large) (operation : Arithmetic) (x y : Digit) :
    Agrees (small.combine dialect operation x y).1 (large.combine dialect operation x y).1 := by
  rw [Machine.combine, Machine.combine, agrees.v]
  rcases operation.apply dialect (small.v.read x) (small.v.read y) with ⟨result, _ | flag⟩
  · exact agrees.setRegister x result
  · exact (agrees.setRegister x result).setRegister 15 flag

/-- An address sum below 0x1000 is the same in both sizes of memory. -/
theorem wrapped_eq {sum : Int} (nonneg : 0 ≤ sum) (small : sum ≤ 0xFFF) :
    sum % Arch.xoChip.memorySize = sum % Arch.chip8.memorySize := by
  simp only [Arch.memorySize]
  omega

theorem passBlock (agrees : Agrees small large) (x : Digit) (nonneg : 0 ≤ small.index)
    (sum : (if dialect .indexAdvance then small.index + x + 1 else 0) ≤ 0xFFF) :
    Agrees (small.passBlock .chip8 dialect x) (large.passBlock .xoChip dialect x) := by
  rw [Machine.passBlock, Machine.passBlock]
  by_cases advances : dialect .indexAdvance
  · rw [if_pos advances] at sum
    rw [if_pos advances, if_pos advances]
    exact { agrees with index := by rw [agrees.index, wrapped_eq (by omega) sum] }
  · rw [if_neg advances, if_neg advances]
    exact agrees

end Agrees

namespace Mirrored

/-- Returning takes the same address from both stacks. -/
theorem agrees_ret (mirrored : Mirrored dialect small large) (used : 0 < small.stack.depth)
    (random : UInt8) :
    Agrees (small.perform .chip8 dialect random .ret).1
      (large.perform .xoChip dialect random .ret).1 := by
  obtain ⟨pc, stack, popped, -, items⟩ := mirrored.small_wellFormed.stack.pop used
  obtain ⟨pc', stack', popped', -, items'⟩ :=
    mirrored.large_wellFormed.stack.pop (by rw [mirrored.depth_eq]; exact used)
  rw [mirrored.agrees.calls, items] at items'
  obtain ⟨same_rest, same_last⟩ := List.append_inj' items' rfl
  rw [perform_ret popped, perform_ret popped']
  exact
    { mirrored.agrees with
      pc := (List.singleton_inj.mp same_last).symm
      calls := same_rest.symm }

/-- A call puts the same return address on both stacks. -/
theorem agrees_call (mirrored : Mirrored dialect small large) (address : Fin 0x1000)
    (room : small.stack.depth < stackCapacity) (random : UInt8) :
    Agrees (small.perform .chip8 dialect random (.call address)).1
      (large.perform .xoChip dialect random (.call address)).1 := by
  obtain ⟨stack, pushed, -, items⟩ := mirrored.small_wellFormed.stack.push small.pc room
  obtain ⟨stack', pushed', -, items'⟩ := mirrored.large_wellFormed.stack.push large.pc
    (by rw [mirrored.depth_eq]; exact room)
  rw [perform_call pushed, perform_call pushed']
  exact
    { mirrored.agrees with
      pc := rfl
      calls := by rw [items, items', mirrored.agrees.calls, mirrored.agrees.pc] }

/-- The same picture drawn at the same place collides alike. -/
theorem agrees_draw (mirrored : Mirrored dialect small large) (x y : Digit) {rows : Digit}
    (short : rows ≠ 0) (keyFrame : large.keyFrame = small.keyFrame)
    (accepted : small.refusal? .chip8 dialect (.draw x y rows) = none) (random : UInt8) :
    Agrees (small.perform .chip8 dialect random (.draw x y rows)).1
      (large.perform .xoChip dialect random (.draw x y rows)).1 := by
  have small_wellFormed := mirrored.small_wellFormed
  have large_wellFormed := mirrored.large_wellFormed
  have agrees := mirrored.agrees
  by_cases waits : small.mustWait dialect
  · rw [perform_draw_of_wait waits, perform_draw_of_wait ((mustWait_eq keyFrame).trans waits)]
    exact agrees.again
  · rw [refusal?_draw, if_neg waits] at accepted
    obtain ⟨fetched, small_pictures⟩ := small_wellFormed.exists_pictures accepted
    have large_pictures := (mirrored.pictures_eq short accepted).trans small_pictures
    obtain ⟨small_selected, large_selected⟩ := agrees.screen.selected_eq
    obtain ⟨logical_width, logical_height⟩ := agrees.screen.doubled.logical_eq
    obtain ⟨left_nonneg, top_nonneg⟩ := small_wellFormed.corner_nonneg x y
    -- Both screens are of the same logical size, so the sprite has the same corner on both.
    obtain ⟨screen, screen', count, small_drawn, large_drawn, enlarged⟩ :=
      Screen.drawPictures_matched (List.forall_mem_singleton.mpr Screen.Enlarged.flipsAlike)
        agrees.screen (dialect .clipCollision) (SpriteSize.ofRows .chip8 small.highRes rows)
        left_nonneg top_nonneg fetched
    rw [← small_selected] at small_drawn
    rw [← large_selected, ← logical_width, ← logical_height, ← agrees.v,
      ← (mirrored.spriteBytes_eq short).1] at large_drawn
    rw [perform_draw small_wellFormed.v waits
        (small_wellFormed.draw_of_drawn small_pictures small_drawn),
      perform_draw large_wellFormed.v (by rw [mustWait_eq keyFrame]; exact waits)
        (large_wellFormed.draw_of_drawn large_pictures large_drawn)]
    exact { agrees with v := by rw [agrees.v]; rfl, screen := enlarged }

theorem blockFault?_eq_none (mirrored : Mirrored dialect small large) {length : Nat}
    (accepted : blockFault? .chip8 small.index length = none) :
    blockFault? .xoChip large.index length = none := by
  rw [mirrored.agrees.index]
  exact blockFault?_of_chip8 accepted

/-- A block that fits into the small memory is stored at the same place in both. -/
theorem agrees_write (mirrored : Mirrored dialect small large) {block block' : Array UInt8}
    (same : block' = block) (fits : small.index + block.size ≤ Arch.chip8.memorySize) :
    Agrees { small with memory := small.memory.patch small.index.toNat block }
      { large with memory := large.memory.patch large.index.toNat block' } := by
  subst same
  have nonneg := mirrored.small_wellFormed.index.1
  have size : Arch.chip8.memorySize = 0x1000 := rfl
  exact
    { mirrored.agrees with
      memory := by
        rw [mirrored.agrees.index]
        exact mirrored.agrees.memory.patch mirrored.small_wellFormed.memory
          mirrored.large_wellFormed.memory (by omega) }

theorem agrees_storeDecimal (mirrored : Mirrored dialect small large) (x : Digit)
    (accepted : blockFault? .chip8 small.index 3 = none) (random : UInt8) :
    Agrees (small.perform .chip8 dialect random (.storeDecimal x)).1
      (large.perform .xoChip dialect random (.storeDecimal x)).1 := by
  have same : decimalDigits (large.v.read x) = decimalDigits (small.v.read x) := by
    rw [mirrored.agrees.v]
  have positive : 0 < (decimalDigits (small.v.read x)).size := Nat.succ_pos 2
  rw [perform_storeDecimal
      (mirrored.small_wellFormed.writeBlock_of_accepted _ positive accepted),
    perform_storeDecimal (mirrored.large_wellFormed.writeBlock_of_accepted _
      (Nat.succ_pos 2) (mirrored.blockFault?_eq_none accepted))]
  exact mirrored.agrees_write same ((Machine.blockFault?_eq_none positive).mp accepted)

theorem agrees_store (mirrored : Mirrored dialect small large) (x : Digit)
    (accepted : blockFault? .chip8 small.index (x + 1) = none)
    (sum : small.addressSum dialect (.store x) ≤ 0xFFF) (random : UInt8) :
    Agrees (small.perform .chip8 dialect random (.store x)).1
      (large.perform .xoChip dialect random (.store x)).1 := by
  have length := Registers.size_upTo mirrored.small_wellFormed.v x
  have same : large.v.upTo x = small.v.upTo x := by rw [mirrored.agrees.v]
  have positive : 0 < (small.v.upTo x).size := by omega
  rw [← length] at accepted
  have stored :=
    mirrored.agrees_write same ((Machine.blockFault?_eq_none positive).mp accepted)
  rw [perform_store (mirrored.small_wellFormed.writeBlock_of_accepted _ positive accepted),
    perform_store (mirrored.large_wellFormed.writeBlock_of_accepted _ (by rw [same]; exact positive)
      (by rw [same]; exact mirrored.blockFault?_eq_none accepted))]
  exact stored.passBlock x mirrored.small_wellFormed.index.1 sum

theorem agrees_load (mirrored : Mirrored dialect small large) (x : Digit)
    (accepted : blockFault? .chip8 small.index (x + 1) = none)
    (sum : small.addressSum dialect (.load x) ≤ 0xFFF) (random : UInt8) :
    Agrees (small.perform .chip8 dialect random (.load x)).1
      (large.perform .xoChip dialect random (.load x)).1 := by
  have nonneg := mirrored.small_wellFormed.index.1
  obtain ⟨block, small_read, -⟩ :=
    mirrored.small_wellFormed.exists_readBlock nonneg (Nat.succ_pos x.val) accepted
  have large_read : large.memory.readBlock large.index (x + 1 : Nat) = .ok block := by
    rw [mirrored.agrees.index, mirrored.readBlock_eq nonneg (Nat.succ_pos x.val) accepted]
    exact small_read
  have loaded : Agrees { small with v := small.v.refill x block }
      { large with v := large.v.refill x block } :=
    { mirrored.agrees with v := by rw [mirrored.agrees.v] }
  rw [perform_load small_read, perform_load large_read]
  exact loaded.passBlock x nonneg sum

/-- Both machines do the same with an instruction of CHIP-8 that is not refused. -/
theorem agrees_perform (mirrored : Mirrored dialect small large)
    (keyFrame : large.keyFrame = small.keyFrame) (nextWide : large.nextWide = small.nextWide)
    {instruction : Instruction} (supported : instruction.Supported .chip8)
    (accepted : small.refusal? .chip8 dialect instruction = none)
    (short : ∀ x y, instruction ≠ .draw x y 0)
    (sum : small.addressSum dialect instruction ≤ 0xFFF) (random : UInt8) :
    Agrees (small.perform .chip8 dialect random instruction).1
      (large.perform .xoChip dialect random instruction).1 := by
  have agrees := mirrored.agrees
  have index_nonneg := mirrored.small_wellFormed.index.1
  cases instruction with
  | nop => exact agrees
  | clear => exact { agrees with screen := agrees.screen.clear }
  | ret => exact mirrored.agrees_ret (used_of_accepted accepted) random
  | jump address => exact { agrees with pc := rfl }
  | call address =>
      exact mirrored.agrees_call address (mirrored.small_wellFormed.room_of_accepted accepted)
        random
  | skip condition =>
      simp only [perform, done, mirrored.holds_eq]
      split
      · exact agrees.skipNext nextWide
      · exact agrees
  | setByte x byte => exact agrees.setRegister x byte
  | addByte x byte =>
      refine { agrees with v := ?_ }
      simp only [perform, done, Machine.setRegister, agrees.v]
  | arithmetic operation x y => exact agrees.combine operation x y
  | setIndex address => exact { agrees with index := rfl }
  | jumpIndexed address =>
      have nonneg := Int.natCast_nonneg (small.v.read (jumpRegister dialect address)).toNat
      refine { agrees with pc := ?_ }
      simp only [perform, done, agrees.v]
      exact Agrees.wrapped_eq (by omega) sum
  | random x mask => exact agrees.setRegister x _
  | draw x y rows =>
      refine mirrored.agrees_draw x y ?_ keyFrame accepted random
      rintro rfl
      exact short x y rfl
  | readDelay x =>
      simp only [perform, mirrored.small_wellFormed.readDelay_eq,
        mirrored.large_wellFormed.readDelay_eq, agrees.delay]
      exact agrees.setRegister x _
  | awaitKey x =>
      have same : large.lowestKey? = small.lowestKey? := by
        rw [lowestKey?, lowestKey?, agrees.keys]
      simp only [perform, same]
      rcases small.lowestKey? with _ | key
      · exact agrees.again
      · exact agrees.setRegister x _
  | setDelay x =>
      refine { agrees with delay := ?_ }
      simp only [perform, done, agrees.v]
  | setSound x =>
      refine { agrees with sound := ?_ }
      simp only [perform, done, agrees.v]
  | addIndex x =>
      have nonneg := Int.natCast_nonneg (small.v.read x).toNat
      refine { agrees with index := ?_ }
      simp only [perform, done, agrees.v, agrees.index]
      exact Agrees.wrapped_eq (by omega) sum
  | smallDigit x =>
      refine { agrees with index := ?_ }
      simp only [perform, done, agrees.v]
  | storeDecimal x => exact mirrored.agrees_storeDecimal x accepted random
  | store x => exact mirrored.agrees_store x accepted sum random
  | load x => exact mirrored.agrees_load x accepted sum random
  | scroll direction count =>
      cases direction with
      | up | down => cases supported
      | left | right => cases supported.1
  | saveFlags x | loadFlags x => rcases supported with extended | ⟨extended, -⟩ <;> cases extended
  | selectPlanes mask => cases supported.1
  | _ => cases supported

end Mirrored

/-! ## Between instructions -/

-- Both memories are spelled out first.  Left to itself, the kernel would compare their cells.
theorem extended_powerOn (dialect : Dialect) :
    Memory.Extended (powerOn .chip8 dialect).memory (powerOn .xoChip dialect).memory := by
  have small_sized : Store.Sized (Memory.zeros Arch.chip8.memorySize) 0x1000 :=
    Store.sized_filled _ _
  have large_sized : Store.Sized (Memory.zeros Arch.xoChip.memorySize) 0x10000 :=
    Store.sized_filled _ _
  have cleared := Memory.extended_clear small_sized large_sized
  have small_digits := cleared.patch (small_sized.clear 0) (large_sized.clear 0)
    (by decide : Font.smallStart + Font.small.size ≤ 0x1000)
  rw [memory_powerOn, memory_powerOn]
  exact small_digits.patch ((small_sized.clear 0).patch _ _) ((large_sized.clear 0).patch _ _)
    (by decide : Font.largeStart + Font.large.size ≤ 0x1000)

theorem enlarged_powerOn (dialect : Dialect) :
    Screen.Enlarged (powerOn .chip8 dialect).screen (powerOn .xoChip dialect).screen :=
    { small_shaped := (wellFormed_powerOn .chip8 dialect).screen
      large_shaped := (wellFormed_powerOn .xoChip dialect).screen
      wraps := (wellFormed_powerOn .xoChip dialect).wraps.trans
        (wellFormed_powerOn .chip8 dialect).wraps.symm
      small_lowRes := rfl
      large_lowRes := rfl
      small_mask := rfl
      large_mask := rfl
      pixels := fun x _ y _ => by
        rw [unlit_powerOn .xoChip dialect Nat.two_pos, unlit_powerOn .chip8 dialect Nat.two_pos]
      small_blank := unlit_powerOn .chip8 dialect Nat.one_lt_two
      large_blank := unlit_powerOn .xoChip dialect Nat.one_lt_two }

theorem agrees_powerOn (dialect : Dialect) :
    Agrees (powerOn .chip8 dialect) (powerOn .xoChip dialect) := by
  have memory := extended_powerOn dialect
  have screen := enlarged_powerOn dialect
  simp only [powerOn, reset] at memory screen ⊢
  exact
    { v := rfl
      index := rfl
      pc := rfl
      calls := rfl
      delay := rfl
      sound := rfl
      beeping := rfl
      keys := rfl
      flags := rfl
      pattern := rfl
      pitch := rfl
      memory
      screen }

theorem mirrored_powerOn (dialect : Dialect) :
    Mirrored dialect (powerOn .chip8 dialect) (powerOn .xoChip dialect) :=
  ⟨wellFormed_powerOn .chip8 dialect, wellFormed_powerOn .xoChip dialect, agrees_powerOn dialect⟩

namespace Mirrored

theorem load (mirrored : Mirrored dialect small large) {program : Array UInt8}
    (fits : program.size ≤ 0xE00) :
    ∃ small' large', small.load program = .ok small' ∧ large.load program = .ok large' ∧
      Mirrored dialect small' large' := by
  have start : programStart = 0x200 := rfl
  have small_size : Arch.chip8.memorySize = 0x1000 := rfl
  have large_size : Arch.xoChip.memorySize = 0x10000 := rfl
  have small_sized := mirrored.small_wellFormed.memory
  have large_sized := mirrored.large_wellFormed.memory
  refine ⟨_, _, mirrored.small_wellFormed.load_of_fits (by omega),
    mirrored.large_wellFormed.load_of_fits (by omega), ?_⟩
  exact
    { small_wellFormed := mirrored.small_wellFormed.setMemory (small_sized.patch _ _)
      large_wellFormed := mirrored.large_wellFormed.setMemory (large_sized.patch _ _)
      agrees := { mirrored.agrees with
        memory := mirrored.agrees.memory.patch small_sized large_sized (by omega) } }

theorem tick (mirrored : Mirrored dialect small large) :
    Mirrored dialect small.tick large.tick where
  small_wellFormed := mirrored.small_wellFormed.tick
  large_wellFormed := mirrored.large_wellFormed.tick
  agrees :=
    { mirrored.agrees with
      delay := by simp only [Machine.tick, mirrored.agrees.delay]
      sound := by simp only [Machine.tick, mirrored.agrees.sound]
      beeping := by simp only [Machine.tick, mirrored.agrees.sound] }

/-- Both machines accept the same keys. -/
theorem setKey (mirrored : Mirrored dialect small large) (key : Int) (held : Bool) :
    (∃ small' large', small.setKey key held = .ok small' ∧ large.setKey key held = .ok large' ∧
      Mirrored dialect small' large') ∨
    small.setKey key held = .error (.noSuchKey key) ∧
      large.setKey key held = .error (.noSuchKey key) := by
  by_cases existing : 0 ≤ key ∧ key < 16
  · left
    have accepted (machine : Machine) : machine.setKey key held =
        .ok { machine with keys := machine.keys.set key.toNat held } := by
      rw [Machine.setKey, dif_pos existing]
    exact ⟨_, _, accepted small, accepted large,
      { small_wellFormed := mirrored.small_wellFormed.setKey (accepted small)
        large_wellFormed := mirrored.large_wellFormed.setKey (accepted large)
        agrees := { mirrored.agrees with keys := by rw [mirrored.agrees.keys] } }⟩
  · right
    rw [Machine.setKey, Machine.setKey, dif_neg existing, dif_neg existing]
    exact ⟨rfl, rfl⟩

/-! ## Steps -/

/-- Moving past a word that is followed by another one in the small memory. -/
theorem advance (mirrored : Mirrored dialect small large) (low : small.pc ≤ 0xFFC)
    (keyFrame : Bool) :
    Mirrored dialect (small.advance keyFrame) (large.advance keyFrame) ∧
      (large.advance keyFrame).nextWide = (small.advance keyFrame).nextWide := by
  have small_size : Arch.chip8.memorySize = 0x1000 := rfl
  have large_size : Arch.xoChip.memorySize = 0x10000 := rfl
  have small_addresses := mirrored.small_wellFormed.memorySize_eq
  have large_addresses := mirrored.large_wellFormed.memorySize_eq
  have nonneg := mirrored.small_wellFormed.pc.1
  have pc_eq := mirrored.agrees.pc
  constructor
  · exact
      { small_wellFormed := mirrored.small_wellFormed.advance (by omega) keyFrame
        large_wellFormed := mirrored.large_wellFormed.advance (by omega) keyFrame
        agrees := { mirrored.agrees with pc := by simp only [Machine.advance, pc_eq] } }
  · have read_eq : large.memory.readBlock (small.pc + 2) 2 =
        small.memory.readBlock (small.pc + 2) 2 :=
      mirrored.readBlock_eq (by omega) Nat.two_pos
        ((Machine.blockFault?_eq_none Nat.two_pos).mpr (by omega))
    have small_inside : small.pc + 2 + 1 < small.memory.size := by omega
    have large_inside : small.pc + 2 + 1 < large.memory.size := by omega
    simp only [Machine.advance, Processor.startsWide, pc_eq, read_eq, small_inside, large_inside]

theorem meets (mirrored : Mirrored dialect small large) (low : small.pc ≤ 0xFFC) {word : Word}
    (meets : small.Meets word) : large.Meets word := by
  have small_size : Arch.chip8.memorySize = 0x1000 := rfl
  have read_eq : large.memory.readBlock small.pc 2 = small.memory.readBlock small.pc 2 :=
    mirrored.readBlock_eq mirrored.small_wellFormed.pc.1 Nat.two_pos
      ((Machine.blockFault?_eq_none Nat.two_pos).mpr (by omega))
  rw [Meets, operand, mirrored.agrees.pc, read_eq]
  exact meets

end Mirrored

end Machine

end Chip8
