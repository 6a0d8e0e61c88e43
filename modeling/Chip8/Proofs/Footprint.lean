import Chip8.Proofs.History

/-!
# What an instruction may change

An instruction is about few parts of the machine: the bytes that it stores at I, the registers that
it assigns, the planes that it repaints, and what its name says.  Whatever lies outside these parts
is left as it was.
-/

namespace Chip8

namespace Instruction

/-- Number of bytes at I that an instruction stores. -/
def stored : Instruction → Nat
  | .storeDecimal _ => 3
  | .store x => x + 1
  | .storeRange x y => Machine.span x y + 1
  | _ => 0

/-- The instruction may change a register. -/
def Assigns (r : Digit) : Instruction → Prop
  | .setByte x _ | .addByte x _ | .random x _ | .readDelay x | .awaitKey x => r = x
  | .arithmetic _ x _ => r = x ∨ r = 15
  | .draw _ _ _ => r = 15
  | .load x | .loadFlags x => r ≤ x
  | .loadRange x y => x ≤ r ∧ r ≤ y ∨ y ≤ r ∧ r ≤ x
  | _ => False

/-- The instruction may change pixels of the selected planes. -/
def Repaints : Instruction → Prop
  | .clear | .scroll _ _ | .draw _ _ _ => True
  | _ => False

/-- The instruction may change I. -/
def MovesIndex (dialect : Dialect) : Instruction → Prop
  | .setIndex _ | .addIndex _ | .smallDigit _ | .largeDigit _ | .setIndexLong => True
  | .store _ | .load _ => dialect .indexAdvance = true
  | _ => False

end Instruction

/-! ## Writes that go through -/

theorem Store.write_eq_ok {α : Type} {store after : Store α} {address : Int} {value : α}
    (written : store.write address value = .ok after) :
    0 ≤ address ∧ after = store.patch address.toNat #[value] := by
  by_cases inside : 0 ≤ address ∧ address < store.size
  · rw [write_of_inside inside.1 inside.2] at written
    exact ⟨inside.1, (Except.ok.inj written).symm⟩
  · rw [write, check, if_neg inside] at written
    cases written

namespace Registers

/-- The registers behind a block that is loaded keep their values. -/
theorem read_refill_of_lt (registers : Registers) {x r : Digit} {block : Array UInt8}
    (length : block.size = x + 1) (behind : x < r) :
    (registers.refill x block).read r = registers.read r := by
  have past : block.size ≤ r.val := by
    rw [length]
    exact behind
  simp only [read, refill, Array.getD_eq_getD_getElem?]
  rw [Array.getElem?_append_right past, Array.getElem?_extract, length]
  split
  case isTrue inside => rw [show x.val + 1 + (r.val - (x.val + 1)) = r.val by omega]
  case isFalse outside => rw [Array.getElem?_eq_none (by omega)]

end Registers

namespace Machine

/-- The registers of a range are the two named ones and those between them. -/
theorem mem_range {x y r : Digit} : r ∈ range x y ↔ x ≤ r ∧ r ≤ y ∨ y ≤ r ∧ r ≤ x := by
  rw [range]
  split
  case isTrue upward =>
    simp only [List.mem_filter, List.mem_finRange, true_and, decide_eq_true_eq, Fin.le_def] at *
    omega
  case isFalse downward =>
    simp only [List.mem_reverse, List.mem_filter, List.mem_finRange, true_and, decide_eq_true_eq,
      Fin.le_def] at *
    omega

/-- Registers that are not loaded keep their values. -/
theorem read_loadEach (memory : Memory) {address : Int} {registers : List Digit} {v : Registers}
    {r : Digit} (other : r ∉ registers) :
    (loadEach memory address registers v).1.read r = v.read r := by
  induction registers generalizing address v with
  | nil => rfl
  | cons register rest induction =>
      obtain ⟨apart, later⟩ := not_or.mp (List.mem_cons.not.mp other)
      rw [loadEach]
      rcases memory.read address <* v.demand [register] with fault | value
      · rfl
      · exact (induction later).trans (v.read_write_of_ne apart value)

/-- Storing registers one by one reaches no byte outside their block. -/
theorem getElem?_storeEach_outside (v : Registers) {address : Int} {registers : List Digit}
    {memory : Memory} {place : Nat}
    (outside : (place : Int) < address ∨ address + registers.length ≤ place) :
    (storeEach v address registers memory).1.cells[place]? = memory.cells[place]? := by
  induction registers generalizing address memory with
  | nil => rfl
  | cons register rest induction =>
      rw [List.length_cons] at outside
      rw [storeEach]
      rcases v.demand [register] with fault | _
      · rfl
      · rcases written : memory.write address (v.read register) with fault | after
        · rfl
        · obtain ⟨nonneg, rfl⟩ := Store.write_eq_ok written
          refine (induction (by omega)).trans (Store.getElem?_patch_outside _ _ ?_)
          simp
          omega

theorem getElem?_storeRange_outside (machine : Machine) {x y : Digit} {place : Nat}
    (outside : (place : Int) < machine.index ∨
      machine.index + (Instruction.storeRange x y).stored ≤ place) :
    (machine.storeRange x y).1.memory.cells[place]? = machine.memory.cells[place]? := by
  rw [storeRange]
  split
  · rfl
  · exact getElem?_storeEach_outside machine.v (by rw [length_range]; exact outside)

theorem read_loadRange (machine : Machine) {x y r : Digit}
    (other : ¬ (Instruction.loadRange x y).Assigns r) :
    (machine.loadRange x y).1.v.read r = machine.v.read r := by
  rw [loadRange]
  split
  · rfl
  · exact read_loadEach machine.memory (mem_range.not.mpr other)

/-- A place that an address counts as outside a block is outside it. -/
theorem outside_block {address : Int} (nonneg : 0 ≤ address) {length place : Nat}
    (outside : (place : Int) < address ∨ address + length ≤ place) :
    place < address.toNat ∨ address.toNat + length ≤ place := by
  omega

/-! ## Footprints -/

/-- The machine after an instruction differs from the one before it only in what the instruction is
about.  Nothing is said of the program counter. -/
structure Confined (arch : Arch) (dialect : Dialect) (instruction : Instruction)
    (before after : Machine) : Prop where
  /-- Only bytes in the block at I that is stored change. -/
  bytes : ∀ place : Nat, after.memory.cells[place]? ≠ before.memory.cells[place]? →
    before.index ≤ place ∧ place < before.index + instruction.stored
  /-- The number of addresses never changes. -/
  addresses : after.memory.size = before.memory.size
  /-- Only selected planes change, unless XO-CHIP switches the resolution. -/
  planes : ∀ number, after.screen.plane number ≠ before.screen.plane number →
    instruction.Repaints ∧ before.screen.mask.testBit number = true ∨
      arch = .xoChip ∧ ∃ high, instruction = .resolution high
  /-- Sides and edges of the screen never change. -/
  sides : after.screen.width = before.screen.width ∧ after.screen.height = before.screen.height ∧
    after.screen.wraps = before.screen.wraps
  /-- The selection of planes. -/
  mask : after.screen.mask ≠ before.screen.mask → ∃ mask, instruction = .selectPlanes mask
  /-- The size of a pixel. -/
  scale : after.screen.scale ≠ before.screen.scale → ∃ high, instruction = .resolution high
  /-- The resolution. -/
  highRes : after.highRes ≠ before.highRes → ∃ high, instruction = .resolution high
  /-- The return addresses. -/
  stack : after.stack ≠ before.stack → instruction = .ret ∨ ∃ address, instruction = .call address
  /-- The persistent flags. -/
  flags : after.flags ≠ before.flags → ∃ x, instruction = .saveFlags x
  /-- The delay timer. -/
  delay : after.delay ≠ before.delay → ∃ x, instruction = .setDelay x
  /-- The sound timer. -/
  sound : after.sound ≠ before.sound → ∃ x, instruction = .setSound x
  /-- The sound pattern. -/
  pattern : after.pattern ≠ before.pattern → instruction = .loadPattern
  /-- The pitch of the pattern. -/
  pitch : after.pitch ≠ before.pitch → ∃ x, instruction = .setPitch x
  /-- The index register. -/
  index : after.index ≠ before.index → instruction.MovesIndex dialect
  /-- The general registers. -/
  registers : ∀ r, after.v.read r ≠ before.v.read r → instruction.Assigns r
  /-- The keys never change. -/
  keys : after.keys = before.keys
  /-- The buzzer is never switched. -/
  beeping : after.beeping = before.beeping

variable {arch : Arch} {dialect : Dialect} {machine : Machine} {instruction : Instruction}

namespace Confined

theorem refl (arch : Arch) (dialect : Dialect) (instruction : Instruction) (machine : Machine) :
    Confined arch dialect instruction machine machine where
  bytes _ changed := absurd rfl changed
  addresses := rfl
  planes _ changed := absurd rfl changed
  sides := ⟨rfl, rfl, rfl⟩
  mask changed := absurd rfl changed
  scale changed := absurd rfl changed
  highRes changed := absurd rfl changed
  stack changed := absurd rfl changed
  flags changed := absurd rfl changed
  delay changed := absurd rfl changed
  sound changed := absurd rfl changed
  pattern changed := absurd rfl changed
  pitch changed := absurd rfl changed
  index changed := absurd rfl changed
  registers _ changed := absurd rfl changed
  keys := rfl
  beeping := rfl

/-- An instruction that repaints the selected planes. -/
theorem repaint (confined : Confined arch dialect instruction machine machine)
    (repaints : instruction.Repaints) {screen : Screen}
    (repainted : Screen.Repainted machine.screen screen) :
    Confined arch dialect instruction machine { machine with screen } :=
  { confined with
    planes := fun number changed => Or.inl ⟨repaints, by
      by_contra unselected
      exact changed (repainted.unselected number (Bool.eq_false_of_not_eq_true unselected))⟩
    sides := ⟨repainted.width, repainted.height, repainted.wraps⟩
    mask := fun changed => absurd repainted.mask changed
    scale := fun changed => absurd (by rw [Screen.scale, repainted.lowRes, Screen.scale]) changed }

theorem setV (confined : Confined arch dialect instruction machine machine) {v : Registers}
    (others : ∀ r, ¬ instruction.Assigns r → v.read r = machine.v.read r) :
    Confined arch dialect instruction machine { machine with v } :=
  { confined with
    registers := fun r changed => by
      by_contra unassigned
      exact changed (others r unassigned) }

/-- An instruction that stores a block at I. -/
theorem setMemory (confined : Confined arch dialect instruction machine machine) {memory : Memory}
    (addresses : memory.size = machine.memory.size)
    (outside : ∀ place : Nat,
      (place : Int) < machine.index ∨ machine.index + instruction.stored ≤ place →
        memory.cells[place]? = machine.memory.cells[place]?) :
    Confined arch dialect instruction machine { machine with memory } :=
  { confined with
    bytes := fun place changed => by
      by_contra apart
      exact changed (outside place (by omega))
    addresses }

/-- Moving I past a block, if the dialect does so. -/
theorem passBlock {after : Machine} {x : Digit}
    (confined : Confined arch dialect instruction machine after)
    (moves : dialect .indexAdvance = true → instruction.MovesIndex dialect) :
    Confined arch dialect instruction machine (after.passBlock arch dialect x) := by
  rw [Machine.passBlock]
  split
  case isTrue advances => exact { confined with index := fun _ => moves advances }
  case isFalse => exact confined

end Confined

/-! ## Instructions -/

/-- An operation on two registers assigns the first of them and perhaps the flag. -/
theorem read_combine_of_ne (dialect : Dialect) (operation : Arithmetic) {x y r : Digit}
    (other : r ≠ x) (no_flag : r ≠ 15) :
    (machine.combine dialect operation x y).1.v.read r = machine.v.read r := by
  rw [combine]
  rcases operation.apply dialect (machine.v.read x) (machine.v.read y) with ⟨result, _ | flag⟩
  · exact machine.v.read_write_of_ne other result
  · exact ((machine.v.write x result).read_write_of_ne no_flag flag).trans
      (machine.v.read_write_of_ne other result)

/-- A switch of the resolution blanks every plane on XO-CHIP. -/
theorem unlit_setResolution {width height count : Nat}
    (shaped : machine.screen.Shaped width height count) (high : Bool) {number : Nat}
    (inside : number < count) :
    ((machine.setResolution .xoChip high).screen.plane number).Unlit := by
  rw [show (machine.setResolution .xoChip high).screen.plane number =
    machine.screen.clearAll.plane number from rfl, Screen.plane_clearAll]
  exact Plane.unlit_clear (shaped.planes_sized number inside)

theorem confined_setResolution (arch : Arch) (dialect : Dialect) (machine : Machine)
    (high : Bool) :
    Confined arch dialect (.resolution high) machine (machine.setResolution arch high) := by
  have same := Confined.refl arch dialect (.resolution high) machine
  by_cases blanks : arch.includes .xoChip
  · have xoChip : arch = .xoChip := by cases arch <;> first | rfl | cases blanks
    simp only [setResolution, if_pos blanks]
    exact
      { same with
        planes := fun _ _ => Or.inr ⟨xoChip, high, rfl⟩
        scale := fun _ => ⟨high, rfl⟩
        highRes := fun _ => ⟨high, rfl⟩ }
  · simp only [setResolution, if_neg blanks]
    exact
      { same with
        scale := fun _ => ⟨high, rfl⟩
        highRes := fun _ => ⟨high, rfl⟩ }

/-- What an instruction does to a well-formed machine stays within its footprint. -/
theorem WellFormed.confined_perform (wellFormed : machine.WellFormed arch dialect)
    (random : UInt8) (accepted : machine.refusal? arch dialect instruction = none) :
    Confined arch dialect instruction machine
      (machine.perform arch dialect random instruction).1 := by
  -- Each case starts from doing nothing and gives the reasons for the fields that it changes.
  have same := Confined.refl arch dialect instruction machine
  have cells := wellFormed.memory.addresses
  cases instruction with
  | nop => exact same
  | clear => exact same.repaint trivial machine.screen.repainted_clear
  | ret =>
      obtain ⟨pc, stack, popped, -, -⟩ := wellFormed.stack.pop (used_of_accepted accepted)
      rw [perform_ret popped]
      exact { same with stack := fun _ => Or.inl rfl }
  | jump address => exact { same with }
  | call address =>
      obtain ⟨stack, pushed, -, -⟩ :=
        wellFormed.stack.push machine.pc (wellFormed.room_of_accepted accepted)
      rw [perform_call pushed]
      exact { same with stack := fun _ => Or.inr ⟨address, rfl⟩ }
  | skip condition =>
      rw [perform]
      split
      · exact { same with }
      · exact same
  | setByte x byte => exact same.setV fun r other => machine.v.read_write_of_ne other byte
  | addByte x byte => exact same.setV fun r other => machine.v.read_write_of_ne other _
  | arithmetic operation x y =>
      obtain ⟨v, combined, -⟩ := wellFormed.exists_combine operation x y
      have others (r : Digit) (unassigned : ¬ (r = x ∨ r = 15)) : v.read r = machine.v.read r := by
        have kept := machine.read_combine_of_ne dialect operation (y := y)
          (fun assigned => unassigned (Or.inl assigned)) fun flag => unassigned (Or.inr flag)
        rwa [combined] at kept
      rw [perform, combined]
      exact same.setV others
  | setIndex address => exact { same with index := fun _ => trivial }
  | jumpIndexed address => exact { same with }
  | random x mask => exact same.setV fun r other => machine.v.read_write_of_ne other _
  | draw x y rows =>
      by_cases waits : machine.mustWait dialect
      · rw [perform_draw_of_wait waits]
        exact { same with }
      · rw [refusal?_draw, if_neg waits] at accepted
        obtain ⟨screen, value, drawn, repainted⟩ := wellFormed.exists_draw x y accepted
        rw [perform_draw wellFormed.v waits drawn]
        have painted := same.repaint trivial repainted
        exact
          { painted with
            registers := fun r changed => by
              by_contra unassigned
              exact changed (machine.v.read_write_of_ne unassigned value) }
  | readDelay x =>
      rw [perform, wellFormed.readDelay_eq x]
      exact same.setV fun r other => machine.v.read_write_of_ne other _
  | awaitKey x =>
      rw [perform]
      split
      · exact same.setV fun r other => machine.v.read_write_of_ne other _
      · exact { same with }
  | setDelay x => exact { same with delay := fun _ => ⟨x, rfl⟩ }
  | setSound x => exact { same with sound := fun _ => ⟨x, rfl⟩ }
  | addIndex x => exact { same with index := fun _ => trivial }
  | smallDigit x => exact { same with index := fun _ => trivial }
  | storeDecimal x =>
      rw [perform_storeDecimal
        (wellFormed.writeBlock_of_accepted (decimalDigits _) (Nat.succ_pos 2) accepted)]
      exact same.setMemory rfl fun place outside => Store.getElem?_patch_outside _ _
        (outside_block wellFormed.index.1 outside)
  | store x =>
      have length := Registers.size_upTo wellFormed.v x
      rw [perform_store
        (wellFormed.writeBlock_of_accepted _ (by omega) (by rw [length]; exact accepted))]
      refine Confined.passBlock (same.setMemory rfl fun place outside => ?_) id
      exact Store.getElem?_patch_outside _ _
        (outside_block wellFormed.index.1 (by rw [length]; exact outside))
  | load x =>
      obtain ⟨block, read, length⟩ :=
        wellFormed.exists_readBlock wellFormed.index.1 (Nat.succ_pos _) accepted
      rw [perform_load read]
      exact (same.setV fun r behind =>
        machine.v.read_refill_of_lt length (Fin.not_le.mp behind)).passBlock id
  | scroll direction count =>
      obtain ⟨screen, scrolled, repainted⟩ := wellFormed.exists_scroll direction count
      rw [perform, scrolled]
      exact same.repaint trivial repainted
  | restart => exact { same with }
  | resolution high => exact confined_setResolution arch dialect machine high
  | largeDigit x => exact { same with index := fun _ => trivial }
  | saveFlags x => exact { same with flags := fun _ => ⟨x, rfl⟩ }
  | loadFlags x =>
      exact same.setV fun r behind => machine.v.read_refill_of_lt
        (Registers.size_upTo wellFormed.flags x) (Fin.not_le.mp behind)
  | storeRange x y =>
      obtain ⟨memory, stored, sized⟩ := wellFormed.exists_storeRange accepted
      have kept (place : Nat)
          (outside : (place : Int) < machine.index ∨
            machine.index + (Instruction.storeRange x y).stored ≤ place) :
          memory.cells[place]? = machine.memory.cells[place]? := by
        have kept := machine.getElem?_storeRange_outside outside
        rwa [stored] at kept
      rw [perform, stored]
      exact same.setMemory (sized.addresses.trans cells.symm) kept
  | loadRange x y =>
      obtain ⟨v, loaded, -⟩ := wellFormed.exists_loadRange accepted
      have kept (r : Digit) (other : ¬ (Instruction.loadRange x y).Assigns r) :
          v.read r = machine.v.read r := by
        have kept := machine.read_loadRange other
        rwa [loaded] at kept
      rw [perform, loaded]
      exact same.setV kept
  | setIndexLong =>
      obtain ⟨value, -, read⟩ :=
        wellFormed.exists_operand ((blockFault?_eq_none Nat.two_pos).mp accepted)
      rw [perform, read]
      exact { same with index := fun _ => trivial }
  | selectPlanes mask =>
      rw [perform]
      rcases selected : machine.screen.select mask.val with fault | screen
      · exact same
      · rw [Screen.select] at selected
        split at selected <;> cases selected
        exact { same with mask := fun _ => ⟨mask, rfl⟩ }
  | loadPattern =>
      rw [perform]
      rcases machine.memory.readBlock machine.index 16 with fault | block
      · exact same
      · exact { same with pattern := fun _ => rfl }
  | setPitch x => exact { same with pitch := fun _ => ⟨x, rfl⟩ }

end Machine

namespace Processor

variable {arch : Arch} {dialect : Dialect} {processor : Processor}

/-- A word that is carried out spells an instruction of the architecture, and nothing outside the
footprint of that instruction changes.  A switch of the resolution blanks both planes on XO-CHIP. -/
theorem Reachable.confined_execute (reachable : processor.Reachable arch dialect) {word : Word}
    (completed : (processor.execute word.value.val).result = .ok ()) :
    ∃ instruction, word.decode arch = .instruction instruction ∧
      word.value.val = instruction.opcode ∧
      Machine.Confined arch dialect instruction processor.machine
        (processor.execute word.value.val).processor.machine ∧
      ∀ high, instruction = .resolution high → arch = .xoChip → ∀ number < 2,
        ((processor.execute word.value.val).processor.machine.screen.plane number).Unlit := by
  have wellFormed := reachable.wellFormed
  obtain rfl := reachable.arch_eq
  obtain rfl := reachable.dialect_eq
  have run := executed wellFormed word.ofInt?_value
  generalize processor.execute word.value.val = outcome at run completed
  cases run with
  | unread => cases completed
  | refused => cases completed
  | performed lines instruction after decoded accepted effect =>
      have confined := wellFormed.confined_perform (processor.roll instruction).1 accepted
      rw [effect] at confined
      refine ⟨instruction, decoded, (Word.opcode_of_decode decoded).1, confined, ?_⟩
      rintro high rfl xoChip number inside
      rw [Machine.perform, xoChip] at effect
      cases effect
      exact Machine.unlit_setResolution wellFormed.screen high inside

/-- Choosing high resolution right after switching on an XO-CHIP machine. -/
theorem confined_high_resolution :
    let processor := powerOn .xoChip (.standard .xoChip) false []
    processor.Reachable .xoChip (.standard .xoChip) ∧
      (processor.execute 0x00FF).result = .ok () ∧
      ∃ instruction, Word.decode .xoChip ⟨0x00FF⟩ = .instruction instruction ∧
        0x00FF = instruction.opcode ∧
        Machine.Confined .xoChip (.standard .xoChip) instruction processor.machine
          (processor.execute 0x00FF).processor.machine ∧
        ∀ high, instruction = .resolution high → Arch.xoChip = .xoChip → ∀ number < 2,
          ((processor.execute 0x00FF).processor.machine.screen.plane number).Unlit := by
  have reachable := Reachable.powerOn .xoChip (.standard .xoChip) false []
  have completed : ((powerOn .xoChip (.standard .xoChip) false []).execute 0x00FF).result =
      .ok () := rfl
  exact ⟨reachable, completed, @Reachable.confined_execute _ _ _ reachable ⟨0x00FF⟩ completed⟩

end Processor

end Chip8
