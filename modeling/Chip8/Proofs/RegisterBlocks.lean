import Chip8.Proofs.Events
import Chip8.Proofs.RegisterRanges

/-!
# Blocks and ranges that start at V0

XO-CHIP moves the registers from V0 to Vx in two ways: as a block, and as a range that happens to
start at V0.  The two ways refuse the same blocks with the same fault, move the same bytes, and
differ only in where they leave I.
-/

namespace Chip8

namespace Registers

/-- Full rows are told apart by their registers. -/
theorem eq_of_read {registers other : Registers} (full : registers.size = 16)
    (full' : other.size = 16) (same : ∀ r, registers.read r = other.read r) :
    registers = other := by
  refine Array.ext (full.trans full'.symm) fun place inside inside' => ?_
  have found := same ⟨place, full ▸ inside⟩
  simpa only [read, Array.getD_eq_getD_getElem?, Array.getElem?_eq_getElem, inside, inside',
    Option.getD_some] using found

/-- The registers of a block that is loaded have its bytes. -/
theorem read_refill_of_le (registers : Registers) {x r : Digit} {block : Array UInt8}
    (length : block.size = x + 1) (within : r ≤ x) :
    (registers.refill x block).read r = block.getD r 0 := by
  have inside : r.val < block.size := by
    rw [length]
    exact Nat.lt_succ_of_le within
  simp only [read, refill, Array.getD_eq_getD_getElem?]
  rw [Array.getElem?_append_left inside]

end Registers

namespace Machine

variable {dialect : Dialect} {machine : Machine} {x : Digit}

theorem span_zero (x : Digit) : span 0 x = x := by
  simp [span]

theorem toward_zero {distance : Nat} (near : distance ≤ x) :
    (toward 0 x distance).val = distance := by
  have small := x.isLt
  rw [toward, if_pos (Fin.zero_le x)]
  simp only [Fin.ofNat, Fin.val_zero]
  omega

theorem between_zero {r : Digit} : Between 0 x r ↔ r ≤ x := by
  simp only [Between, Fin.le_def, Fin.val_zero]
  omega

/-- The registers from V0 to Vx, taken one by one, are the block of them. -/
theorem toArray_range_zero (full : machine.v.size = 16) (x : Digit) :
    ((range 0 x).map machine.v.read).toArray = machine.v.upTo x := by
  have small := x.isLt
  have size_eq := Registers.size_upTo full x
  have length : ((range 0 x).map machine.v.read).length = x + 1 := by
    rw [List.length_map, length_range, span_zero]
  refine Array.ext_getElem? fun place => ?_
  rw [List.getElem?_toArray, List.getElem?_map]
  by_cases near : place ≤ x
  · rw [getElem?_range (by rwa [span_zero]), Option.map_some, Registers.read, toward_zero near,
      Registers.upTo, Array.getElem?_extract, if_pos (by omega), Array.getD_eq_getD_getElem?,
      Nat.zero_add, Array.getElem?_eq_getElem (by omega), Option.getD_some]
  · rw [List.getElem?_eq_none (by rw [length_range, span_zero]; omega), Option.map_none,
      Array.getElem?_eq_none (by omega)]

/-- Registers that are loaded one by one from V0 to Vx are those that the block puts there. -/
theorem refill_extract (full : machine.v.size = 16) {v : Registers} (full' : v.size = 16)
    {cells : Array UInt8} {start : Nat} (ends : start + (x + 1) ≤ cells.size)
    (found : ∀ distance ≤ span 0 x,
      v.read (toward 0 x distance) = cells.getD (start + distance) 0)
    (others : ∀ r, ¬ Between 0 x r → v.read r = machine.v.read r) :
    machine.v.refill x (cells.extract start (start + (x + 1))) = v := by
  have length : (cells.extract start (start + (x + 1))).size = x + 1 := by
    rw [Array.size_extract]
    omega
  refine Registers.eq_of_read (Registers.size_refill full length) full' fun r => ?_
  by_cases within : r ≤ x
  · have near : r.val ≤ x := within
    have reached : toward 0 x r = r := Fin.ext (toward_zero near)
    have byte := found r (by rwa [span_zero])
    rw [reached] at byte
    rw [Registers.read_refill_of_le _ length within, byte, Array.getD_eq_getD_getElem?,
      Array.getD_eq_getD_getElem?, Array.getElem?_extract, if_pos (by omega)]
  · rw [Registers.read_refill_of_lt _ length (Fin.not_le.mp within),
      others r (between_zero.not.mpr within)]

/-- Two ways of moving the registers from V0 to Vx come to the same, up to where I is left: the
first one moves it past the block if the dialect does so. -/
inductive SameTransfer (dialect : Dialect) (x : Digit) (machine : Machine) :
    Machine × Except Fault Unit → Machine × Except Fault Unit → Prop
  /-- The block ends outside memory, and nothing is done. -/
  | refused (outside : 0xFFFF < machine.index + x) :
      SameTransfer dialect x machine
        (machine, .error (.outOfBounds (machine.index + x)))
        (machine, .error (.outOfBounds (machine.index + x)))
  /-- The block lies in memory, and is moved. -/
  | moved (inside : machine.index + x ≤ 0xFFFF) (after : Machine)
      (kept : after.index = machine.index) :
      SameTransfer dialect x machine
        ({ after with
          index :=
            if dialect .indexAdvance then (machine.index + x + 1) % 0x10000 else machine.index },
          .ok ())
        (after, .ok ())

/-- Moving I past a block, spelled out. -/
theorem passBlock_eq {after : Machine} (kept : after.index = machine.index) (x : Digit) :
    after.passBlock .xoChip dialect x =
      { after with
        index :=
          if dialect .indexAdvance then (machine.index + x + 1) % 0x10000 else machine.index } := by
  rw [passBlock]
  split
  case isTrue => rw [kept]; rfl
  case isFalse => rw [← kept]

namespace WellFormed

variable (wellFormed : machine.WellFormed .xoChip dialect) (random : UInt8) (x : Digit)

include wellFormed

/-- Instructions on a block from V0 to Vx that does not fit refuse it alike. -/
theorem sameTransfer_of_outside (outside : 0xFFFF < machine.index + x)
    {plain ranged : Instruction}
    (plain_length : machine.blockLength .xoChip dialect plain = x + 1)
    (ranged_length : machine.blockLength .xoChip dialect ranged = x + 1) :
    SameTransfer dialect x machine (machine.perform .xoChip dialect random plain)
      (machine.perform .xoChip dialect random ranged) := by
  have refused : blockFault? .xoChip machine.index (x + 1) =
      some (.outOfBounds (machine.index + x)) := by
    have size : Arch.xoChip.memorySize = 0x10000 := rfl
    exact blockFault?_eq_some.mpr ⟨Nat.succ_pos x, by omega, by congr 1; omega⟩
  rw [wellFormed.perform_of_blockFault (by rw [plain_length]; exact refused),
    wellFormed.perform_of_blockFault (by rw [ranged_length]; exact refused)]
  exact .refused outside

theorem sameTransfer_store :
    SameTransfer dialect x machine (machine.perform .xoChip dialect random (.store x))
      (machine.perform .xoChip dialect random (.storeRange 0 x)) := by
  by_cases inside : machine.index + x ≤ 0xFFFF
  · have memorySize : Arch.xoChip.memorySize = 0x10000 := rfl
    have length := Registers.size_upTo wellFormed.v x
    have fits : machine.index + (range 0 x).length ≤ Arch.xoChip.memorySize := by
      rw [length_range, span_zero]
      omega
    have accepted : blockFault? .xoChip machine.index (machine.v.upTo x).size = none := by
      rw [length]
      exact (blockFault?_eq_none (Nat.succ_pos x)).mpr (by omega)
    have written := wellFormed.writeBlock_of_accepted _ (by omega) accepted
    have stored := storeRange_of_fits wellFormed.v wellFormed.memory wellFormed.index.1 fits
    rw [toArray_range_zero wellFormed.v] at stored
    let after : Machine :=
      { machine with memory := machine.memory.patch machine.index.toNat (machine.v.upTo x) }
    have plain : machine.perform .xoChip dialect random (.store x) =
        (after.passBlock .xoChip dialect x, .ok ()) := perform_store written
    rw [plain, passBlock_eq rfl, perform, stored]
    exact .moved inside after rfl
  · refine wellFormed.sameTransfer_of_outside random x (by omega) rfl ?_
    rw [blockLength, span_zero]

theorem sameTransfer_load :
    SameTransfer dialect x machine (machine.perform .xoChip dialect random (.load x))
      (machine.perform .xoChip dialect random (.loadRange 0 x)) := by
  by_cases inside : machine.index + x ≤ 0xFFFF
  · have memorySize : Arch.xoChip.memorySize = 0x10000 := rfl
    have nonneg := wellFormed.index.1
    have cells := wellFormed.memory.cells
    have ends : machine.index + (x + 1 : Nat) ≤ Arch.xoChip.memorySize := by omega
    have read := Store.readBlock_of_inside wellFormed.memory nonneg (by omega) ends
    rw [show (machine.index + (x + 1 : Nat)).toNat = machine.index.toNat + (x + 1) by omega]
      at read
    obtain ⟨v, loaded, full, found, others⟩ := exists_loadRange_eq wellFormed.v wellFormed.memory
      nonneg (show machine.index + span 0 x < Arch.xoChip.memorySize by rw [span_zero]; omega)
    have same := refill_extract wellFormed.v full (by omega) found others
    have plain : machine.perform .xoChip dialect random (.load x) = _ := perform_load read
    rw [plain]
    simp only [Except.map, settle, done, same]
    rw [passBlock_eq rfl, perform, loaded]
    exact .moved inside { machine with v } rfl
  · refine wellFormed.sameTransfer_of_outside random x (by omega) rfl ?_
    rw [blockLength, span_zero]

end WellFormed

end Machine

namespace Processor

/-- What executing a number does to the machine, and its result. -/
def effect (processor : Processor) (opcode : Nat) : Machine × Except Fault Unit :=
  let outcome := processor.execute opcode
  (outcome.processor.machine, outcome.result)

/-- V0 to Vx are stored alike as a block and as a range, and loaded alike. -/
def TransfersAgree (processor : Processor) (x : Digit) : Prop :=
  Machine.SameTransfer processor.dialect x processor.machine
    (processor.effect (0xF055 + x * 0x100)) (processor.effect (0x5002 + x * 0x10)) ∧
  Machine.SameTransfer processor.dialect x processor.machine
    (processor.effect (0xF065 + x * 0x100)) (processor.effect (0x5003 + x * 0x10))

variable {dialect : Dialect} {processor : Processor}

theorem effect_eq_perform (arch_eq : processor.arch = .xoChip)
    (full : processor.machine.v.size = 16) {opcode : Nat} (fits : opcode < 0x10000)
    {instruction : Instruction}
    (reading : ∀ word : Word, word.value.val = opcode →
      word.decode .xoChip = .instruction instruction) :
    processor.effect opcode = processor.machine.perform .xoChip processor.dialect
      (processor.roll instruction).1 instruction := by
  obtain ⟨word, spelled, value_eq⟩ := Word.exists_of_lt fits
  obtain ⟨lines, executed⟩ :=
    exists_execute_eq full spelled (by rw [arch_eq]; exact reading word value_eq)
  rw [effect, executed, arch_eq]

theorem transfersAgree (arch_eq : processor.arch = .xoChip)
    (wellFormed : processor.machine.WellFormed .xoChip processor.dialect) (x : Digit) :
    processor.TransfersAgree x := by
  have small := x.isLt
  have from_zero (opcode : Nat) :
      opcode + x * 0x10 = opcode + (0 : Digit).val * 0x100 + x * 0x10 := by
    rw [Fin.val_zero, Nat.zero_mul, Nat.add_zero]
  constructor
  · rw [effect_eq_perform arch_eq wellFormed.v (by omega) fun _ => Word.decode_of_store,
      effect_eq_perform arch_eq wellFormed.v (by omega) fun _ spelled =>
        Word.decode_of_storeRange (spelled.trans (from_zero 0x5002))]
    exact wellFormed.sameTransfer_store 0 x
  · rw [effect_eq_perform arch_eq wellFormed.v (by omega) fun _ => Word.decode_of_load,
      effect_eq_perform arch_eq wellFormed.v (by omega) fun _ spelled =>
        Word.decode_of_loadRange (spelled.trans (from_zero 0x5003))]
    exact wellFormed.sameTransfer_load 0 x

/-- On XO-CHIP, storing or loading V0 to Vx as a block and as a range is refused alike, with nothing
done, or done alike, except that only the block may move I past itself.  This holds of every
processor that can come about, and of it when it has just fetched a word. -/
theorem Reachable.transfers_agree (reachable : processor.Reachable .xoChip dialect) (x : Digit) :
    processor.TransfersAgree x ∧
      ∀ (keyFrame : Bool) (word : Word), processor.machine.Meets word →
        (processor.advance keyFrame).TransfersAgree x := by
  have wellFormed := reachable.wellFormed
  obtain rfl := reachable.dialect_eq
  refine ⟨transfersAgree reachable.arch_eq wellFormed x, fun keyFrame word meets => ?_⟩
  have advanced := wellFormed.advance (wellFormed.inside_of_meets meets) keyFrame
  exact @transfersAgree (processor.advance keyFrame) reachable.arch_eq advanced x

/-- A program that points I at the last byte of memory: one register fits there, two do not. -/
theorem transfers_agree_at_end :
    let processor := ((Bench.start .xoChip (.standard .xoChip) false []).run
      [.load #[0xF0, 0x00, 0xFF, 0xFF], .step true]).processor
    processor.Reachable .xoChip (.standard .xoChip) ∧ processor.machine.index = 0xFFFF ∧
      (processor.effect 0xF055).1.index = 0 ∧ (processor.effect 0x5002).1.index = 0xFFFF ∧
      (processor.effect 0xF155).2 = .error (.outOfBounds 0x10000) ∧
      (processor.effect 0x5012).2 = .error (.outOfBounds 0x10000) := by
  have fits : Machine.programStart + (#[0xF0, 0x00, 0xFF, 0xFF] : Array UInt8).size ≤
    Arch.xoChip.memorySize := by decide
  intro processor
  have reachable : processor.Reachable .xoChip (.standard .xoChip) := ⟨false, [], _, rfl⟩
  have pointed : processor.machine.index = 0xFFFF := by
    let switchedOn := Machine.powerOn .xoChip (.standard .xoChip)
    have sized : switchedOn.memory.Sized 0x10000 :=
      (Machine.wellFormed_powerOn .xoChip (.standard .xoChip)).memory
    let loaded := (powerOn .xoChip (.standard .xoChip) false []).restore { switchedOn with
      memory := switchedOn.memory.patch Machine.programStart #[0xF0, 0x00, 0xFF, 0xFF] }
    have load : ((Bench.start .xoChip (.standard .xoChip) false []).run
        [.load #[0xF0, 0x00, 0xFF, 0xFF]]).processor = loaded :=
      Bench.processor_run_load .xoChip (.standard .xoChip) false [] fits
    have loaded_reachable : loaded.Reachable .xoChip (.standard .xoChip) :=
      ⟨false, [], _, load⟩
    have first : loaded.machine.Meets ⟨0xF000⟩ :=
      @Machine.meets_of_patch loaded.machine switchedOn.memory 0x10000 0 _ ⟨0xF000⟩ sized rfl rfl
        (by decide) fits rfl
    have second : (loaded.machine.advance true).operand = .ok 0xFFFF :=
      @Machine.meets_of_patch (loaded.machine.advance true) switchedOn.memory 0x10000 2 _ ⟨0xFFFF⟩
        sized rfl rfl (by decide) fits rfl
    have decoded : Word.decode .xoChip ⟨0xF000⟩ = .instruction .setIndexLong := rfl
    have machine_eq := step_machine_of_meets loaded_reachable.wellFormed_self true first decoded
    rw [Machine.perform, second] at machine_eq
    have stepped (bench : Bench) (operation : Operation) :
        (bench.run [operation, .step true]).processor =
          ((bench.run [operation]).processor.step true).processor := rfl
    rw [show processor = _ from stepped _ _, load, machine_eq]
    rfl
  have agree := @Reachable.transfers_agree _ processor reachable
  have fitting {machine : Machine} {plain ranged : Machine × Except Fault Unit}
      (same : Machine.SameTransfer (.standard .xoChip) 0 machine plain ranged)
      (pointed : machine.index = 0xFFFF) : plain.1.index = 0 ∧ ranged.1.index = 0xFFFF := by
    cases same with
    | refused outside => simp [pointed] at outside
    | moved inside after kept =>
        rw [pointed] at kept ⊢
        exact ⟨rfl, kept⟩
  have unfitting {machine : Machine} {plain ranged : Machine × Except Fault Unit}
      (same : Machine.SameTransfer (.standard .xoChip) 1 machine plain ranged)
      (pointed : machine.index = 0xFFFF) :
      plain.2 = .error (.outOfBounds 0x10000) ∧ ranged.2 = .error (.outOfBounds 0x10000) := by
    cases same with
    | refused outside => rw [pointed]; exact ⟨rfl, rfl⟩
    | moved inside after kept => simp [pointed] at inside
  have one : Machine.SameTransfer _ 0 _ (processor.effect 0xF055) (processor.effect 0x5002) :=
    (agree 0).1.1
  have two : Machine.SameTransfer _ 1 _ (processor.effect 0xF155) (processor.effect 0x5012) :=
    (agree 1).1.1
  rw [reachable.dialect_eq] at one two
  obtain ⟨plain_index, ranged_index⟩ := fitting one pointed
  exact ⟨reachable, pointed, plain_index, ranged_index, unfitting two pointed⟩

end Processor

end Chip8
