import Chip8.Proofs.Footprint
import Chip8.Proofs.Spelling

/-!
# Ranges of registers

Storing a range of registers writes one block at I, with the registers in order from the first to
the last, and loading a range reads a block in the same order.  So a range that was stored comes
back unharmed when it is loaded, and comes back reversed when it is loaded from its other end.
-/

namespace Chip8

namespace Machine

/-- The register at a distance from Vx in the direction of Vy. -/
def toward (x y : Digit) (distance : Nat) : Digit :=
  if x ≤ y then Fin.ofNat 16 (x + distance) else Fin.ofNat 16 (x - distance)

/-- The register is Vx, Vy or one between them. -/
def Between (x y r : Digit) : Prop := x ≤ r ∧ r ≤ y ∨ y ≤ r ∧ r ≤ x

instance (x y r : Digit) : Decidable (Between x y r) := inferInstanceAs (Decidable (_ ∨ _))

variable {x y r : Digit}

theorem span_comm (x y : Digit) : span x y = span y x := Nat.add_comm _ _

theorem between_comm : Between x y r ↔ Between y x r := or_comm

/-- A range goes through the registers one by one. -/
theorem range_eq_map (x y : Digit) :
    range x y = (List.range (span x y + 1)).map (toward x y) := by
  revert x y
  decide

theorem getElem?_range {distance : Nat} (near : distance ≤ span x y) :
    (range x y)[distance]? = some (toward x y distance) := by
  rw [range_eq_map, List.getElem?_map, List.getElem?_range (by omega)]
  rfl

theorem nodup_range (x y : Digit) : (range x y).Nodup := by
  rw [range]
  split
  · exact (List.nodup_finRange 16).filter _
  · exact List.nodup_reverse.mpr ((List.nodup_finRange 16).filter _)

/-- Every register of a range lies at some distance. -/
theorem exists_toward_eq (between : Between x y r) :
    ∃ distance ≤ span x y, toward x y distance = r := by
  have member : r ∈ range x y := mem_range.mpr between
  rw [range_eq_map, List.mem_map] at member
  obtain ⟨distance, near, reached⟩ := member
  exact ⟨distance, by rw [List.mem_range] at near; omega, reached⟩

/-- Memories that agree on the block of a range and outside of it are the same. -/
theorem eq_of_block {memory other : Memory} {size : Nat} (sized : memory.Sized size)
    (sized' : other.Sized size) {address : Int} (nonneg : 0 ≤ address)
    (inside : ∀ distance ≤ span x y,
      memory.cells[address.toNat + distance]? = other.cells[address.toNat + distance]?)
    (outside : ∀ place : Nat, (place : Int) < address ∨ address + span x y < place →
      memory.cells[place]? = other.cells[place]?) : memory = other := by
  refine sized.eq_of_getElem? sized' fun place => ?_
  by_cases covered : address ≤ place ∧ place ≤ address + span x y
  · obtain ⟨distance, rfl⟩ : ∃ distance, place = address.toNat + distance :=
      ⟨place - address.toNat, by omega⟩
    exact inside distance (by omega)
  · exact outside place (by omega)

/-! ## Loading -/

/-- A register that is loaded has the byte of its turn, since no later turn is about it. -/
theorem read_loadEach_of_getElem? {memory : Memory} {size : Nat} (sized : memory.Sized size)
    {v : Registers} (full : v.size = 16) {address : Int} (nonneg : 0 ≤ address)
    {registers : List Digit} (fits : address + registers.length ≤ size)
    (distinct : registers.Nodup) {turn : Nat} (found : registers[turn]? = some r) :
    (loadEach memory address registers v).1.read r =
      memory.cells.getD (address.toNat + turn) 0 := by
  induction registers generalizing address v turn with
  | nil => cases found
  | cons register rest induction =>
      rw [List.length_cons] at fits
      rw [List.nodup_cons] at distinct
      have addresses := sized.addresses
      rw [loadEach, Registers.demand_of_full full, Store.read_of_inside nonneg (by omega)]
      cases turn with
      | zero =>
          obtain rfl : register = r := by simpa using found
          exact (read_loadEach memory distinct.1).trans (Registers.read_write_self full register _)
      | succ turn =>
          have later := induction
            (v := v.write register (memory.cells.getD address.toNat default))
            (by rw [Registers.size_write, full]) (by omega : 0 ≤ address + 1) (by omega)
            distinct.2 (by simpa using found)
          rw [show (address + 1).toNat + turn = address.toNat + (turn + 1) by omega] at later
          exact later

section Fits

variable {machine : Machine} {size : Nat} (full : machine.v.size = 16)
  (sized : machine.memory.Sized size) (nonneg : 0 ≤ machine.index)
  (fits : machine.index + span x y < size)

include full sized nonneg fits

/-- Loading a range puts the bytes at I into its registers, in order, and leaves the others. -/
theorem exists_loadRange_eq :
    ∃ v, machine.loadRange x y = ({ machine with v }, .ok ()) ∧ v.size = 16 ∧
      (∀ distance ≤ span x y, v.read (toward x y distance) =
        machine.memory.cells.getD (machine.index.toNat + distance) 0) ∧
      ∀ r, ¬ Between x y r → v.read r = machine.v.read r := by
  have inside : machine.index + (range x y).length ≤ size := by
    rw [length_range]
    omega
  obtain ⟨v, loaded, full_after⟩ := loadRange_of_fits full sized nonneg inside
  have v_eq : v = (loadEach machine.memory machine.index (range x y) machine.v).1 := by
    rw [loadRange, checkRange_of_fits sized nonneg inside] at loaded
    exact (congrArg (fun outcome => outcome.1.v) loaded).symm
  refine ⟨v, loaded, full_after, fun distance near => ?_, fun r other => ?_⟩
  · rw [v_eq]
    exact read_loadEach_of_getElem? sized full nonneg inside (nodup_range x y)
      (getElem?_range near)
  · rw [v_eq]
    exact read_loadEach machine.memory (mem_range.not.mpr other)

/-! ## Storing -/

/-- Storing a range puts its registers, in order, at I, and leaves the other bytes. -/
theorem exists_storeRange_eq :
    ∃ memory, machine.storeRange x y = ({ machine with memory }, .ok ()) ∧ memory.Sized size ∧
      (∀ distance ≤ span x y, memory.cells[machine.index.toNat + distance]? =
        some (machine.v.read (toward x y distance))) ∧
      ∀ place : Nat, (place : Int) < machine.index ∨ machine.index + span x y < place →
        memory.cells[place]? = machine.memory.cells[place]? := by
  have cells := sized.cells
  have inside : machine.index + (range x y).length ≤ size := by
    rw [length_range]
    omega
  have length : ((range x y).map machine.v.read).toArray.size = span x y + 1 := by
    simp [length_range]
  refine ⟨_, storeRange_of_fits full sized nonneg inside, sized.patch _ _,
    fun distance near => ?_, fun place outside => ?_⟩
  · rw [Store.getElem?_patch_inside (by omega) (by omega) (by omega), Nat.add_sub_cancel_left,
      List.getElem?_toArray, List.getElem?_map, getElem?_range near]
    rfl
  · exact Store.getElem?_patch_outside _ _ (by omega)

end Fits

end Machine

namespace Processor

section Fits

variable {processor : Processor} {size : Nat} {x y : Digit} (arch_eq : processor.arch = .xoChip)
  (full : processor.machine.v.size = 16) (sized : processor.machine.memory.Sized size)
  (nonneg : 0 ≤ processor.machine.index)
  (fits : processor.machine.index + Machine.span x y < size)

include arch_eq full sized nonneg fits

theorem exists_execute_storeRange :
    let machine := processor.machine
    let opcode : Nat := 0x5002 + x * 0x100 + y * 0x10
    ∃ memory lines,
      processor.execute opcode =
        ⟨{ processor with opcode, machine := { machine with memory } }, lines, .ok ()⟩ ∧
      memory.Sized size ∧
      (∀ distance ≤ Machine.span x y, memory.cells[machine.index.toNat + distance]? =
        some (machine.v.read (Machine.toward x y distance))) ∧
      ∀ place : Nat, (place : Int) < machine.index ∨ machine.index + Machine.span x y < place →
        memory.cells[place]? = machine.memory.cells[place]? := by
  intro machine opcode
  obtain ⟨word, spelled, value_eq⟩ := Word.exists_of_lt (show opcode < 0x10000 by omega)
  have reading : word.decode processor.arch = .instruction (.storeRange x y) := by
    rw [arch_eq]
    exact Word.decode_of_storeRange value_eq
  obtain ⟨lines, executed⟩ := exists_execute_eq full spelled reading
  obtain ⟨memory, stored, rest⟩ := Machine.exists_storeRange_eq full sized nonneg fits
  refine ⟨memory, lines, ?_, rest⟩
  rw [executed, Machine.perform, stored]
  rfl

theorem exists_execute_loadRange :
    let machine := processor.machine
    let opcode : Nat := 0x5003 + x * 0x100 + y * 0x10
    ∃ v lines,
      processor.execute opcode =
        ⟨{ processor with opcode, machine := { machine with v } }, lines, .ok ()⟩ ∧
      v.size = 16 ∧
      (∀ distance ≤ Machine.span x y, v.read (Machine.toward x y distance) =
        machine.memory.cells.getD (machine.index.toNat + distance) 0) ∧
      ∀ r, ¬ Machine.Between x y r → v.read r = machine.v.read r := by
  intro machine opcode
  obtain ⟨word, spelled, value_eq⟩ := Word.exists_of_lt (show opcode < 0x10000 by omega)
  have reading : word.decode processor.arch = .instruction (.loadRange x y) := by
    rw [arch_eq]
    exact Word.decode_of_loadRange value_eq
  obtain ⟨lines, executed⟩ := exists_execute_eq full spelled reading
  obtain ⟨v, loaded, rest⟩ := Machine.exists_loadRange_eq full sized nonneg fits
  refine ⟨v, lines, ?_, rest⟩
  rw [executed, Machine.perform, loaded]
  rfl

/-- Storing what has just been loaded changes no byte. -/
theorem exists_execute_loadRange_storeRange :
    let machine := processor.machine
    let storing : Nat := 0x5002 + x * 0x100 + y * 0x10
    let loading : Nat := 0x5003 + x * 0x100 + y * 0x10
    ∃ v lines lines',
      let loaded : Processor := { processor with opcode := loading, machine := { machine with v } }
      processor.execute loading = ⟨loaded, lines, .ok ()⟩ ∧
        loaded.execute storing = ⟨{ loaded with opcode := storing }, lines', .ok ()⟩ := by
  intro machine storing loading
  obtain ⟨v, lines, loaded, full_after, found, -⟩ :=
    exists_execute_loadRange arch_eq full sized nonneg fits
  obtain ⟨memory, lines', stored, sized_after, bytes, outside⟩ :=
    @exists_execute_storeRange { processor with opcode := loading, machine := { machine with v } }
      size x y arch_eq full_after sized nonneg fits
  have same : memory = machine.memory := by
    refine Machine.eq_of_block sized_after sized nonneg (fun distance near => ?_) outside
    have cells : machine.memory.cells.size = size := sized.cells
    have inside : machine.index.toNat + distance < machine.memory.cells.size := by
      have : machine.index + Machine.span x y < size := fits
      have : 0 ≤ machine.index := nonneg
      omega
    rw [bytes distance near, found distance near, Array.getD_eq_getD_getElem?,
      Array.getElem?_eq_getElem inside]
    rfl
  rw [same] at stored
  exact ⟨v, lines, lines', loaded, stored⟩

end Fits

variable {processor : Processor} {size : Nat} {x y : Digit}

/-- Storing Vx to Vy reaches only the bytes at I that stand for these registers.  Whatever happens
to the registers afterwards, loading Vx to Vy puts these back and leaves the others; loading Vy to
Vx instead gives them back in reverse.  Loading a range and storing it again changes no memory.  I
never moves. -/
theorem ranges_round_trip (arch_eq : processor.arch = .xoChip)
    (full : processor.machine.v.size = 16) (sized : processor.machine.memory.Sized size)
    (nonneg : 0 ≤ processor.machine.index)
    (fits : processor.machine.index + Machine.span x y < size) :
    let machine := processor.machine
    let storing : Nat := 0x5002 + x * 0x100 + y * 0x10
    let loading : Nat := 0x5003 + x * 0x100 + y * 0x10
    let turning : Nat := 0x5003 + y * 0x100 + x * 0x10
    (∃ memory lines,
      processor.execute storing =
        ⟨{ processor with opcode := storing, machine := { machine with memory } }, lines,
          .ok ()⟩ ∧
      memory.Sized size ∧
      (∀ place : Nat, (place : Int) < machine.index ∨ machine.index + Machine.span x y < place →
        memory.cells[place]? = machine.memory.cells[place]?) ∧
      ∀ later : Processor, later.arch = .xoChip → later.machine.v.size = 16 →
        later.machine.memory = memory → later.machine.index = machine.index →
        (∃ v lines,
          later.execute loading =
            ⟨{ later with opcode := loading, machine := { later.machine with v } }, lines,
              .ok ()⟩ ∧
          v.size = 16 ∧
          ∀ r, v.read r =
            if Machine.Between x y r then machine.v.read r else later.machine.v.read r) ∧
        ∃ v lines,
          later.execute turning =
            ⟨{ later with opcode := turning, machine := { later.machine with v } }, lines,
              .ok ()⟩ ∧
          v.size = 16 ∧
          (∀ distance ≤ Machine.span x y, v.read (Machine.toward y x distance) =
            machine.v.read (Machine.toward x y distance)) ∧
          ∀ r, ¬ Machine.Between x y r → v.read r = later.machine.v.read r) ∧
    ∃ v lines lines',
      let loaded : Processor := { processor with opcode := loading, machine := { machine with v } }
      processor.execute loading = ⟨loaded, lines, .ok ()⟩ ∧
        loaded.execute storing = ⟨{ loaded with opcode := storing }, lines', .ok ()⟩ := by
  intro machine storing loading turning
  constructor
  · obtain ⟨memory, lines, stored, sized_after, bytes, outside⟩ :=
      exists_execute_storeRange arch_eq full sized nonneg fits
    refine ⟨memory, lines, stored, sized_after, outside, ?_⟩
    rintro later later_arch later_full rfl index_eq
    have later_nonneg : 0 ≤ later.machine.index := by rwa [index_eq]
    have later_fits : later.machine.index + Machine.span x y < size := by rwa [index_eq]
    have kept (distance : Nat) (near : distance ≤ Machine.span x y) :
        later.machine.memory.cells.getD (later.machine.index.toNat + distance) 0 =
          machine.v.read (Machine.toward x y distance) := by
      rw [index_eq, Array.getD_eq_getD_getElem?, bytes distance near]
      rfl
    constructor
    · obtain ⟨v, lines, loaded, full_after, found, others⟩ :=
        exists_execute_loadRange later_arch later_full sized_after later_nonneg later_fits
      refine ⟨v, lines, loaded, full_after, fun r => ?_⟩
      by_cases between : Machine.Between x y r
      · obtain ⟨distance, near, rfl⟩ := Machine.exists_toward_eq between
        rw [if_pos between, found distance near, kept distance near]
      · rw [if_neg between, others r between]
    · rw [Machine.span_comm] at later_fits
      obtain ⟨v, lines, loaded, full_after, found, others⟩ :=
        exists_execute_loadRange later_arch later_full sized_after later_nonneg later_fits
      refine ⟨v, lines, loaded, full_after, fun distance near => ?_, fun r apart => ?_⟩
      · rw [found distance (by rwa [Machine.span_comm]), kept distance near]
      · exact others r (Machine.between_comm.not.mpr apart)
  · exact exists_execute_loadRange_storeRange arch_eq full sized nonneg fits

/-- V5 down to V2 in the last four bytes of memory, and from there into registers that were cleared
in between, from the other end. -/
theorem ranges_round_trip_at_end :
    let switchedOn := powerOn .xoChip (.standard .xoChip) false []
    let numbered : Registers := #[0, 1, 2, 3, 4, 5, 6, 7, 8, 9, 10, 11, 12, 13, 14, 15]
    let processor : Processor := { switchedOn with
      machine := { switchedOn.machine with v := numbered, index := 0xFFFC } }
    processor.arch = .xoChip ∧ processor.machine.v.size = 16 ∧
      processor.machine.memory.Sized 0x10000 ∧ 0 ≤ processor.machine.index ∧
      processor.machine.index + Machine.span 5 2 < 0x10000 ∧
      ∃ memory lines,
        processor.execute 0x5522 = ⟨{ processor with
          opcode := 0x5522, machine := { processor.machine with memory } }, lines, .ok ()⟩ ∧
        let cleared : Processor :=
          { processor with machine := { processor.machine with memory, v := .zeros } }
        ∃ v lines,
          cleared.execute 0x5253 = ⟨{ cleared with
            opcode := 0x5253, machine := { cleared.machine with v } }, lines, .ok ()⟩ ∧
          v.read 2 = 5 ∧ v.read 5 = 2 ∧ v.read 6 = 0 := by
  intro switchedOn numbered processor
  have full : processor.machine.v.size = 16 := rfl
  have sized : processor.machine.memory.Sized 0x10000 :=
    (Machine.wellFormed_powerOn .xoChip (.standard .xoChip)).memory
  have nonneg : 0 ≤ processor.machine.index := show (0 : Int) ≤ 0xFFFC by decide
  have fits : processor.machine.index + Machine.span 5 2 < 0x10000 :=
    show (0xFFFC : Int) + Machine.span 5 2 < 0x10000 by decide
  obtain ⟨⟨memory, lines, stored, -, -, later⟩, -⟩ :=
    @ranges_round_trip processor 0x10000 5 2 rfl full sized nonneg fits
  obtain ⟨-, v, lines', turned, -, back, others⟩ :=
    later { processor with machine := { processor.machine with memory, v := .zeros } } rfl
      Registers.size_zeros rfl rfl
  exact ⟨rfl, full, sized, nonneg, fits, memory, lines, stored, v, lines', turned,
    back 0 (by decide), back 3 (by decide), others 6 (by decide)⟩

end Processor

end Chip8
