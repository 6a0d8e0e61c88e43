import Chip8.Proofs.Decode
import Chip8.Proofs.Unsupported

/-!
# Words and what is read in them

A word in memory is told by its two bytes, and it has to lie there wholly.  An architecture reads a
skip, an operation on registers or a wait for a key in the word that spells it.
-/

namespace Chip8

/-! ## Words in memory -/

/-- The word at an address, if it lies wholly in memory. -/
def Memory.word? (memory : Memory) (address : Int) : Option Nat :=
  if 0 ≤ address ∧ address + 2 ≤ memory.size then
    some ((memory.cells.getD address.toNat 0).toNat * 256 +
      (memory.cells.getD (address + 1).toNat 0).toNat)
  else
    none

namespace Memory

variable {memory : Memory} {size : Nat} {address : Int}

theorem word?_of_outside (addresses : memory.size = size) (outside : (size : Int) < address + 2) :
    memory.word? address = none :=
  if_neg (by omega)

theorem word?_of_readBlock (sized : memory.Sized size) (nonneg : 0 ≤ address)
    {block : Array UInt8} (read : memory.readBlock address 2 = .ok block) :
    memory.word? address = some (bigEndian block) := by
  have addresses := sized.addresses
  by_cases inside : address + 2 ≤ size
  · obtain ⟨high, low, first, second, rfl⟩ := readBlock_pair sized nonneg read
    rw [Store.read_of_inside nonneg (by omega)] at first
    rw [Store.read_of_inside (by omega) (by omega)] at second
    rw [word?, if_pos ⟨nonneg, by omega⟩, bigEndian_pair, ← Except.ok.inj first,
      ← Except.ok.inj second]
    rfl
  · rw [Store.readBlock_of_outside sized (by omega)] at read
    cases read

/-- The words of a block that was stored. -/
theorem word?_patch (sized : memory.Sized size) {place offset : Nat} {block : Array UInt8}
    (two : offset + 2 ≤ block.size) (fits : place + block.size ≤ size) :
    word? (memory.patch place block) (place + offset : Nat) =
      some (bigEndian (block.extract offset (offset + 2))) :=
  word?_of_readBlock (sized.patch place block) (Int.natCast_nonneg _)
    (Store.readBlock_patch sized Nat.two_pos two fits)

/-- A long instruction starts where the word of its first half lies. -/
theorem startsWide_iff (sized : memory.Sized size) (nonneg : 0 ≤ address) :
    Processor.startsWide memory address = true ↔ memory.word? address = some 0xF000 := by
  have addresses := sized.addresses
  rw [Processor.startsWide, Bool.and_eq_true, decide_eq_true_eq]
  rcases read : memory.readBlock address 2 with fault | block
  · have outside : (size : Int) < address + 2 := by
      by_contra inside
      rw [Store.readBlock_of_inside sized nonneg (by decide) (by omega)] at read
      cases read
    rw [word?_of_outside addresses outside]
    exact iff_of_false (fun both => nomatch both.2) nofun
  · have inside : address + 1 < memory.size := by
      by_contra outside
      rw [Store.readBlock_of_outside sized (by omega)] at read
      cases read
    rw [word?_of_readBlock sized nonneg read, Option.some_inj]
    exact ⟨fun both => eq_of_beq both.2, fun spelled => ⟨inside, beq_of_eq spelled⟩⟩

end Memory

theorem Machine.WellFormed.meets_iff {arch : Arch} {dialect : Dialect} {machine : Machine}
    (wellFormed : machine.WellFormed arch dialect) {word : Word} :
    machine.Meets word ↔ machine.memory.word? machine.pc = some word.value.val := by
  rw [Meets, operand]
  rcases read : machine.memory.readBlock machine.pc 2 with fault | block
  · have outside : (arch.memorySize : Int) < machine.pc + 2 := by
      by_contra inside
      rw [Store.readBlock_of_inside wellFormed.memory wellFormed.pc.1 (by decide)
        (by omega)] at read
      cases read
    rw [Memory.word?_of_outside wellFormed.memorySize_eq outside]
    constructor <;> rintro ⟨⟩
  · rw [Memory.word?_of_readBlock wellFormed.memory wellFormed.pc.1 read, Option.some_inj]
    exact ⟨Except.ok.inj, congrArg Except.ok⟩

theorem Machine.WellFormed.exists_meets_of_word? {arch : Arch} {dialect : Dialect}
    {machine : Machine} (wellFormed : machine.WellFormed arch dialect) {number : Nat}
    (spelled : machine.memory.word? machine.pc = some number) :
    ∃ word : Word, word.value.val = number ∧ machine.Meets word := by
  have inside : machine.pc + 2 ≤ arch.memorySize := by
    by_contra outside
    rw [Memory.word?_of_outside wellFormed.memorySize_eq (by omega)] at spelled
    cases spelled
  obtain ⟨word, meets⟩ := wellFormed.exists_meets inside
  exact ⟨word, Option.some.inj ((wellFormed.meets_iff.mp meets).symm.trans spelled), meets⟩

/-- Whether a long instruction lies ahead of the one at the program counter. -/
theorem Machine.WellFormed.startsWide_ahead_iff {arch : Arch} {dialect : Dialect}
    {machine : Machine} (wellFormed : machine.WellFormed arch dialect) :
    Processor.startsWide machine.memory (machine.pc + 2) = true ↔
      machine.memory.word? (machine.pc + 2) = some 0xF000 := by
  have nonneg := wellFormed.pc.1
  exact Memory.startsWide_iff wellFormed.memory (by omega)

/-! ## Readings -/

namespace Word

variable {arch : Arch} {word : Word}

theorem exists_of_lt {number : Nat} (fits : number < 0x10000) :
    ∃ word : Word, ofInt? number = some word ∧ word.value.val = number := by
  let word : Word := ⟨⟨number, fits⟩⟩
  exact ⟨word, word.ofInt?_value, rfl⟩

theorem reads_byte (family : Nat) {x : Digit} {byte : UInt8}
    (spelled : word.value.val = family * 0x1000 + x * 0x100 + byte.toNat) :
    word.family.val = family ∧ word.x = x ∧ word.byte = byte := by
  have byte_lt := byte.toNat_lt
  have low : (family * 0x1000 + x * 0x100 + byte.toNat) % 0x100 = byte.toNat := by omega
  refine ⟨?_, Fin.ext ?_, ?_⟩
  · simp only [Word.family, spelled]
    omega
  · simp only [Word.x, spelled]
    omega
  · simp only [Word.byte, spelled, low, UInt8.ofNat_toNat]

theorem reads_digits (family : Nat) {x y n : Digit}
    (spelled : word.value.val = family * 0x1000 + x * 0x100 + y * 0x10 + n) :
    word.family.val = family ∧ word.x = x ∧ word.y = y ∧ word.n = n := by
  refine ⟨?_, Fin.ext ?_, Fin.ext ?_, Fin.ext ?_⟩ <;>
    simp only [Word.family, Word.x, Word.y, Word.n, spelled] <;> omega

/-- A word of fixed digits around the number of a register. -/
theorem reads_register (family : Nat) {x : Digit} {start : Nat} (y n : Digit)
    (spelled : word.value.val = start + x * 0x100)
    (start_eq : start = family * 0x1000 + y * 0x10 + n) :
    word.family.val = family ∧ word.x = x ∧ word.y = y ∧ word.n = n :=
  reads_digits family (by omega)

theorem decode_of_condition {condition : Condition}
    (spelled : word.value.val = condition.opcode) :
    word.decode arch = .instruction (.skip condition) := by
  cases condition with
  | byteEqual x byte =>
      obtain ⟨family, rfl, rfl⟩ := reads_byte 0x3 spelled
      simp only [decode, family]
  | byteUnequal x byte =>
      obtain ⟨family, rfl, rfl⟩ := reads_byte 0x4 spelled
      simp only [decode, family]
  | equal x y =>
      obtain ⟨family, rfl, rfl, last⟩ := reads_digits 0x5 (n := 0) spelled
      simp only [decode, family, Decoding.compare, last, Fin.val_zero]
  | unequal x y =>
      obtain ⟨family, rfl, rfl, last⟩ := reads_digits 0x9 (n := 0) spelled
      simp only [decode, family, last, if_true]
  | held x =>
      obtain ⟨family, rfl, y_eq, n_eq⟩ := reads_register 0xE 0x9 0xE spelled rfl
      simp only [decode, family, Decoding.keypad, y_eq, n_eq]
      rfl
  | released x =>
      obtain ⟨family, rfl, y_eq, n_eq⟩ := reads_register 0xE 0xA 0x1 spelled rfl
      simp only [decode, family, Decoding.keypad, y_eq, n_eq]
      rfl

theorem decode_of_arithmetic {operation : Arithmetic} {x y : Digit}
    (spelled : word.value.val = 0x8000 + x * 0x100 + y * 0x10 + operation.digit) :
    word.decode arch = .instruction (.arithmetic operation x y) := by
  have digit_lt : operation.digit < 16 := by cases operation <;> decide
  obtain ⟨family, rfl, rfl, last⟩ :=
    reads_digits 0x8 (n := ⟨operation.digit, digit_lt⟩) spelled
  simp only [decode, family, Decoding.combine, last]
  cases operation <;> rfl

theorem decode_of_addByte {x : Digit} {byte : UInt8}
    (spelled : word.value.val = 0x7000 + x * 0x100 + byte.toNat) :
    word.decode arch = .instruction (.addByte x byte) := by
  obtain ⟨family, rfl, rfl⟩ := reads_byte 0x7 spelled
  simp only [decode, family]

theorem decode_of_storeRange {x y : Digit}
    (spelled : word.value.val = 0x5002 + x * 0x100 + y * 0x10) :
    word.decode .xoChip = .instruction (.storeRange x y) := by
  have digits : word.value.val = 0x5 * 0x1000 + x * 0x100 + y * 0x10 + (2 : Digit).val := by
    rw [spelled, show (2 : Digit).val = 2 from rfl]
    omega
  obtain ⟨family, rfl, rfl, last⟩ := reads_digits 0x5 digits
  simp only [decode, family, Decoding.compare, last]
  rfl

theorem decode_of_loadRange {x y : Digit}
    (spelled : word.value.val = 0x5003 + x * 0x100 + y * 0x10) :
    word.decode .xoChip = .instruction (.loadRange x y) := by
  have digits : word.value.val = 0x5 * 0x1000 + x * 0x100 + y * 0x10 + (3 : Digit).val := by
    rw [spelled, show (3 : Digit).val = 3 from rfl]
    omega
  obtain ⟨family, rfl, rfl, last⟩ := reads_digits 0x5 digits
  simp only [decode, family, Decoding.compare, last]
  rfl

theorem decode_of_awaitKey {x : Digit} (spelled : word.value.val = 0xF00A + x * 0x100) :
    word.decode arch = .instruction (.awaitKey x) := by
  obtain ⟨family, rfl, y_eq, n_eq⟩ := reads_register 0xF 0x0 0xA spelled rfl
  simp only [decode, family, Decoding.device, y_eq, n_eq]
  rfl

theorem decode_of_store {x : Digit} (spelled : word.value.val = 0xF055 + x * 0x100) :
    word.decode arch = .instruction (.store x) := by
  obtain ⟨family, rfl, y_eq, n_eq⟩ := reads_register 0xF 0x5 0x5 spelled rfl
  simp only [decode, family, Decoding.device, y_eq, n_eq]
  rfl

theorem decode_of_load {x : Digit} (spelled : word.value.val = 0xF065 + x * 0x100) :
    word.decode arch = .instruction (.load x) := by
  obtain ⟨family, rfl, y_eq, n_eq⟩ := reads_register 0xF 0x6 0x5 spelled rfl
  simp only [decode, family, Decoding.device, y_eq, n_eq]
  rfl

end Word

namespace Processor

variable {processor : Processor}

/-- With all registers there, a word that spells an instruction does what the instruction does. -/
theorem exists_execute_eq (full : processor.machine.v.size = 16) {opcode : Int} {word : Word}
    {instruction : Instruction} (spelled : Word.ofInt? opcode = some word)
    (reading : word.decode processor.arch = .instruction instruction) :
    ∃ lines, processor.execute opcode =
      ⟨{ processor with
          opcode
          machine := (processor.machine.perform processor.arch processor.dialect
            (processor.roll instruction).1 instruction).1
          dice := (processor.roll instruction).2 }, lines,
        (processor.machine.perform processor.arch processor.dialect
          (processor.roll instruction).1 instruction).2⟩ := by
  obtain ⟨lines, announced⟩ := exists_announce { processor with opcode } full instruction
  refine ⟨lines, ?_⟩
  simp only [execute, spelled, reading, announced, Machine.execute, Registers.demand_of_full full]
  cases instruction <;> rfl

end Processor

end Chip8
