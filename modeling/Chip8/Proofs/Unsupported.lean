import Chip8.Proofs.History
import Chip8.Proofs.InstructionTable
import Chip8.Proofs.Understood

/-!
# Unsupported instructions

A processor declines a word as unsupported exactly if its architecture documents no instruction that
the word spells.  The rest of its state has no say in this, and a report on such a word names the
word and its address.
-/

namespace Chip8

/-! ## Words in memory -/

namespace Memory

/-- Two bytes spell a number with the first one in front. -/
theorem bigEndian_pair (high low : UInt8) :
    bigEndian #[high, low] = high.toNat * 256 + low.toNat := by
  simp [bigEndian]

/-- A block of two bytes consists of the bytes at its two addresses. -/
theorem readBlock_pair {memory : Memory} {size : Nat} (sized : memory.Sized size) {address : Int}
    (nonneg : 0 ≤ address) {block : Array UInt8} (read : memory.readBlock address 2 = .ok block) :
    ∃ high low, memory.read address = .ok high ∧ memory.read (address + 1) = .ok low ∧
      block = #[high, low] := by
  have cells := sized.cells
  have addresses := sized.addresses
  by_cases inside : address + 2 ≤ size
  · rw [Store.readBlock_of_inside sized nonneg (by decide) inside] at read
    cases read
    refine ⟨_, _, Store.read_of_inside nonneg (by omega),
      Store.read_of_inside (by omega) (by omega), ?_⟩
    have first : address.toNat < memory.cells.size := by omega
    have second : address.toNat + 1 < memory.cells.size := by omega
    have next : (address + 1).toNat = address.toNat + 1 := by omega
    apply Array.ext
    · simp
      omega
    · intro index _ two
      match index with
      | 0 => simp [first]
      | 1 => simp [next, second]
      | _ + 2 => simp at two
  · rw [Store.readBlock_of_outside sized (by omega)] at read
    cases read

end Memory

/-- The machine has every register and flag that a report lists. -/
structure Machine.Reportable (machine : Machine) : Prop where
  /-- Number of general registers. -/
  registers : machine.v.size = 16
  /-- Number of flags. -/
  flags : machine.flags.size = 16

theorem Machine.WellFormed.reportable {arch : Arch} {dialect : Dialect} {machine : Machine}
    (wellFormed : machine.WellFormed arch dialect) : machine.Reportable :=
  ⟨wellFormed.v, wellFormed.flags⟩

namespace Processor

/-- The processor takes the word for no instruction of its architecture. -/
def Declines (processor : Processor) (word : Word) : Prop :=
  ∃ report, (processor.execute word.value.val).result = .error (.unsupported report)

variable {processor : Processor} {word : Word} {report : CrashReport} {opcode : Int}

/-! ## Execution of a word -/

theorem understood_of_documented (spelled : Word.ofInt? opcode = some word)
    (documented : word.Documented processor.arch) :
    Understood (processor.execute opcode).result := by
  obtain ⟨instruction, decoded⟩ := Word.decode_reads_iff.mpr documented
  have announced := { processor with opcode }.understood_announce instruction
  simp only [execute, spelled, decoded]
  split
  case h_1 fault refused => exact (refused ▸ announced).relay
  case h_2 => exact Machine.understood_execute _ _ _

theorem unsupported_of_undocumented (spelled : Word.ofInt? opcode = some word)
    (reportable : processor.machine.Reportable)
    (undocumented : ¬ word.Documented processor.arch) :
    ∃ report, (processor.execute opcode).result = .error (.unsupported report) := by
  obtain ⟨report, reported⟩ := exists_unsupported { processor with opcode }
    reportable.registers reportable.flags
  refine ⟨report, ?_⟩
  rcases reading : word.decode processor.arch with instruction | instruction | _
  · exact absurd (Word.decode_reads_iff.mp ⟨instruction, reading⟩) undocumented
  · obtain ⟨lines, announced⟩ :=
      exists_announce { processor with opcode } reportable.registers instruction
    simp only [execute, spelled, reading, announced, reported]
  · simp only [execute, spelled, reading, reported]

theorem declines_iff (reportable : processor.machine.Reportable) :
    processor.Declines word ↔ ¬ word.Documented processor.arch := by
  constructor
  · rintro ⟨report, declined⟩ documented
    exact understood_of_documented word.ofInt?_value documented report declined
  · exact unsupported_of_undocumented word.ofInt?_value reportable

/-- A report names the number that was handed over and where the instruction was fetched. -/
theorem report_of_execute
    (declined : (processor.execute opcode).result = .error (.unsupported report)) :
    report.opcode = opcode ∧ report.address = processor.fetchedFrom := by
  have announced (instruction : Instruction) :=
    { processor with opcode }.understood_announce instruction
  rcases spelled : Word.ofInt? opcode with _ | word
  · simp only [execute, spelled] at declined
    cases declined
  · rcases reading : word.decode processor.arch with instruction | instruction | _
    · exact absurd declined (understood_of_documented spelled
        (Word.decode_reads_iff.mp ⟨instruction, reading⟩) report)
    · simp only [execute, spelled, reading] at declined
      split at declined
      case h_1 fault refused =>
        rw [Except.error.inj declined] at refused
        exact absurd refused (announced instruction report)
      case h_2 => exact report_of_unsupported _ (Except.error.inj declined)
    · simp only [execute, spelled, reading] at declined
      exact report_of_unsupported _ (Except.error.inj declined)

/-! ## Steps -/

/-- A step stops at a word that is not documented. -/
theorem unsupported_of_meets (processor : Processor)
    (wellFormed : processor.machine.WellFormed processor.arch processor.dialect) (keyFrame : Bool)
    (meets : processor.machine.Meets word) (undocumented : ¬ word.Documented processor.arch) :
    ∃ report, (processor.step keyFrame).result = .error (.unsupported report) := by
  have advanced := wellFormed.advance (wellFormed.inside_of_meets meets) keyFrame
  rw [step_of_meets keyFrame meets]
  exact unsupported_of_undocumented word.ofInt?_value advanced.reportable undocumented

/-- A step that meets an unsupported instruction reports the word at the program counter. -/
theorem report_of_step {keyFrame : Bool}
    (declined : (processor.step keyFrame).result = .error (.unsupported report)) :
    (∃ value, processor.machine.operand = .ok value ∧ report.opcode = value) ∧
      report.address = processor.machine.pc := by
  rcases read : processor.machine.operand with fault | value
  · rw [step_of_unread keyFrame read] at declined
    have understood := processor.machine.understood_operand
    rw [read] at understood
    exact absurd declined (understood.relay report)
  · rw [step_of_operand keyFrame read] at declined
    obtain ⟨opcode_eq, address_eq⟩ := report_of_execute declined
    exact ⟨⟨value, rfl, opcode_eq⟩, address_eq⟩

/-- A processor declines exactly the words that its architecture does not document, whatever its
machine and its dialect are; a later architecture declines none that an earlier one takes; and a
step that declines a word reports the two bytes at the program counter and their address. -/
theorem declines_iff_undocumented :
    (∀ (processor : Processor) (word : Word), processor.machine.Reportable →
      (processor.Declines word ↔ ¬ word.Documented processor.arch)) ∧
    (∀ (older newer : Processor) (word : Word), older.machine.Reportable →
      newer.arch.includes older.arch → newer.Declines word → older.Declines word) ∧
    ∀ (processor : Processor) (keyFrame : Bool) (report : CrashReport) (size : Nat),
      processor.machine.memory.Sized size → 0 ≤ processor.machine.pc →
      (processor.step keyFrame).result = .error (.unsupported report) →
      ∃ high low, processor.machine.memory.read processor.machine.pc = .ok high ∧
        processor.machine.memory.read (processor.machine.pc + 1) = .ok low ∧
        report.opcode = high.toNat * 256 + low.toNat ∧ report.address = processor.machine.pc := by
  refine ⟨?_, ?_, ?_⟩
  · intro processor word reportable
    exact declines_iff reportable
  · rintro older newer word reportable included ⟨report, declined⟩
    rw [declines_iff reportable]
    intro documented
    exact understood_of_documented word.ofInt?_value (documented.of_includes included) report
      declined
  · intro processor keyFrame report size sized nonneg declined
    obtain ⟨⟨value, operand_eq, opcode_eq⟩, address_eq⟩ := report_of_step declined
    rcases read : processor.machine.memory.readBlock processor.machine.pc 2 with fault | block
    · rw [Machine.operand, read] at operand_eq
      cases operand_eq
    · obtain ⟨high, low, first, second, rfl⟩ := Memory.readBlock_pair sized nonneg read
      rw [Machine.operand, read] at operand_eq
      cases operand_eq
      refine ⟨high, low, first, second, ?_, address_eq⟩
      rw [opcode_eq, Memory.bigEndian_pair]
      norm_cast

/-- A register range is declined before XO-CHIP. -/
theorem declines_register_range :
    let processor := powerOn .superChip (.standard .superChip) false []
    let older := powerOn .chip8 (.standard .chip8) false []
    processor.machine.Reportable ∧ processor.Declines ⟨0x5122⟩ ∧ older.Declines ⟨0x5122⟩ ∧
      ∃ machine report, processor.machine.load #[0x51, 0x22] = .ok machine ∧
        ((processor.restore machine).step true).result = .error (.unsupported report) ∧
        ∃ high low, machine.memory.read machine.pc = .ok high ∧
          machine.memory.read (machine.pc + 1) = .ok low ∧
          report.opcode = high.toNat * 256 + low.toNat ∧ report.address = machine.pc := by
  intro processor older
  obtain ⟨iff, monotone, told⟩ := declines_iff_undocumented
  have wellFormed : processor.machine.WellFormed .superChip (.standard .superChip) :=
    Machine.wellFormed_powerOn _ _
  have older_wellFormed : older.machine.WellFormed .chip8 (.standard .chip8) :=
    Machine.wellFormed_powerOn _ _
  have undocumented : ¬ Word.Documented .superChip ⟨0x5122⟩ := by decide
  have declined := (iff processor ⟨0x5122⟩ wellFormed.reportable).mpr undocumented
  have older_declined :=
    monotone older processor ⟨0x5122⟩ older_wellFormed.reportable (by decide) declined
  have fits : Machine.programStart + (#[0x51, 0x22] : Array UInt8).size ≤
    Arch.superChip.memorySize := by decide
  obtain ⟨machine, loads⟩ : ∃ machine, processor.machine.load #[0x51, 0x22] = .ok machine :=
    ⟨_, wellFormed.load_of_fits fits⟩
  have loaded := wellFormed.load loads
  have meets : machine.Meets ⟨0x5122⟩ :=
    wellFormed.meets_of_load rfl (by decide) fits rfl loads
  obtain ⟨report, stepped⟩ :=
    (processor.restore machine).unsupported_of_meets loaded true meets undocumented
  exact ⟨wellFormed.reportable, declined, older_declined, machine, report, loads, stepped,
    told (processor.restore machine) true report _ loaded.memory loaded.pc.1 stepped⟩

end Processor

end Chip8
