import Chip8.Processor
import Chip8.Proofs.Execution

/-!
# Steps of a processor

A step of a well-formed machine either fails to fetch a word or executes the word it fetched.  Such
a word is no instruction of the architecture, or it is refused, or it is carried out; the first two
stop the step with a fault that tells the reason, and announcing or reporting never adds another.
-/

namespace Chip8

namespace Machine

/-- The machine that has moved past the word at its program counter. -/
def advance (keyFrame : Bool) (machine : Machine) : Machine :=
  { machine with
    keyFrame
    pc := machine.pc + 2
    nextWide := Processor.startsWide machine.memory (machine.pc + 2) }

@[simp]
theorem advance_pc (keyFrame : Bool) (machine : Machine) :
    (machine.advance keyFrame).pc = machine.pc + 2 := rfl

/-- The word stands at the program counter. -/
def Meets (machine : Machine) (word : Word) : Prop := machine.operand = .ok word.value

variable {arch : Arch} {dialect : Dialect} {machine : Machine}

/-- Moving past a word leaves an instruction the block it needs. -/
theorem blockLength_advance (keyFrame : Bool) (instruction : Instruction) :
    (machine.advance keyFrame).blockLength arch dialect instruction =
      { machine with keyFrame }.blockLength arch dialect instruction := by
  cases instruction <;> rfl

/-- Only one word stands at the program counter. -/
theorem Meets.unique {word other : Word} (meets : machine.Meets word)
    (also : machine.Meets other) : word = other := by
  have same : word.value.val = other.value.val := Except.ok.inj (meets.symm.trans also)
  rcases word with ⟨value⟩
  rcases other with ⟨value'⟩
  exact congrArg Word.mk (Fin.ext same)

theorem inside_of_startsWide {memory : Memory} {address : Int}
    (wide : Processor.startsWide memory address = true) : address + 2 ≤ memory.size := by
  have inside := (Bool.and_eq_true_iff.mp wide).1
  have before := of_decide_eq_true inside
  omega

/-- A program that was loaded is met with the word that the program counter points at. -/
theorem meets_of_patch {memory : Memory} {size offset : Nat} {program : Array UInt8} {word : Word}
    (sized : memory.Sized size) (loaded : machine.memory = memory.patch programStart program)
    (pc : machine.pc = (programStart + offset : Nat)) (two : offset + 2 ≤ program.size)
    (fits : programStart + program.size ≤ size)
    (spelled : Memory.bigEndian (program.extract offset (offset + 2)) = word.value) :
    machine.Meets word := by
  have read := Store.readBlock_patch sized Nat.two_pos two fits
  rw [Meets, operand, loaded, pc, show (2 : Int) = (2 : Nat) from rfl, read, ← spelled]
  rfl

namespace WellFormed

/-- A program counter with a word behind it meets that word. -/
theorem exists_meets (wellFormed : machine.WellFormed arch dialect)
    (inside : machine.pc + 2 ≤ arch.memorySize) : ∃ word, machine.Meets word := by
  obtain ⟨value, fits, read⟩ := wellFormed.exists_operand inside
  exact ⟨⟨⟨value, fits⟩⟩, read⟩

/-- A program that is loaded is met with its first word. -/
theorem meets_of_load (wellFormed : machine.WellFormed arch dialect)
    (start : machine.pc = programStart) {program : Array UInt8} (two : 2 ≤ program.size)
    (fits : programStart + program.size ≤ arch.memorySize) {word : Word}
    (spelled : Memory.bigEndian (program.extract 0 2) = word.value) {loaded : Machine}
    (load : machine.load program = .ok loaded) : loaded.Meets word := by
  rw [wellFormed.load_of_fits fits] at load
  cases load
  exact meets_of_patch wellFormed.memory rfl start two fits spelled

theorem inside_of_meets (wellFormed : machine.WellFormed arch dialect) {word : Word}
    (meets : machine.Meets word) : machine.pc + 2 ≤ arch.memorySize := by
  by_contra outside
  rw [Meets, wellFormed.operand_of_outside (by omega)] at meets
  cases meets

theorem setKeyFrame (wellFormed : machine.WellFormed arch dialect) (keyFrame : Bool) :
    { machine with keyFrame }.WellFormed arch dialect :=
  { wellFormed with }

theorem advance (wellFormed : machine.WellFormed arch dialect)
    (inside : machine.pc + 2 ≤ arch.memorySize) (keyFrame : Bool) :
    (machine.advance keyFrame).WellFormed arch dialect := by
  have nonneg := wellFormed.pc.1
  exact { wellFormed with pc := ⟨show 0 ≤ machine.pc + 2 by omega,
    show machine.pc + 2 ≤ arch.memorySize + 2 by omega⟩ }

theorem fetched_advance (wellFormed : machine.WellFormed arch dialect)
    (inside : machine.pc + 2 ≤ arch.memorySize) (keyFrame : Bool) :
    (machine.advance keyFrame).Fetched arch where
  behind := by
    have nonneg := wellFormed.pc.1
    show 2 ≤ machine.pc + 2
    omega
  inside := inside
  wide := by
    intro wide
    rw [← wellFormed.memorySize_eq]
    exact inside_of_startsWide wide

end WellFormed

end Machine

namespace Processor

variable {processor : Processor}

/-! ## Execution of a word -/

/-- What becomes of a well-formed machine when a number that spells a word is executed. -/
inductive Executed (processor : Processor) (opcode : Int) (word : Word) : Outcome Unit → Prop
  /-- The architecture reads no instruction in the word. -/
  | unread (lines : List String) (report : CrashReport)
      (unknown : ∀ instruction, word.decode processor.arch ≠ .instruction instruction) :
      Executed processor opcode word
        ⟨{ processor with opcode }, lines, .error (.unsupported report)⟩
  /-- The instruction is refused. -/
  | refused (lines : List String) (instruction : Instruction) (fault : Fault)
      (decoded : word.decode processor.arch = .instruction instruction)
      (refusal : processor.machine.refusal? processor.arch processor.dialect instruction =
        some fault) :
      Executed processor opcode word ⟨{ processor with opcode }, lines, .error fault⟩
  /-- The instruction is carried out. -/
  | performed (lines : List String) (instruction : Instruction) (after : Machine)
      (decoded : word.decode processor.arch = .instruction instruction)
      (accepted : processor.machine.refusal? processor.arch processor.dialect instruction = none)
      (effect : processor.machine.perform processor.arch processor.dialect
        (processor.roll instruction).1 instruction = (after, .ok ()))
      (wellFormed : processor.machine.Fetched processor.arch →
        after.WellFormed processor.arch processor.dialect) :
      Executed processor opcode word
        ⟨{ processor with opcode, machine := after, dice := (processor.roll instruction).2 },
          lines, .ok ()⟩

/-- With all registers there, announcing an instruction never fails. -/
theorem exists_announce (processor : Processor) (full : processor.machine.v.size = 16)
    (instruction : Instruction) :
    ∃ lines, processor.announce instruction = .ok lines := by
  rw [announce]
  split
  · rcases instruction.mnemonic? processor.dialect processor.machine with _ | text
    · exact ⟨[], rfl⟩
    · refine ⟨[processor.machine.line processor.fetchedFrom processor.opcode text], ?_⟩
      simp only [Option.toList_some, List.mapM_cons, List.mapM_nil, line,
        Registers.demand_of_full full]
      rfl
  · exact ⟨[], rfl⟩

/-- With all registers and flags there, an instruction that is not known is reported as such. -/
theorem exists_unsupported (processor : Processor) (full : processor.machine.v.size = 16)
    (flags : processor.machine.flags.size = 16) :
    ∃ report, processor.unsupported = .unsupported report := by
  simp only [unsupported, report, Registers.demand_of_full full, Registers.demand_of_full flags]
  exact ⟨_, rfl⟩

/-- An instruction that is refused takes no random byte. -/
theorem roll_of_refused {instruction : Instruction} {fault : Fault}
    (refusal : processor.machine.refusal? processor.arch processor.dialect instruction =
      some fault) : (processor.roll instruction).2 = processor.dice := by
  cases instruction with
  | random x mask => cases (Machine.blockFault?_eq_some.mp refusal).1
  | _ => rfl

-- The number stays a variable: spelled out, the kernel would count up to the largest word.
section Execute

variable {opcode : Int} {word : Word} {instruction : Instruction} {lines : List String}

/-- What executing an instruction amounts to. -/
theorem execute_of_instruction
    (wellFormed : processor.machine.WellFormed processor.arch processor.dialect)
    (spelled : Word.ofInt? opcode = some word)
    (reading : word.decode processor.arch = .instruction instruction)
    (announced : announce { processor with opcode } instruction = .ok lines) :
    processor.execute opcode =
      ⟨{ processor with
          opcode
          machine := (processor.machine.perform processor.arch processor.dialect
            (processor.roll instruction).1 instruction).1
          dice := (processor.roll instruction).2 }, lines,
        (processor.machine.perform processor.arch processor.dialect
          (processor.roll instruction).1 instruction).2⟩ := by
  simp only [execute, spelled, reading, announced, wellFormed.execute_eq_perform]
  cases instruction <;> rfl

theorem execute_of_reserved (spelled : Word.ofInt? opcode = some word)
    (reading : word.decode processor.arch = .reserved instruction)
    (announced : announce { processor with opcode } instruction = .ok lines) :
    processor.execute opcode =
      ⟨{ processor with opcode }, lines, .error (unsupported { processor with opcode })⟩ := by
  simp only [execute, spelled, reading, announced]

theorem execute_of_unknown (spelled : Word.ofInt? opcode = some word)
    (reading : word.decode processor.arch = .unknown) :
    processor.execute opcode =
      ⟨{ processor with opcode }, [], .error (unsupported { processor with opcode })⟩ := by
  simp only [execute, spelled, reading]

theorem executed (wellFormed : processor.machine.WellFormed processor.arch processor.dialect)
    (spelled : Word.ofInt? opcode = some word) :
    Executed processor opcode word (processor.execute opcode) := by
  have announce (instruction : Instruction) :=
    exists_announce { processor with opcode } wellFormed.v instruction
  obtain ⟨report, reported⟩ :=
    exists_unsupported { processor with opcode } wellFormed.v wellFormed.flags
  rcases reading : word.decode processor.arch with instruction | instruction | _
  · obtain ⟨lines, announced⟩ := announce instruction
    rw [execute_of_instruction wellFormed spelled reading announced]
    rcases refusal :
        processor.machine.refusal? processor.arch processor.dialect instruction with _ | fault
    · obtain ⟨after, effect, kept⟩ := wellFormed.exists_perform (processor.roll instruction).1
        (Word.decode_supported reading) refusal
      rw [effect]
      exact .performed lines instruction after reading refusal effect kept
    · rw [wellFormed.perform_of_refused refusal, roll_of_refused refusal]
      exact .refused lines instruction fault reading refusal
  · obtain ⟨lines, announced⟩ := announce instruction
    rw [execute_of_reserved spelled reading announced, reported]
    exact .unread lines report fun other => by rw [reading]; exact nofun
  · rw [execute_of_unknown spelled reading, reported]
    exact .unread [] report fun other => by rw [reading]; exact nofun

end Execute

/-! ## Fetching -/

/-- The processor that has moved past the word at its program counter. -/
def advance (keyFrame : Bool) (processor : Processor) : Processor :=
  { processor with
    machine := processor.machine.advance keyFrame
    fetchedFrom := processor.machine.pc }

/-- The processor that has failed to fetch a word. -/
def stay (keyFrame : Bool) (processor : Processor) : Processor :=
  { processor with
    machine := { processor.machine with keyFrame }
    fetchedFrom := processor.machine.pc }

/-- A step executes the number at the program counter. -/
theorem step_of_operand (keyFrame : Bool) {value : Nat}
    (read : processor.machine.operand = .ok value) :
    processor.step keyFrame = (processor.advance keyFrame).execute value := by
  have operand_eq : Machine.operand { processor.machine with keyFrame } = .ok value := read
  simp only [step, fetch, operand_eq]
  rfl

/-- A step goes no further if there is no number at the program counter. -/
theorem step_of_unread (keyFrame : Bool) {fault : Fault}
    (unread : processor.machine.operand = .error fault) :
    processor.step keyFrame = ⟨processor.stay keyFrame, [], .error fault⟩ := by
  have operand_eq : Machine.operand { processor.machine with keyFrame } = .error fault := unread
  simp only [step, fetch, operand_eq]
  rfl

theorem step_of_meets (keyFrame : Bool) {word : Word} (meets : processor.machine.Meets word) :
    processor.step keyFrame = (processor.advance keyFrame).execute word.value.val :=
  step_of_operand keyFrame meets

theorem step_of_outside
    (wellFormed : processor.machine.WellFormed processor.arch processor.dialect) (keyFrame : Bool)
    (outside : processor.arch.memorySize < processor.machine.pc + 2) :
    processor.step keyFrame =
      ⟨processor.stay keyFrame, [], .error (.outOfBounds (processor.machine.pc + 1))⟩ :=
  step_of_unread keyFrame (wellFormed.operand_of_outside outside)

/-- A step fails to fetch a word or executes the word at the program counter. -/
theorem step_cases (wellFormed : processor.machine.WellFormed processor.arch processor.dialect)
    (keyFrame : Bool) :
    (processor.arch.memorySize < processor.machine.pc + 2 ∧
      processor.step keyFrame =
        ⟨processor.stay keyFrame, [], .error (.outOfBounds (processor.machine.pc + 1))⟩) ∨
    ∃ word, processor.machine.Meets word ∧
      Executed (processor.advance keyFrame) word.value.val word (processor.step keyFrame) := by
  by_cases inside : processor.machine.pc + 2 ≤ processor.arch.memorySize
  · right
    obtain ⟨word, meets⟩ := wellFormed.exists_meets inside
    refine ⟨word, meets, ?_⟩
    rw [step_of_meets keyFrame meets]
    exact executed (wellFormed.advance inside keyFrame) word.ofInt?_value
  · have outside : processor.arch.memorySize < processor.machine.pc + 2 := by omega
    exact Or.inl ⟨outside, step_of_outside wellFormed keyFrame outside⟩

/-- A step that meets an instruction succeeds unless the instruction is refused. -/
theorem step_result_of_meets
    (wellFormed : processor.machine.WellFormed processor.arch processor.dialect) (keyFrame : Bool)
    {word : Word} (meets : processor.machine.Meets word) {instruction : Instruction}
    (decoded : word.decode processor.arch = .instruction instruction) :
    (processor.step keyFrame).result =
      match (processor.machine.advance keyFrame).refusal? processor.arch processor.dialect
        instruction with
      | none => .ok ()
      | some fault => .error fault := by
  have advanced := wellFormed.advance (wellFormed.inside_of_meets meets) keyFrame
  have run : Executed (processor.advance keyFrame) word.value.val word
      ((processor.advance keyFrame).execute word.value.val) := executed advanced word.ofInt?_value
  rw [step_of_meets keyFrame meets]
  generalize (processor.advance keyFrame).execute word.value.val = outcome at run
  rcases run with
    ⟨_, _, unknown⟩ | ⟨_, other, fault, decoded', refusal⟩ | ⟨_, other, _, decoded', accepted, -, -⟩
  · exact absurd decoded (unknown instruction)
  · cases decoded.symm.trans decoded'
    rw [show (processor.machine.advance keyFrame).refusal? processor.arch processor.dialect
      instruction = some fault from refusal]
  · cases decoded.symm.trans decoded'
    rw [show (processor.machine.advance keyFrame).refusal? processor.arch processor.dialect
      instruction = none from accepted]

/-- A step that meets an instruction does to the machine what the instruction does. -/
theorem step_machine_of_meets
    (wellFormed : processor.machine.WellFormed processor.arch processor.dialect) (keyFrame : Bool)
    {word : Word} (meets : processor.machine.Meets word) {instruction : Instruction}
    (decoded : word.decode processor.arch = .instruction instruction) :
    (processor.step keyFrame).processor.machine =
      ((processor.machine.advance keyFrame).perform processor.arch processor.dialect
        (processor.roll instruction).1 instruction).1 := by
  have advanced : (processor.advance keyFrame).machine.WellFormed
      (processor.advance keyFrame).arch (processor.advance keyFrame).dialect :=
    wellFormed.advance (wellFormed.inside_of_meets meets) keyFrame
  have rolled : ((processor.advance keyFrame).roll instruction).1 =
      (processor.roll instruction).1 := by cases instruction <;> rfl
  have run : Executed (processor.advance keyFrame) word.value.val word
      ((processor.advance keyFrame).execute word.value.val) := executed advanced word.ofInt?_value
  rw [step_of_meets keyFrame meets, ← rolled]
  generalize (processor.advance keyFrame).execute word.value.val = outcome at run
  rcases run with
    ⟨_, _, unknown⟩ | ⟨_, other, fault, decoded', refusal⟩ |
    ⟨_, other, after, decoded', -, effect, -⟩
  · exact absurd decoded (unknown instruction)
  · cases decoded.symm.trans decoded'
    exact (congrArg Prod.fst (advanced.perform_of_refused refusal)).symm
  · cases decoded.symm.trans decoded'
    exact (congrArg Prod.fst effect).symm

/-- Whether or not a step fails, it leaves a well-formed machine of the same architecture and
dialect. -/
theorem wellFormed_step
    (wellFormed : processor.machine.WellFormed processor.arch processor.dialect)
    (keyFrame : Bool) :
    (processor.step keyFrame).processor.arch = processor.arch ∧
      (processor.step keyFrame).processor.dialect = processor.dialect ∧
      (processor.step keyFrame).processor.machine.WellFormed processor.arch processor.dialect := by
  rcases step_cases wellFormed keyFrame with ⟨-, stayed⟩ | ⟨word, meets, run⟩
  · rw [stayed]
    exact ⟨rfl, rfl, wellFormed.setKeyFrame keyFrame⟩
  · have inside := wellFormed.inside_of_meets meets
    have advanced := wellFormed.advance inside keyFrame
    generalize processor.step keyFrame = outcome at run
    cases run with
    | unread => exact ⟨rfl, rfl, advanced⟩
    | refused => exact ⟨rfl, rfl, advanced⟩
    | performed _ _ _ _ _ _ kept =>
        exact ⟨rfl, rfl, kept (wellFormed.fetched_advance inside keyFrame)⟩

end Processor

end Chip8
