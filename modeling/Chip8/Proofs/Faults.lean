import Chip8.Proofs.History

/-!
# Faults of a running processor

A processor in operation meets few obstacles: a word, an operand or a block of memory that reaches
past the last byte, a word that is no instruction, a call too many and a return too many.  Whichever
it meets, nothing but the fetching has happened by then.
-/

namespace Chip8

namespace Machine

/-- What keeps a machine from taking a step, and the fault by which that shows. -/
inductive Obstacle (arch : Arch) (dialect : Dialect) (machine : Machine) : Fault → Prop
  /-- The word at the program counter reaches past the last byte. -/
  | unfetched (outside : arch.memorySize < machine.pc + 2) :
      Obstacle arch dialect machine (.outOfBounds (machine.pc + 1))
  /-- The architecture does not read the word as an instruction. -/
  | unread {word : Word} (report : CrashReport) (meets : machine.Meets word)
      (unknown : ∀ instruction, word.decode arch ≠ .instruction instruction) :
      Obstacle arch dialect machine (.unsupported report)
  /-- A call finds sixteen return addresses on the stack. -/
  | overflow {word : Word} (meets : machine.Meets word) (call : word.value.val / 0x1000 = 2)
      (full : machine.stack.toList.length = 16) : Obstacle arch dialect machine .stackOverflow
  /-- A return finds none. -/
  | underflow {word : Word} (meets : machine.Meets word) (ret : word.value.val = 0x00EE)
      (empty : machine.stack.toList = []) : Obstacle arch dialect machine .stackUnderflow
  /-- The second word of a long instruction reaches past the last byte. -/
  | operand {word : Word} (meets : machine.Meets word) (long : word.value.val = 0xF000)
      (outside : arch.memorySize < machine.pc + 4) :
      Obstacle arch dialect machine (.outOfBounds (machine.pc + 3))
  /-- The block at I that the instruction needs reaches past the last byte. -/
  | block {word : Word} {instruction : Instruction} (meets : machine.Meets word)
      (decoded : word.decode arch = .instruction instruction)
      (needed : 0 < machine.blockLength arch dialect instruction)
      (outside : arch.memorySize < machine.index + machine.blockLength arch dialect instruction) :
      Obstacle arch dialect machine
        (.outOfBounds (machine.index + machine.blockLength arch dialect instruction - 1))

variable {arch : Arch} {dialect : Dialect} {machine : Machine}

/-- A fetched instruction is refused for an obstacle that was there before the fetch. -/
theorem WellFormed.obstacle_of_refused (wellFormed : machine.WellFormed arch dialect)
    {word : Word} (meets : machine.Meets word) {instruction : Instruction}
    (decoded : word.decode arch = .instruction instruction) {fault : Fault}
    (refused : (machine.advance machine.keyFrame).refusal? arch dialect instruction = some fault) :
    Obstacle arch dialect machine fault := by
  have spelled := (Word.opcode_of_decode decoded).1
  have depth := wellFormed.stack.length_toList
  rcases refusal?_cases refused with
    ⟨rfl, unused, rfl⟩ | ⟨address, rfl, full, rfl⟩ | ⟨rfl, outside, rfl⟩ | ⟨needed, outside, rfl⟩
  · exact .underflow meets spelled (List.length_eq_zero_iff.mp (depth.trans unused))
  · refine .overflow meets ?_ (depth.trans full)
    rw [spelled, Instruction.opcode]
    omega
  · have past : machine.pc + 2 + 1 = machine.pc + 3 := by omega
    rw [advance_pc] at outside ⊢
    rw [past]
    exact .operand meets spelled (by omega)
  · rw [blockLength_advance] at needed outside ⊢
    exact .block meets decoded needed outside

end Machine

namespace Processor

variable {arch : Arch} {dialect : Dialect} {processor : Processor}

/-- A step that fails has met the obstacle that its fault tells of. -/
theorem obstacle_of_step
    (wellFormed : processor.machine.WellFormed processor.arch processor.dialect) {keyFrame : Bool}
    {fault : Fault} (failed : (processor.step keyFrame).result = .error fault) :
    Machine.Obstacle processor.arch processor.dialect { processor.machine with keyFrame }
      fault := by
  rcases step_cases wellFormed keyFrame with ⟨outside, stayed⟩ | ⟨word, meets, run⟩
  · rw [stayed] at failed
    cases failed
    exact .unfetched outside
  · generalize processor.step keyFrame = outcome at run failed
    cases run with
    | unread lines report unknown =>
        cases failed
        exact .unread report meets unknown
    | refused lines instruction fault decoded refusal =>
        cases failed
        exact (wellFormed.setKeyFrame keyFrame).obstacle_of_refused meets decoded refusal
    | performed => cases failed

/-- A step that succeeds has met an instruction that is not refused. -/
theorem exists_accepted_of_ok
    (wellFormed : processor.machine.WellFormed processor.arch processor.dialect) {keyFrame : Bool}
    (succeeded : (processor.step keyFrame).result = .ok ()) :
    ∃ word instruction, processor.machine.Meets word ∧
      word.decode processor.arch = .instruction instruction ∧
      (processor.machine.advance keyFrame).refusal? processor.arch processor.dialect instruction =
        none := by
  rcases step_cases wellFormed keyFrame with ⟨-, stayed⟩ | ⟨word, meets, run⟩
  · rw [stayed] at succeeded
    cases succeeded
  · generalize processor.step keyFrame = outcome at run succeeded
    cases run with
    | unread => cases succeeded
    | refused => cases succeeded
    | performed lines instruction after decoded accepted =>
        exact ⟨word, instruction, meets, decoded, accepted⟩

/-- No step gets past an obstacle. -/
theorem step_ne_ok_of_obstacle
    (wellFormed : processor.machine.WellFormed processor.arch processor.dialect) {keyFrame : Bool}
    {fault : Fault} (obstacle : Machine.Obstacle processor.arch processor.dialect
      { processor.machine with keyFrame } fault) : (processor.step keyFrame).result ≠ .ok () := by
  intro succeeded
  obtain ⟨word, instruction, meets, decoded, accepted⟩ :=
    exists_accepted_of_ok wellFormed succeeded
  have inside := wellFormed.inside_of_meets meets
  have advanced := wellFormed.advance inside keyFrame
  have depth := advanced.stack.length_toList
  cases obstacle with
  | unfetched outside => exact absurd inside (by simpa using outside)
  | unread report meets' unknown =>
      cases meets.unique meets'
      exact unknown instruction decoded
  | overflow meets' call full =>
      cases meets.unique meets'
      cases decoded.symm.trans (Word.decode_of_call call)
      have room := advanced.room_of_accepted accepted
      rw [← depth] at room
      exact absurd full (Nat.ne_of_lt room)
  | underflow meets' ret empty =>
      cases meets.unique meets'
      cases decoded.symm.trans (Word.decode_of_return ret)
      have used := Machine.used_of_accepted accepted
      rw [← depth] at used
      exact absurd (congrArg List.length empty) (Nat.ne_of_gt used)
  | operand meets' long outside =>
      cases meets.unique meets'
      cases Word.eq_setIndexLong_of_decode long decoded
      have fits := (Machine.blockFault?_eq_none Nat.two_pos).mp accepted
      rw [Machine.advance_pc] at fits
      have outside : processor.arch.memorySize < processor.machine.pc + 4 := outside
      omega
  | block meets' decoded' needed outside =>
      cases meets.unique meets'
      cases decoded.symm.trans decoded'
      have fits := Machine.blockFault?_of_accepted accepted
      rw [Machine.blockLength_advance] at fits
      exact absurd outside (Int.not_lt.mpr ((Machine.blockFault?_eq_none needed).mp fits))

/-- A step fails exactly if there is an obstacle, and with the fault of one. -/
theorem Reachable.step_ok_iff_no_obstacle (reachable : processor.Reachable arch dialect)
    (keyFrame : Bool) :
    (∀ fault, (processor.step keyFrame).result = .error fault →
      Machine.Obstacle arch dialect { processor.machine with keyFrame } fault) ∧
    ((processor.step keyFrame).result = .ok () ↔
      ∀ fault, ¬ Machine.Obstacle arch dialect { processor.machine with keyFrame } fault) := by
  have wellFormed := reachable.wellFormed
  obtain rfl := reachable.arch_eq
  obtain rfl := reachable.dialect_eq
  refine ⟨fun fault failed => obstacle_of_step wellFormed failed, ?_, ?_⟩
  · intro succeeded fault obstacle
    exact step_ne_ok_of_obstacle wellFormed obstacle succeeded
  · intro clear
    rcases result : (processor.step keyFrame).result with fault | _
    · exact absurd (obstacle_of_step wellFormed result) (clear fault)
    · rfl

/-- A program that returns right away has its first step judged. -/
theorem step_of_lone_return :
    let processor := ((Bench.start .chip8 (.standard .chip8) false []).run
      [.load #[0x00, 0xEE]]).processor
    processor.Reachable .chip8 (.standard .chip8) ∧
      (∀ fault, (processor.step true).result = .error fault →
        Machine.Obstacle .chip8 (.standard .chip8) { processor.machine with keyFrame := true }
          fault) ∧
      ((processor.step true).result = .ok () ↔
        ∀ fault, ¬ Machine.Obstacle .chip8 (.standard .chip8)
          { processor.machine with keyFrame := true } fault) :=
  have reachable := ⟨false, [], [.load #[0x00, 0xEE]], rfl⟩
  ⟨reachable, Reachable.step_ok_iff_no_obstacle reachable true⟩

/-- A word that is not carried out only leaves its number behind, and a step that fails has done
nothing but fetch. -/
theorem Reachable.nothing_done_of_fault (reachable : processor.Reachable arch dialect) :
    (∀ opcode fault, (processor.execute opcode).result = .error fault →
      (processor.execute opcode).processor = { processor with opcode }) ∧
    ∀ keyFrame fault, (processor.step keyFrame).result = .error fault →
      (arch.memorySize < processor.machine.pc + 2 ∧
        (processor.step keyFrame).processor =
          { processor with
            machine := { processor.machine with keyFrame }
            fetchedFrom := processor.machine.pc }) ∨
      ∃ word, processor.machine.Meets word ∧
        (processor.step keyFrame).processor =
          { processor with
            machine := { processor.machine with
              keyFrame
              pc := processor.machine.pc + 2
              nextWide := startsWide processor.machine.memory (processor.machine.pc + 2) }
            fetchedFrom := processor.machine.pc
            opcode := word.value.val } := by
  have wellFormed := reachable.wellFormed
  obtain rfl := reachable.arch_eq
  obtain rfl := reachable.dialect_eq
  constructor
  · intro opcode fault failed
    rcases spelled : Word.ofInt? opcode with _ | word
    · simp only [execute, spelled]
    · have run := executed wellFormed spelled
      generalize processor.execute opcode = outcome at run failed
      cases run with
      | unread => rfl
      | refused => rfl
      | performed => cases failed
  · intro keyFrame fault failed
    rcases step_cases wellFormed keyFrame with ⟨outside, stayed⟩ | ⟨word, meets, run⟩
    · rw [stayed]
      exact Or.inl ⟨outside, rfl⟩
    · refine Or.inr ⟨word, meets, ?_⟩
      generalize processor.step keyFrame = outcome at run failed
      cases run with
      | unread => rfl
      | refused => rfl
      | performed => cases failed

/-- A return right after switching on fails and only leaves its number behind. -/
theorem nothing_done_by_first_return :
    let processor := powerOn .chip8 (.standard .chip8) false []
    processor.Reachable .chip8 (.standard .chip8) ∧
      (processor.execute 0x00EE).result = .error .stackUnderflow ∧
      (processor.execute 0x00EE).processor = { processor with opcode := 0x00EE } := by
  have reachable := Reachable.powerOn .chip8 (.standard .chip8) false []
  have failed : ((powerOn .chip8 (.standard .chip8) false []).execute 0x00EE).result =
      .error .stackUnderflow := rfl
  exact ⟨reachable, failed, (Reachable.nothing_done_of_fault reachable).1 0x00EE _ failed⟩

end Processor

end Chip8
