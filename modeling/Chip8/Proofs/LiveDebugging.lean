import Chip8.Proofs.Faults
import Chip8.Proofs.Replay
import Chip8.Proofs.ReportText

/-!
# Live debugging

A processor that announces its instructions does the same as one that does not: what is announced is
made of a state that was there anyway, and nothing looks at it again.  Every instruction that is
carried out is announced, in one line from which the state before the instruction can be read.
-/

namespace Chip8

open Text Digit

/-! ## The same without announcements -/

/-- The processor without live debugging. -/
def Processor.quiet (processor : Processor) : Processor := { processor with live := false }

/-- What becomes of the processor without live debugging. -/
def Outcome.quiet {α : Type} (outcome : Outcome α) : Outcome α :=
  ⟨outcome.processor.quiet, [], outcome.result⟩

/-- What is left of a response without announcements. -/
def Response.quiet (response : Response) : Response := { response with lines := [] }

/-- The bench with a processor without live debugging. -/
def Bench.quiet (bench : Bench) : Bench := { bench with processor := bench.processor.quiet }

namespace Processor

variable {processor : Processor}

theorem execute_quiet (full : processor.machine.v.size = 16) (opcode : Int) :
    processor.quiet.execute opcode = (processor.execute opcode).quiet := by
  -- Announcing never stops the live processor, and the other one has nothing to announce.
  have announce (instruction : Instruction) :=
    exists_announce { processor with opcode } full instruction
  rcases spelled : Word.ofInt? opcode with _ | word
  · simp only [execute, spelled]
    rfl
  · have arch_eq : processor.quiet.arch = processor.arch := rfl
    rcases reading : word.decode processor.arch with instruction | instruction | _
    · obtain ⟨lines, announced⟩ := announce instruction
      simp only [execute, spelled, arch_eq, reading, announced]
      cases instruction <;> rfl
    · obtain ⟨lines, announced⟩ := announce instruction
      simp only [execute, spelled, arch_eq, reading, announced]
      rfl
    · simp only [execute, spelled, arch_eq, reading]
      rfl

/-- Without live debugging, a step does the same in silence. -/
theorem step_quiet (full : processor.machine.v.size = 16) (keyFrame : Bool) :
    processor.quiet.step keyFrame = (processor.step keyFrame).quiet := by
  rcases read : processor.machine.operand with fault | value
  · rw [step_of_unread keyFrame read, @step_of_unread processor.quiet keyFrame fault read]
    rfl
  · rw [step_of_operand keyFrame read, @step_of_operand processor.quiet keyFrame value read]
    exact @execute_quiet (processor.advance keyFrame) full value

end Processor

namespace Bench

variable {arch : Arch} {dialect : Dialect} {bench : Bench}

theorem operate_quiet (full : bench.processor.machine.v.size = 16) (operation : Operation) :
    bench.quiet.operate operation = (bench.operate operation).quiet ∧
      bench.quiet.answer operation = ([], (bench.answer operation).2) := by
  cases operation with
  | load program =>
      simp only [operate, answer, Processor.load, quiet, Processor.quiet]
      rcases bench.processor.machine.load program with fault | machine <;> exact ⟨rfl, rfl⟩
  | step keyFrame =>
      have quieted := Processor.step_quiet full keyFrame
      simp only [operate, answer, quiet, quieted]
      exact ⟨rfl, rfl⟩
  | setKey key held =>
      simp only [operate, answer, Processor.setKey, quiet, Processor.quiet]
      rcases bench.processor.machine.setKey key held with fault | machine <;> exact ⟨rfl, rfl⟩
  | tick | reset | snapshot => exact ⟨rfl, rfl⟩
  | restore number =>
      refine ⟨?_, rfl⟩
      rw [operate, operate, show bench.quiet.kept = bench.kept from rfl]
      rcases bench.kept[number]? with _ | machine <;> rfl

/-- Without live debugging, all operations show the same but announcements. -/
theorem transcript_quiet (inOrder : bench.InOrder arch dialect) (operations : List Operation) :
    bench.quiet.transcript operations = (bench.transcript operations).map Response.quiet := by
  induction operations generalizing bench with
  | nil => rfl
  | cons operation rest induction =>
      obtain ⟨after, answered⟩ := operate_quiet inOrder.machine.v operation
      rw [transcript, transcript, after, answered, induction (inOrder.operate operation)]
      rfl

end Bench

/-! ## Texts of instructions -/

section Mnemonics

variable {arch : Arch} {dialect : Dialect} {machine : Machine}

/-- The text of an instruction is a single line. -/
theorem Instruction.newline_notMem_mnemonic {instruction : Instruction} {text : String}
    (named : instruction.mnemonic? dialect machine = some text) : '\n' ∉ text.toList := by
  have number {width : Nat} {number : Int} : '\n' ∉ (Hex.text width number).toList :=
    Hex.notMem_text (by decide) (by decide)
  have register {x : Digit} : '\n' ∉ x.register.toList := by simp [Digit.register, number]
  cases instruction with
  | skip condition =>
      obtain rfl := Option.some.inj named
      cases condition <;> simp [Condition.mnemonic, two, byteText, register, number]
  | arithmetic operation x y =>
      have name : '\n' ∉ operation.mnemonic.toList := by cases operation <;> decide
      rw [mnemonic?] at named
      split at named <;> obtain rfl := Option.some.inj named <;>
        simp [two, name, register]
  | scroll direction count =>
      cases direction <;> obtain rfl := Option.some.inj named <;> simp [number]
  | resolution high => cases high <;> obtain rfl := Option.some.inj named <;> decide
  | setIndexLong =>
      obtain ⟨index, -, rfl⟩ := Option.map_eq_some_iff.mp named
      simp [two, number]
  | _ =>
      obtain rfl := Option.some.inj named
      simp [two, byteText, addressText, register, number]

/-- An instruction that is carried out has a text, the operand of a long one being there. -/
theorem Instruction.exists_mnemonic (wellFormed : machine.WellFormed arch dialect)
    {instruction : Instruction} (accepted : machine.refusal? arch dialect instruction = none) :
    ∃ text, instruction.mnemonic? dialect machine = some text := by
  cases instruction with
  | setIndexLong =>
      have inside := (Machine.blockFault?_eq_none Nat.two_pos).mp accepted
      obtain ⟨value, -, read⟩ := wellFormed.exists_operand inside
      rw [mnemonic?, read]
      exact ⟨_, rfl⟩
  | arithmetic operation x y =>
      rw [mnemonic?]
      split <;> exact ⟨_, rfl⟩
  | scroll direction count => cases direction <;> exact ⟨_, rfl⟩
  | resolution high => cases high <;> exact ⟨_, rfl⟩
  | _ => exact ⟨_, rfl⟩

end Mnemonics

/-! ## What is announced -/

/-- The instruction that is announced for a word that is read this way. -/
def Decoding.announced? : Decoding → Option Instruction
  | .instruction meaning | .reserved meaning => some meaning
  | .unknown => none

/-- The line shows the machine that is about to execute a word. -/
structure Machine.Announced (machine : Machine) (word : Word) (line : String) : Prop where
  /-- The word stands at the program counter. -/
  meets : machine.Meets word
  /-- The line is one line. -/
  single : '\n' ∉ line.toList
  /-- It is made of the machine, of the address of the word and of the word. -/
  made : ∃ text, line = machine.line machine.pc word.value.val text
  /-- All that is shown can be read from it. -/
  read : ∀ (other : Machine) (address opcode : Int) (text : String), other.v.size = 16 →
    line = other.line address opcode text →
    other.glance address opcode = machine.glance machine.pc word.value.val

namespace Processor

variable {arch : Arch} {dialect : Dialect} {processor : Processor} {word : Word}

theorem announce_of_live (live : processor.live = true) (full : processor.machine.v.size = 16)
    (instruction : Instruction) :
    processor.announce instruction =
      .ok ((instruction.mnemonic? processor.dialect processor.machine).toList.map
        (processor.machine.line processor.fetchedFrom processor.opcode)) := by
  rw [announce, if_pos live]
  rcases instruction.mnemonic? processor.dialect processor.machine with _ | text
  · rfl
  · simp only [Option.toList_some, List.mapM_cons, List.mapM_nil, line,
      Registers.demand_of_full full]
    rfl

theorem lines_execute (live : processor.live = true) (full : processor.machine.v.size = 16)
    {opcode : Int} (spelled : Word.ofInt? opcode = some word) :
    (processor.execute opcode).lines =
      ((word.decode processor.arch).announced?.bind fun instruction =>
        instruction.mnemonic? processor.dialect processor.machine).toList.map
          (processor.machine.line processor.fetchedFrom opcode) := by
  have announced (instruction : Instruction) :=
    @announce_of_live { processor with opcode } live full instruction
  rcases reading : word.decode processor.arch with instruction | instruction | _
  all_goals
    simp only [execute, spelled, reading, announced]
    rfl

/-- What a step announces is made of the machine before the step: moving past a word changes nothing
that a line shows. -/
theorem lines_step_of_meets (live : processor.live = true) (full : processor.machine.v.size = 16)
    (keyFrame : Bool) (meets : processor.machine.Meets word) :
    (processor.step keyFrame).lines =
      ((word.decode processor.arch).announced?.bind fun instruction =>
        instruction.mnemonic? processor.dialect (processor.machine.advance keyFrame)).toList.map
          (processor.machine.line processor.machine.pc word.value.val) := by
  rw [step_of_meets keyFrame meets]
  exact @lines_execute (processor.advance keyFrame) word live full _ word.ofInt?_value

theorem announced_of_mnemonic (full : processor.machine.v.size = 16) {keyFrame : Bool}
    (meets : processor.machine.Meets word) {instruction : Instruction} {text : String}
    (named : instruction.mnemonic? processor.dialect (processor.machine.advance keyFrame) =
      some text) :
    processor.machine.Announced word
      (processor.machine.line processor.machine.pc word.value.val text) where
  meets := meets
  single := Machine.newline_notMem_line (Instruction.newline_notMem_mnemonic named)
  made := ⟨text, rfl⟩
  read := by
    intro other address opcode text' full' same
    have shown := congrArg (fun line : String => line.toList ++ []) same
    exact (Machine.eq_of_line_append full full' shown).1.symm

/-- A step announces nothing, or the word that stands at the program counter. -/
theorem lines_step_cases
    (wellFormed : processor.machine.WellFormed processor.arch processor.dialect)
    (live : processor.live = true) (keyFrame : Bool) :
    (processor.step keyFrame).lines = [] ∨
      ∃ word line, (processor.step keyFrame).lines = [line] ∧
        processor.machine.Announced word line := by
  rcases step_cases wellFormed keyFrame with ⟨-, stayed⟩ | ⟨word, meets, -⟩
  · left
    rw [stayed]
  · rw [lines_step_of_meets live wellFormed.v keyFrame meets]
    rcases texts : (word.decode processor.arch).announced?.bind fun instruction =>
      instruction.mnemonic? processor.dialect (processor.machine.advance keyFrame) with _ | text
    · exact Or.inl rfl
    · obtain ⟨instruction, -, named⟩ := Option.bind_eq_some_iff.mp texts
      exact Or.inr ⟨word, _, rfl, announced_of_mnemonic wellFormed.v meets named⟩

/-- An instruction that is carried out has been announced. -/
theorem lines_step_ne_nil
    (wellFormed : processor.machine.WellFormed processor.arch processor.dialect)
    (live : processor.live = true) {keyFrame : Bool}
    (succeeded : (processor.step keyFrame).result = .ok ()) :
    (processor.step keyFrame).lines ≠ [] := by
  obtain ⟨word, instruction, meets, decoded, accepted⟩ := exists_accepted_of_ok wellFormed succeeded
  have advanced := wellFormed.advance (wellFormed.inside_of_meets meets) keyFrame
  obtain ⟨text, named⟩ := Instruction.exists_mnemonic advanced accepted
  rw [lines_step_of_meets live wellFormed.v keyFrame meets, decoded, Decoding.announced?,
    Option.bind_some, named]
  exact List.cons_ne_nil _ _

end Processor

/-- Live debugging changes nothing but what is announced: whatever is done to a processor, the
machines, results and faults are those of a processor without it.  With it, every step that succeeds
announces one line and a step that fails at most one, and from such a line the registers, the index
and the timers before the step can be read, and the word that is met there and its address. -/
theorem Bench.live_only_announces (arch : Arch) (dialect : Dialect) (dice : List UInt8)
    (operations : List Operation) :
    (start arch dialect false dice).transcript operations =
        ((start arch dialect true dice).transcript operations).map Response.quiet ∧
      ∀ keyFrame,
        let processor := ((start arch dialect true dice).run operations).processor
        let outcome := processor.step keyFrame
        outcome.lines.length ≤ 1 ∧ (outcome.result = .ok () → outcome.lines.length = 1) ∧
          ∀ line ∈ outcome.lines, ∃ word, processor.machine.Announced word line := by
  constructor
  · exact transcript_quiet (inOrder_start arch dialect true dice) operations
  · intro keyFrame processor outcome
    have reachable : processor.Reachable arch dialect := ⟨true, dice, operations, rfl⟩
    obtain ⟨_, _, _, _, setting⟩ := (start arch dialect true dice).sameSetting_run operations
    have live : processor.live = true := by
      rw [show processor = _ from setting]
      rfl
    have wellFormed := reachable.wellFormed_self
    rcases Processor.lines_step_cases wellFormed live keyFrame with none | ⟨word, line, one, shows⟩
    · refine ⟨none ▸ Nat.zero_le 1, fun succeeded => ?_, ?_⟩
      · exact absurd none (Processor.lines_step_ne_nil wellFormed live succeeded)
      · intro line member
        rw [show outcome.lines = [] from none] at member
        cases member
    · rw [show outcome.lines = [line] from one]
      refine ⟨Nat.le_refl 1, fun _ => rfl, fun other member => ?_⟩
      rw [List.mem_singleton.mp member]
      exact ⟨word, shows⟩

end Chip8
