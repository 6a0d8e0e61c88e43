import Chip8.Proofs.History

/-!
# Events

While a program runs, a processor takes steps, its timers are ticked and its keys are moved.  A step
is told by the instruction at the program counter: either the instruction is carried out on the
machine that has moved past it, or nothing but the fetching happens.
-/

namespace Chip8

theorem Word.value_of_ofInt? {number : Nat} {word : Word} (spelled : ofInt? number = some word) :
    word.value.val = number := by
  rw [ofInt?] at spelled
  split at spelled <;> cases spelled
  exact Int.toNat_natCast number

/-- The instruction that a word was decoded to. -/
def Decoding.instruction? : Decoding → Option Instruction
  | .instruction meaning => some meaning
  | .reserved _ | .unknown => none

theorem Decoding.instruction?_eq_some_iff {decoding : Decoding} {meaning : Instruction} :
    decoding.instruction? = some meaning ↔ decoding = .instruction meaning := by
  cases decoding <;> simp [instruction?]

namespace Machine

/-- The word at the program counter, if there is one. -/
def facedWord? (machine : Machine) : Option Word :=
  machine.operand.toOption.bind fun value => Word.ofInt? value

/-- The instruction at the program counter, if the architecture reads one there. -/
def facing? (arch : Arch) (machine : Machine) : Option Instruction :=
  machine.facedWord?.bind fun word => (word.decode arch).instruction?

variable {arch : Arch} {machine : Machine} {instruction : Instruction}

theorem facedWord?_eq_some_iff {word : Word} :
    machine.facedWord? = some word ↔ machine.Meets word := by
  rw [facedWord?, Option.bind_eq_some_iff, Meets]
  rcases machine.operand with fault | value
  · refine iff_of_false (by simp [Except.toOption]) ?_
    intro read
    cases read
  · constructor
    · rintro ⟨_, ⟨⟩, spelled⟩
      rw [Word.value_of_ofInt? spelled]
    · intro read
      cases read
      exact ⟨_, rfl, word.ofInt?_value⟩

/-- An instruction stands at the program counter exactly if a word does that is decoded to it. -/
theorem facing?_eq_some_iff :
    machine.facing? arch = some instruction ↔
      ∃ word, machine.Meets word ∧ word.decode arch = .instruction instruction := by
  simp only [facing?, Option.bind_eq_some_iff, facedWord?_eq_some_iff,
    Decoding.instruction?_eq_some_iff]

end Machine

/-- What may happen to a processor while its program runs. -/
inductive Event where
  /-- An instruction is executed. -/
  | step (keyFrame : Bool)
  /-- The timers count down. -/
  | tick
  /-- A key is pressed or released. -/
  | setKey (key : Int) (held : Bool)
deriving DecidableEq, Repr

namespace Event

/-- The event among all that may be done to a processor. -/
def operation : Event → Operation
  | .step keyFrame => .step keyFrame
  | .tick => .tick
  | .setKey key held => .setKey key held

/-- An instruction is executed. -/
def IsStep : Event → Prop
  | .step _ => True
  | .tick | .setKey _ _ => False

end Event

namespace Processor

/-- The instruction at the program counter, if the processor reads one there. -/
def facing? (processor : Processor) : Option Instruction :=
  processor.machine.facing? processor.arch

/-- What an event amounts to. -/
def happen (processor : Processor) : Event → Outcome Unit
  | .step keyFrame => processor.step keyFrame
  | .tick => ⟨processor.tick, [], .ok ()⟩
  | .setKey key held =>
      match processor.setKey key held with
      | .ok after => ⟨after, [], .ok ()⟩
      | .error fault => ⟨processor, [], .error fault⟩

/-- The processor after events, one after the other. -/
def play (processor : Processor) (events : List Event) : Processor :=
  events.foldl (fun processor event => (processor.happen event).processor) processor

variable {arch : Arch} {dialect : Dialect} {processor : Processor}

theorem play_cons (processor : Processor) (event : Event) (rest : List Event) :
    processor.play (event :: rest) = (processor.happen event).processor.play rest := rfl

theorem play_append (processor : Processor) (first second : List Event) :
    processor.play (first ++ second) = (processor.play first).play second := by
  rw [play, List.foldl_append]
  rfl

theorem play_concat (processor : Processor) (events : List Event) (last : Event) :
    processor.play (events ++ [last]) = ((processor.play events).happen last).processor :=
  processor.play_append events [last]

/-- Between steps only timers, buzzer and keys change. -/
theorem exists_happen_eq {event : Event} (idle : ¬ event.IsStep) :
    ∃ delay sound beeping keys, (processor.happen event).processor =
      { processor with machine := { processor.machine with delay, sound, beeping, keys } } := by
  cases event with
  | step keyFrame => exact absurd trivial idle
  | tick => exact ⟨_, _, _, _, rfl⟩
  | setKey key held =>
      by_cases exists_key : 0 ≤ key ∧ key < 16
      · simp only [happen, setKey, Machine.setKey, dif_pos exists_key]
        exact ⟨_, _, _, _, rfl⟩
      · simp only [happen, setKey, Machine.setKey, dif_neg exists_key]
        exact ⟨_, _, _, _, rfl⟩

theorem exists_play_eq {events : List Event} (idle : ∀ event ∈ events, ¬ event.IsStep) :
    ∃ delay sound beeping keys, processor.play events =
      { processor with machine := { processor.machine with delay, sound, beeping, keys } } := by
  induction events generalizing processor with
  | nil => exact ⟨_, _, _, _, rfl⟩
  | cons event rest induction =>
      obtain ⟨first, others⟩ := List.forall_mem_cons.mp idle
      obtain ⟨_, _, _, _, after⟩ := exists_happen_eq first
      obtain ⟨delay, sound, beeping, keys, played⟩ := induction others
      exact ⟨delay, sound, beeping, keys, by rw [play_cons, played, after]⟩

/-! ## Reachable processors -/

theorem processor_operate (bench : Bench) (event : Event) :
    (bench.operate event.operation).processor = (bench.processor.happen event).processor := by
  cases event with
  | step keyFrame => rfl
  | tick => rfl
  | setKey key held =>
      simp only [Event.operation, Bench.operate, happen]
      rcases bench.processor.setKey key held with fault | after <;> rfl

namespace Reachable

theorem operate (operation : Operation) {live : Bool} {dice : List UInt8}
    {operations : List Operation} {bench : Bench}
    (ran : (Bench.start arch dialect live dice).run operations = bench) :
    (bench.operate operation).processor.Reachable arch dialect := by
  refine ⟨live, dice, operations ++ [operation], ?_⟩
  rw [Bench.run, List.foldl_append, ← ran]
  rfl

theorem happen (reachable : processor.Reachable arch dialect) (event : Event) :
    (processor.happen event).processor.Reachable arch dialect := by
  obtain ⟨live, dice, operations, rfl⟩ := reachable
  rw [← processor_operate]
  exact operate event.operation rfl

theorem play (reachable : processor.Reachable arch dialect) (events : List Event) :
    (processor.play events).Reachable arch dialect := by
  induction events generalizing processor with
  | nil => exact reachable
  | cons event rest induction => exact induction (reachable.happen event)

end Reachable

/-! ## Steps told by the instruction at the program counter -/

/-- A step that is not carried out only fetches. -/
theorem step_cases_facing
    (wellFormed : processor.machine.WellFormed processor.arch processor.dialect)
    (keyFrame : Bool) :
    (∃ fault pc nextWide, (processor.step keyFrame).result = .error fault ∧
      (processor.step keyFrame).processor.machine =
        { processor.machine with keyFrame, pc, nextWide }) ∨
    ∃ instruction, processor.facing? = some instruction ∧
      (processor.machine.advance keyFrame).refusal? processor.arch processor.dialect instruction =
        none ∧
      (processor.step keyFrame).result = .ok () ∧
      (processor.step keyFrame).processor.machine =
        ((processor.machine.advance keyFrame).perform processor.arch processor.dialect
          (processor.roll instruction).1 instruction).1 := by
  rcases step_cases wellFormed keyFrame with ⟨-, stayed⟩ | ⟨word, meets, run⟩
  · rw [stayed]
    exact Or.inl ⟨_, _, _, rfl, rfl⟩
  · have machine {instruction : Instruction}
        (decoded : word.decode processor.arch = .instruction instruction) :=
      step_machine_of_meets wellFormed keyFrame meets decoded
    generalize processor.step keyFrame = outcome at run machine
    cases run with
    | unread => exact Or.inl ⟨_, _, _, rfl, rfl⟩
    | refused => exact Or.inl ⟨_, _, _, rfl, rfl⟩
    | performed lines instruction after decoded accepted =>
        have facing := Machine.facing?_eq_some_iff.mpr ⟨word, meets, decoded⟩
        exact Or.inr ⟨instruction, facing, accepted, rfl, machine decoded⟩

/-- A step is carried out unless the instruction is refused. -/
theorem step_of_accepted
    (wellFormed : processor.machine.WellFormed processor.arch processor.dialect)
    (keyFrame : Bool) {instruction : Instruction} (facing : processor.facing? = some instruction)
    (accepted : (processor.machine.advance keyFrame).refusal? processor.arch processor.dialect
      instruction = none) :
    (processor.step keyFrame).result = .ok () ∧
      (processor.step keyFrame).processor.machine =
        ((processor.machine.advance keyFrame).perform processor.arch processor.dialect
          (processor.roll instruction).1 instruction).1 := by
  obtain ⟨word, meets, decoded⟩ := Machine.facing?_eq_some_iff.mp facing
  refine ⟨?_, step_machine_of_meets wellFormed keyFrame meets decoded⟩
  rw [step_result_of_meets wellFormed keyFrame meets decoded, accepted]

/-- A step that is refused leaves the machine behind the instruction. -/
theorem step_of_refused
    (wellFormed : processor.machine.WellFormed processor.arch processor.dialect)
    (keyFrame : Bool) {instruction : Instruction} (facing : processor.facing? = some instruction)
    {fault : Fault}
    (refused : (processor.machine.advance keyFrame).refusal? processor.arch processor.dialect
      instruction = some fault) :
    (processor.step keyFrame).result = .error fault ∧
      (processor.step keyFrame).processor.machine = processor.machine.advance keyFrame := by
  obtain ⟨word, meets, decoded⟩ := Machine.facing?_eq_some_iff.mp facing
  have advanced := wellFormed.advance (wellFormed.inside_of_meets meets) keyFrame
  constructor
  · rw [step_result_of_meets wellFormed keyFrame meets decoded, refused]
  · rw [step_machine_of_meets wellFormed keyFrame meets decoded,
      advanced.perform_of_refused refused]

end Processor

/-! ## Loading right after switching on -/

/-- The processor that has just been switched on and loaded. -/
theorem Bench.processor_run_load (arch : Arch) (dialect : Dialect) (live : Bool)
    (dice : List UInt8) {program : Array UInt8}
    (fits : Machine.programStart + program.size ≤ arch.memorySize) :
    ((start arch dialect live dice).run [.load program]).processor =
      (Processor.powerOn arch dialect live dice).restore
        { Machine.powerOn arch dialect with
          memory := (Machine.powerOn arch dialect).memory.patch Machine.programStart program } := by
  have loaded := (Machine.wellFormed_powerOn arch dialect).load_of_fits fits
  simp only [run, List.foldl_cons, List.foldl_nil, operate, Processor.load, start,
    Processor.powerOn, loaded]
  rfl

/-- The instruction that a loaded program has at the program counter. -/
theorem Processor.facing?_of_patch {processor : Processor} {memory : Memory} {size offset : Nat}
    {program : Array UInt8} {word : Word} {instruction : Instruction} (sized : memory.Sized size)
    (loaded : processor.machine.memory = memory.patch Machine.programStart program)
    (pc : processor.machine.pc = (Machine.programStart + offset : Nat))
    (two : offset + 2 ≤ program.size) (fits : Machine.programStart + program.size ≤ size)
    (spelled : Memory.bigEndian (program.extract offset (offset + 2)) = word.value)
    (decoded : word.decode processor.arch = .instruction instruction) :
    processor.facing? = some instruction :=
  Machine.facing?_eq_some_iff.mpr
    ⟨word, Machine.meets_of_patch sized loaded pc two fits spelled, decoded⟩

end Chip8
