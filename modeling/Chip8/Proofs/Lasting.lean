import Chip8.Proofs.History

/-!
# Lasting properties

A property that a machine has after switching on and that nothing done to a well-formed machine
takes away is one of every machine in a history, running or kept.
-/

namespace Chip8

/-- A property that machines have from the start and do not lose. -/
structure Machine.Lasting (arch : Arch) (dialect : Dialect) (property : Machine → Prop) : Prop where
  /-- It holds after switching on. -/
  powerOn : property (powerOn arch dialect)
  /-- It holds after a reset. -/
  reset : ∀ machine : Machine, machine.WellFormed arch dialect → property (machine.reset arch)
  /-- Loading a program keeps it. -/
  load : ∀ (machine : Machine) memory, property machine → property { machine with memory }
  /-- The timers keep it. -/
  tick : ∀ machine : Machine, property machine → property machine.tick
  /-- Keys keep it. -/
  setKey : ∀ (machine : Machine) keys, property machine → property { machine with keys }
  /-- Fetching a word keeps it. -/
  fetch : ∀ (machine : Machine) keyFrame pc nextWide, property machine →
    property { machine with keyFrame, pc, nextWide }
  /-- Every instruction keeps it. -/
  perform : ∀ (machine : Machine) random instruction, machine.WellFormed arch dialect →
    property machine → property (machine.perform arch dialect random instruction).1

/-- The machine at work has the property, and so has every machine that was kept. -/
structure Bench.Has (property : Machine → Prop) (bench : Bench) : Prop where
  /-- The machine at work. -/
  machine : property bench.processor.machine
  /-- The machines that were kept. -/
  kept : ∀ machine ∈ bench.kept, property machine

namespace Machine.Lasting

variable {arch : Arch} {dialect : Dialect} {property : Machine → Prop} {bench : Bench}

theorem executed {processor : Processor} {opcode : Int} {word : Word} {outcome : Outcome Unit}
    (run : Processor.Executed processor opcode word outcome)
    (lasting : Lasting processor.arch processor.dialect property)
    (wellFormed : processor.machine.WellFormed processor.arch processor.dialect)
    (has : property processor.machine) : property outcome.processor.machine := by
  cases run with
  | unread => exact has
  | refused => exact has
  | performed lines instruction after decoded accepted effect =>
      have lasts := lasting.perform _ (processor.roll instruction).1 instruction wellFormed has
      rw [effect] at lasts
      exact lasts

theorem step (lasting : Lasting arch dialect property) (inOrder : bench.InOrder arch dialect)
    (has : property bench.processor.machine) (keyFrame : Bool) :
    property (bench.processor.step keyFrame).processor.machine := by
  obtain ⟨rfl, rfl, wellFormed, -⟩ := inOrder
  rcases Processor.step_cases wellFormed keyFrame with ⟨-, stayed⟩ | ⟨word, meets, run⟩
  · rw [stayed]
    exact lasting.fetch _ keyFrame _ _ has
  · have advanced := wellFormed.advance (wellFormed.inside_of_meets meets) keyFrame
    exact executed run lasting advanced (lasting.fetch _ keyFrame _ _ has)

theorem operate (lasting : Lasting arch dialect property) (inOrder : bench.InOrder arch dialect)
    (has : bench.Has property) (operation : Operation) :
    (bench.operate operation).Has property := by
  cases operation with
  | load program =>
      rw [Bench.operate, Processor.load, Machine.load]
      rcases bench.processor.machine.memory.writeBlock programStart program with fault | memory
      · exact has
      · exact { has with machine := lasting.load _ memory has.machine }
  | step keyFrame => exact { has with machine := lasting.step inOrder has.machine keyFrame }
  | tick => exact { has with machine := lasting.tick _ has.machine }
  | setKey key held =>
      rw [Bench.operate, Processor.setKey, Machine.setKey]
      split
      · exact { has with machine := lasting.setKey _ _ has.machine }
      · exact has
  | reset =>
      rw [Bench.operate, Processor.reset, inOrder.arch_eq]
      exact { has with machine := lasting.reset _ inOrder.machine }
  | snapshot =>
      refine { has with kept := ?_ }
      intro machine member
      rw [Bench.operate, List.mem_append, List.mem_singleton] at member
      rcases member with before | rfl
      · exact has.kept machine before
      · exact has.machine
  | restore number =>
      rw [Bench.operate]
      rcases found : bench.kept[number]? with _ | machine
      · exact has
      · exact { has with machine := has.kept machine (List.mem_of_getElem? found) }

theorem run (lasting : Lasting arch dialect property) (inOrder : bench.InOrder arch dialect)
    (has : bench.Has property) (operations : List Operation) :
    (bench.run operations).Has property := by
  induction operations generalizing bench with
  | nil => exact has
  | cons operation rest induction =>
      exact induction (inOrder.operate operation) (lasting.operate inOrder has operation)

/-- Every machine in a history has the property. -/
theorem history (lasting : Lasting arch dialect property) (live : Bool) (dice : List UInt8)
    (operations : List Operation) :
    ((Bench.start arch dialect live dice).run operations).Has property :=
  lasting.run (Bench.inOrder_start arch dialect live dice)
    ⟨lasting.powerOn, List.forall_mem_nil _⟩ operations

end Machine.Lasting

end Chip8
