import Chip8.Proofs.Course
import Chip8.Proofs.Events

/-!
# Spinning

No instruction stops the machine, so a program ends by jumping to where it stands.  From then on
every step succeeds and leads back, and a session completes each frame with its usual number of
instructions, as long as the user does not quit.
-/

namespace Chip8

namespace Processor

/-- The processor is about to jump to where it stands. -/
structure Spins (processor : Processor) : Prop where
  /-- The machine. -/
  wellFormed : processor.machine.WellFormed processor.arch processor.dialect
  /-- The jump. -/
  facing : ∃ address : Fin 0x1000, processor.machine.pc = address.val ∧
    processor.facing? = some (.jump address)

variable {processor : Processor}

namespace Spins

/-- A step leaves the machine as it is, but for what it remembers of the last fetch. -/
theorem step (spins : processor.Spins) (keyFrame : Bool) :
    (processor.step keyFrame).result = .ok () ∧ (processor.step keyFrame).processor.Spins ∧
      ∃ nextWide, (processor.step keyFrame).processor.machine =
        { processor.machine with keyFrame, nextWide } := by
  obtain ⟨address, pc, facing⟩ := spins.facing
  obtain ⟨succeeds, after⟩ := step_of_accepted spins.wellFormed keyFrame facing rfl
  obtain ⟨arch, dialect, wellFormed⟩ := wellFormed_step spins.wellFormed keyFrame
  have machine : (processor.step keyFrame).processor.machine =
      { processor.machine with
        keyFrame
        nextWide := startsWide processor.machine.memory (processor.machine.pc + 2) } := by
    rw [after]
    show { processor.machine.advance keyFrame with pc := (address.val : Int) } = _
    rw [← pc]
    rfl
  refine ⟨succeeds, ⟨by rwa [arch, dialect], address, by rw [machine, pc], ?_⟩, _, machine⟩
  rw [facing?, machine, arch]
  exact facing

theorem steps (spins : processor.Spins) (count : Nat) (keyFrame : Bool) (lines : Array String) :
    (processor.steps count keyFrame lines).result = .ok () ∧
      (processor.steps count keyFrame lines).processor.Spins ∧
      ∃ keyFrame' nextWide, (processor.steps count keyFrame lines).processor.machine =
        { processor.machine with keyFrame := keyFrame', nextWide } := by
  induction count generalizing processor keyFrame lines with
  | zero => exact ⟨rfl, spins, _, _, rfl⟩
  | succ count induction =>
      obtain ⟨succeeds, spinning, _, after⟩ := spins.step keyFrame
      rw [Processor.steps, succeeds]
      obtain ⟨ends, still, _, _, machine⟩ :=
        induction spinning false (lines ++ (processor.step keyFrame).lines)
      exact ⟨ends, still, _, _, machine.trans (by rw [after])⟩

theorem tick (spins : processor.Spins) : processor.tick.Spins :=
  ⟨spins.wellFormed.tick, spins.facing⟩

end Spins

end Processor

namespace Session

/-- A session starts with any program that fits into memory. -/
theorem exists_start (arch : Arch) (dialect : Dialect) (live : Bool) (dice : List UInt8)
    {program : Array UInt8} (fits : Machine.programStart + program.size ≤ arch.memorySize)
    (ticks : Int) :
    let machine := Machine.powerOn arch dialect
    ∃ opening, start (.powerOn arch dialect live dice) program ticks = .ok opening ∧
      opening.1.processor = (Processor.powerOn arch dialect live dice).restore
        { machine with memory := machine.memory.patch Machine.programStart program } ∧
      opening.1.processor.machine.WellFormed opening.1.processor.arch
        opening.1.processor.dialect ∧
      opening.1 =
        { opening.1 with
          ticks, saved := none, muted := false, rate := none, pattern := none
          nextFrame := 0, nextReport := 0, frames := 0, instructions := 0 } := by
  intro machine
  have wellFormed := Machine.wellFormed_powerOn arch dialect
  have loads := wellFormed.load_of_fits fits
  rcases started : start (.powerOn arch dialect live dice) program ticks with fault | opening
  · rw [start, Processor.load, Processor.powerOn, loads] at started
    cases started
  · obtain ⟨loaded, load, rfl⟩ := exists_of_start started
    rw [Processor.load, Processor.powerOn, loads] at load
    cases load
    exact ⟨_, rfl, rfl, wellFormed.load loads, rfl⟩

/-- A session of the shortest program that spins. -/
theorem exists_spinning_start (arch : Arch) (dialect : Dialect) (live : Bool) (dice : List UInt8)
    (ticks : Int) :
    ∃ opening, start (.powerOn arch dialect live dice) #[0x12, 0x00] ticks = .ok opening ∧
      opening.1.processor.Spins ∧
      opening.1 =
        { opening.1 with
          ticks, saved := none, muted := false, rate := none, pattern := none
          nextFrame := 0, nextReport := 0, frames := 0, instructions := 0 } := by
  have fits : Machine.programStart + (#[0x12, 0x00] : Array UInt8).size ≤ arch.memorySize := by
    cases arch <;> decide
  obtain ⟨opening, started, processor_eq, wellFormed, fresh⟩ :=
    exists_start arch dialect live dice fits ticks
  refine ⟨opening, started, ⟨wellFormed, 0x200, by rw [processor_eq]; rfl, ?_⟩, fresh⟩
  rw [processor_eq]
  exact @Processor.facing?_of_patch _ _ _ 0 _ ⟨0x1200⟩ _
    (Machine.wellFormed_powerOn arch dialect).memory rfl rfl (by decide) fits rfl rfl

/-- At a finite time, a frame whose requests spare the processor and do not end the session is
completed.  The processor goes on spinning, and the frame tells in nothing but timers and keys. -/
theorem frame_of_spins {session : Session} (spins : session.processor.Spins) {now : Float}
    (finite : now.isInf = false) {input : Input}
    (spares : ∀ opened, (applyAll input.actions opened).result = .ok true ∧
      (applyAll input.actions opened).session.processor = opened.processor) :
    let after := (session.frame now input).session.processor
    (session.frame now input).result = .ok true ∧ after.Spins ∧
      ∃ delay sound beeping keys keyFrame nextWide, after.machine =
        { session.processor.machine with delay, sound, beeping, keys, keyFrame, nextWide } := by
  -- The keys are no part of what makes the processor spin.
  have entered : (session.holdKeys input.held).processor.Spins :=
    ⟨{ spins.wellFormed with }, spins.facing⟩
  obtain ⟨succeeds, spinning, _, _, machine⟩ :=
    entered.steps (session.prepared now input).ticks.toNat true #[]
  obtain ⟨completed, after⟩ := frame_of_steps finite spares succeeds
  refine ⟨completed, after ▸ spinning.tick, ?_⟩
  rw [after, Processor.tick, machine]
  exact ⟨_, _, _, _, _, _, rfl⟩

end Session

end Chip8
