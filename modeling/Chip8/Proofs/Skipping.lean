import Chip8.Proofs.Events
import Chip8.Proofs.Spelling

/-!
# Where skips land

A skip leads behind the next instruction or behind the one after it, and an instruction that starts
with a long word is two words long.  Where it leads can be told from the memory, the registers and
the keys at that step; what an earlier step has seen ahead of it plays no part.
-/

namespace Chip8

namespace Condition

/-- The condition holds, as registers and keys tell. -/
def Met (v : Registers) (keys : Vector Bool 16) : Condition → Prop
  | .byteEqual x byte => v.read x = byte
  | .byteUnequal x byte => v.read x ≠ byte
  | .equal x y => v.read x = v.read y
  | .unequal x y => v.read x ≠ v.read y
  | .held x => keys.get (Fin.ofNat 16 (v.read x).toNat) = true
  | .released x => keys.get (Fin.ofNat 16 (v.read x).toNat) = false

instance (v : Registers) (keys : Vector Bool 16) (condition : Condition) :
    Decidable (condition.Met v keys) :=
  match condition with
  | .byteEqual _ _ | .equal _ _ | .held _ | .released _ => inferInstanceAs (Decidable (_ = _))
  | .byteUnequal _ _ | .unequal _ _ => inferInstanceAs (Decidable (_ ≠ _))

/-- Where a skip at an address leads. -/
def landing (memory : Memory) (v : Registers) (keys : Vector Bool 16) (address : Int)
    (condition : Condition) : Int :=
  if condition.Met v keys then
    if memory.word? (address + 2) = some 0xF000 then address + 6 else address + 4
  else
    address + 2

theorem holds_eq_true_iff (machine : Machine) (condition : Condition) :
    condition.holds machine = true ↔ condition.Met machine.v machine.keys := by
  cases condition <;> simp [holds, Met]

end Condition

namespace Machine

variable {arch : Arch} {dialect : Dialect} {machine : Machine}

/-- A skip that has just been fetched moves nothing but the program counter. -/
theorem WellFormed.perform_skip (wellFormed : machine.WellFormed arch dialect) (keyFrame : Bool)
    (random : UInt8) (condition : Condition) :
    (machine.advance keyFrame).perform arch dialect random (.skip condition) =
      ({ machine.advance keyFrame with
          pc := condition.landing machine.memory machine.v machine.keys machine.pc }, .ok ()) := by
  have wide : (machine.advance keyFrame).nextWide = true ↔
    machine.memory.word? (machine.pc + 2) = some 0xF000 := wellFormed.startsWide_ahead_iff
  have holds : condition.holds (machine.advance keyFrame) = true ↔
      condition.Met machine.v machine.keys := condition.holds_eq_true_iff _
  rw [perform, Condition.landing, done]
  by_cases met : condition.Met machine.v machine.keys
  · rw [if_pos (holds.mpr met), if_pos met, Machine.skipNext, advance_pc]
    by_cases long : machine.memory.word? (machine.pc + 2) = some 0xF000
    · rw [if_pos (wide.mpr long), if_pos long, Int.add_assoc]
      rfl
    · rw [if_neg (wide.not.mpr long), if_neg long, Int.add_assoc]
      rfl
  · rw [if_neg (holds.not.mpr met), if_neg met]
    rfl

end Machine

namespace Processor

variable {arch : Arch} {dialect : Dialect} {processor : Processor}

/-- What a step has fetched, it has fetched from where the program counter was. -/
theorem fetchedFrom_step
    (wellFormed : processor.machine.WellFormed processor.arch processor.dialect)
    (keyFrame : Bool) :
    (processor.step keyFrame).processor.fetchedFrom = processor.machine.pc := by
  rcases step_cases wellFormed keyFrame with ⟨-, stayed⟩ | ⟨word, -, run⟩
  · rw [stayed]
    rfl
  · generalize processor.step keyFrame = outcome at run
    cases run <;> rfl

/-- A step that reads a word does not care what the step before it has seen ahead. -/
theorem step_restore_nextWide (keyFrame nextWide : Bool) {word : Word}
    (meets : processor.machine.Meets word) :
    (processor.restore { processor.machine with nextWide }).step keyFrame =
      processor.step keyFrame := by
  rw [step_of_meets keyFrame meets]
  exact @step_of_meets (processor.restore { processor.machine with nextWide }) keyFrame word meets

/-- A skip lands on the next instruction if its condition fails, and behind the next instruction if
it holds; that one takes four bytes if its first word, which has to lie in memory, is F000.  Nothing
but the memory, the registers and the keys decides this.  Whatever happens before the next step,
that step goes on there, so that the second word of a long instruction is not taken for one. -/
theorem Reachable.skip_lands (reachable : processor.Reachable arch dialect) {condition : Condition}
    (spelled : processor.machine.memory.word? processor.machine.pc = some condition.opcode)
    (keyFrame : Bool) :
    let machine := processor.machine
    let target := condition.landing machine.memory machine.v machine.keys machine.pc
    let skipped := processor.step keyFrame
    skipped.result = .ok () ∧
      (∃ nextWide, skipped.processor.machine = { machine with keyFrame, pc := target, nextWide }) ∧
      (∀ nextWide, (processor.restore { machine with nextWide }).step keyFrame = skipped) ∧
      ∀ events, (∀ event ∈ events, ¬ event.IsStep) → ∀ keyFrame',
        let next := (skipped.processor.play events).step keyFrame'
        next.processor.fetchedFrom = target ∧
          (condition.Met machine.v machine.keys →
            machine.memory.word? (machine.pc + 2) = some 0xF000 →
            next.processor.fetchedFrom ≠ machine.pc + 4) := by
  intro machine target skipped
  have wellFormed := reachable.wellFormed
  obtain ⟨word, value_eq, meets⟩ := wellFormed.exists_meets_of_word? spelled
  have decoded : word.decode processor.arch = .instruction (.skip condition) :=
    Word.decode_of_condition value_eq
  have later (events : List Event) : ((skipped.processor.play events).Reachable arch dialect) :=
    (reachable.happen (.step keyFrame)).play events
  obtain rfl := reachable.arch_eq
  obtain rfl := reachable.dialect_eq
  have machine_eq := step_machine_of_meets wellFormed keyFrame meets decoded
  rw [wellFormed.perform_skip] at machine_eq
  refine ⟨step_result_of_meets wellFormed keyFrame meets decoded, ⟨_, machine_eq⟩,
    fun nextWide => step_restore_nextWide keyFrame nextWide meets, ?_⟩
  intro events idle keyFrame' next
  have landed : next.processor.fetchedFrom = target := by
    have resumed := (later events).wellFormed_self
    obtain ⟨_, _, _, _, played⟩ := @exists_play_eq skipped.processor events idle
    rw [fetchedFrom_step resumed keyFrame', played, machine_eq]
  refine ⟨landed, fun met long => ?_⟩
  rw [landed, show target = machine.pc + 6 by
    rw [show target = Condition.landing _ _ _ _ _ from rfl, Condition.landing, if_pos met,
      if_pos long]]
  omega

/-- A skip over a long jump of the index, with a tick before the next step. -/
theorem Reachable.skip_lands_behind_long :
    let processor := ((Bench.start .xoChip (.standard .xoChip) false []).run
      [.load #[0x30, 0x00, 0xF0, 0x00, 0x12, 0x34]]).processor
    processor.Reachable .xoChip (.standard .xoChip) ∧
      processor.machine.memory.word? processor.machine.pc = some 0x3000 ∧
      (processor.step true).result = .ok () ∧
      (processor.step true).processor.machine.pc = 0x206 ∧
      (((processor.step true).processor.play [.tick]).step false).processor.fetchedFrom =
        0x206 := by
  have fits : Machine.programStart +
    (#[0x30, 0x00, 0xF0, 0x00, 0x12, 0x34] : Array UInt8).size ≤ Arch.xoChip.memorySize := by decide
  have reachable : ((Bench.start .xoChip (.standard .xoChip) false []).run
      [.load #[0x30, 0x00, 0xF0, 0x00, 0x12, 0x34]]).processor.Reachable .xoChip
        (.standard .xoChip) := ⟨false, [], _, rfl⟩
  rw [Bench.processor_run_load .xoChip (.standard .xoChip) false [] fits] at reachable ⊢
  intro processor
  have sized := (Machine.wellFormed_powerOn .xoChip (.standard .xoChip)).memory
  have first : processor.machine.memory.word? processor.machine.pc =
      some (Condition.byteEqual 0 0).opcode :=
    @Memory.word?_patch _ _ sized _ 0 _ (by decide) fits
  have long : processor.machine.memory.word? (processor.machine.pc + 2) = some 0xF000 :=
    @Memory.word?_patch _ _ sized _ 2 _ (by decide) fits
  have target : (Condition.byteEqual 0 0).landing processor.machine.memory processor.machine.v
      processor.machine.keys processor.machine.pc = 0x206 := by
    have met : (Condition.byteEqual 0 0).Met processor.machine.v processor.machine.keys := rfl
    rw [Condition.landing, if_pos met, if_pos long]
    rfl
  obtain ⟨result, ⟨nextWide, machine_eq⟩, -, later⟩ :=
    @skip_lands _ _ processor reachable (.byteEqual 0 0) first true
  have skipped := congrArg Machine.pc machine_eq
  have resumed := (later [.tick] (by simp [Event.IsStep]) false).1
  rw [target] at skipped
  rw [target] at resumed
  exact ⟨reachable, first, result, skipped, resumed⟩

end Processor

end Chip8
