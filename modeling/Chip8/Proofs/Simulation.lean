import Chip8.Proofs.LowResolution
import Chip8.Proofs.Replay
import Chip8.Proofs.SpriteDrawing

/-!
# XO-CHIP simulates CHIP-8

Two processors whose machines mirror each other stay so, step by step, as long as the small one
takes its steps without a fault, stays away from the end of its memory, lets no address sum wrap and
draws no tall sprite.
-/

namespace Chip8

namespace Word

/-- The word asks for a sprite of zero rows, which later architectures draw tall. -/
def Tall (word : Word) : Prop := word.value.val / 0x1000 = 0xD ∧ word.value.val % 0x10 = 0

instance (word : Word) : Decidable word.Tall := inferInstanceAs (Decidable (_ ∧ _))

theorem draw_ne_of_not_tall {arch : Arch} {word : Word} (short : ¬ word.Tall)
    {instruction : Instruction} (decoded : word.decode arch = .instruction instruction)
    (x y : Digit) : instruction ≠ .draw x y 0 := by
  rintro rfl
  have spelled := (opcode_of_decode decoded).1
  apply short
  simp only [Tall, spelled, Instruction.opcode]
  constructor
  · omega
  · simp
    omega

end Word

namespace Processor

open Machine

variable {dialect : Dialect} {small large : Processor}

/-- The two processors are about to take the same step with mirrored machines. -/
structure Mirrored (dialect : Dialect) (small large : Processor) : Prop where
  /-- The small processor is one of CHIP-8. -/
  small_arch : small.arch = .chip8
  /-- The large processor is one of XO-CHIP. -/
  large_arch : large.arch = .xoChip
  /-- Dialect of the small processor. -/
  small_dialect : small.dialect = dialect
  /-- The large processor shares it. -/
  large_dialect : large.dialect = dialect
  /-- The next random byte is the same. -/
  dice : large.dice.headD 0 = small.dice.headD 0
  /-- The machines mirror each other. -/
  machine : Machine.Mirrored dialect small.machine large.machine

namespace Mirrored

theorem roll_eq (mirrored : Mirrored dialect small large) (instruction : Instruction) :
    (large.roll instruction).1 = (small.roll instruction).1 := by
  cases instruction with
  | random x mask => exact mirrored.dice
  | _ => rfl

/-- A word that the small processor carries out, the large one carries out as well. -/
theorem executed (mirrored : Mirrored dialect small large)
    (keyFrame : large.machine.keyFrame = small.machine.keyFrame)
    (nextWide : large.machine.nextWide = small.machine.nextWide)
    (small_fetched : small.machine.Fetched .chip8) (large_fetched : large.machine.Fetched .xoChip)
    {word : Word} (short : ¬ word.Tall)
    (sum : ∀ instruction, word.decode .chip8 = .instruction instruction →
      small.machine.addressSum dialect instruction ≤ 0xFFF)
    {opcode : Int} {small_outcome large_outcome : Outcome Unit}
    (small_run : Executed small opcode word small_outcome)
    (large_run : Executed large opcode word large_outcome)
    (succeeded : small_outcome.result = .ok ()) :
    large_outcome.result = .ok () ∧
      Machine.Mirrored dialect small_outcome.processor.machine
        large_outcome.processor.machine := by
  have roll_eq := mirrored.roll_eq
  obtain ⟨small_arch, large_arch, small_dialect, large_dialect, dice, machine⟩ := mirrored
  rcases small_run with _ | _ | ⟨_, instruction, small_after, decoded, accepted, effect, kept⟩
  · cases succeeded
  · cases succeeded
  · rw [small_arch] at decoded accepted effect kept
    rw [small_dialect] at accepted effect kept
    have large_decoded : word.decode large.arch = .instruction instruction := by
      rw [large_arch]
      exact Word.decode_of_includes (by decide) decoded
    have draws := Word.draw_ne_of_not_tall short decoded
    have large_accepted : large.machine.refusal? large.arch large.dialect instruction = none := by
      rw [large_arch, large_dialect]
      exact machine.refusal?_eq_none keyFrame draws accepted
    rcases large_run with
      ⟨_, _, unknown⟩ | ⟨_, other, fault, decoded', refused⟩ |
      ⟨_, other, large_after, decoded', -, large_effect, large_kept⟩
    · exact absurd large_decoded (unknown instruction)
    · rw [large_decoded] at decoded'
      cases decoded'
      rw [large_accepted] at refused
      cases refused
    · rw [large_decoded] at decoded'
      cases decoded'
      rw [large_arch, large_dialect] at large_kept
      rw [large_arch, large_dialect, roll_eq] at large_effect
      have agrees := machine.agrees_perform keyFrame nextWide (Word.decode_supported decoded)
        accepted draws (sum instruction decoded) (small.roll instruction).1
      rw [effect, large_effect] at agrees
      exact ⟨rfl, kept small_fetched, large_kept large_fetched, agrees⟩

theorem step (mirrored : Mirrored dialect small large) (keyFrame : Bool)
    (low : small.machine.pc ≤ 0xFFC) {word : Word} (meets : small.machine.Meets word)
    (short : ¬ word.Tall)
    (sum : ∀ instruction, word.decode .chip8 = .instruction instruction →
      small.machine.addressSum dialect instruction ≤ 0xFFF)
    (succeeded : (small.step keyFrame).result = .ok ()) :
    (large.step keyFrame).result = .ok () ∧
      Machine.Mirrored dialect (small.step keyFrame).processor.machine
        (large.step keyFrame).processor.machine := by
  have machine := mirrored.machine
  have small_inside : small.machine.pc + 2 ≤ Arch.chip8.memorySize :=
    machine.small_wellFormed.inside_of_meets meets
  have large_meets := machine.meets low meets
  have large_inside : large.machine.pc + 2 ≤ Arch.xoChip.memorySize :=
    machine.large_wellFormed.inside_of_meets large_meets
  obtain ⟨advanced, nextWide⟩ := machine.advance low keyFrame
  have still : Mirrored dialect (small.advance keyFrame) (large.advance keyFrame) :=
    { mirrored with machine := advanced }
  have small_wellFormed : (small.advance keyFrame).machine.WellFormed
      (small.advance keyFrame).arch (small.advance keyFrame).dialect := by
    rw [still.small_arch, still.small_dialect]
    exact advanced.small_wellFormed
  have large_wellFormed : (large.advance keyFrame).machine.WellFormed
      (large.advance keyFrame).arch (large.advance keyFrame).dialect := by
    rw [still.large_arch, still.large_dialect]
    exact advanced.large_wellFormed
  have sums : ∀ instruction, word.decode .chip8 = .instruction instruction →
      (small.advance keyFrame).machine.addressSum dialect instruction ≤ 0xFFF := by
    intro instruction decoded
    have bound := sum instruction decoded
    cases instruction <;> exact bound
  rw [step_of_meets keyFrame meets] at succeeded ⊢
  rw [step_of_meets keyFrame large_meets]
  exact still.executed rfl nextWide
    (machine.small_wellFormed.fetched_advance small_inside keyFrame)
    (machine.large_wellFormed.fetched_advance large_inside keyFrame) short sums
    (Processor.executed small_wellFormed word.ofInt?_value)
    (Processor.executed large_wellFormed word.ofInt?_value) succeeded

end Mirrored

/-! ## Processors without random bytes -/

theorem dice_step_of_nil {processor : Processor}
    (wellFormed : processor.machine.WellFormed processor.arch processor.dialect) (keyFrame : Bool)
    (empty : processor.dice = []) : (processor.step keyFrame).processor.dice = [] := by
  rcases step_cases wellFormed keyFrame with ⟨-, stayed⟩ | ⟨word, -, run⟩
  · rw [stayed]
    exact empty
  · have taken (instruction : Instruction) :
        ((processor.advance keyFrame).roll instruction).2 = [] := by
      cases instruction with
      | random x mask => exact congrArg List.tail empty
      | _ => exact empty
    generalize processor.step keyFrame = outcome at run
    cases run with
    | unread => exact empty
    | refused => exact empty
    | performed lines instruction => exact taken instruction

/-- With no random bytes to come, the next ones stay the same, so mirrored machines are enough to go
on from. -/
theorem Mirrored.after_step (mirrored : Mirrored dialect small large) (keyFrame : Bool)
    (small_empty : small.dice = []) (large_empty : large.dice = [])
    (machine : Machine.Mirrored dialect (small.step keyFrame).processor.machine
      (large.step keyFrame).processor.machine) :
    Mirrored dialect (small.step keyFrame).processor (large.step keyFrame).processor := by
  have small_wellFormed : small.machine.WellFormed small.arch small.dialect := by
    rw [mirrored.small_arch, mirrored.small_dialect]
    exact mirrored.machine.small_wellFormed
  have large_wellFormed : large.machine.WellFormed large.arch large.dialect := by
    rw [mirrored.large_arch, mirrored.large_dialect]
    exact mirrored.machine.large_wellFormed
  obtain ⟨_, _, _, _, small_eq⟩ := sameSetting_step small keyFrame
  obtain ⟨_, _, _, _, large_eq⟩ := sameSetting_step large keyFrame
  exact
    { small_arch := (congrArg Processor.arch small_eq).trans mirrored.small_arch
      large_arch := (congrArg Processor.arch large_eq).trans mirrored.large_arch
      small_dialect := (congrArg Processor.dialect small_eq).trans mirrored.small_dialect
      large_dialect := (congrArg Processor.dialect large_eq).trans mirrored.large_dialect
      dice := by
        rw [dice_step_of_nil small_wellFormed keyFrame small_empty,
          dice_step_of_nil large_wellFormed keyFrame large_empty]
      machine }

end Processor

/-- An XO-CHIP machine simulates a CHIP-8 machine: the two mirror each other when they are switched
on and loaded, and stay so when timers are ticked, keys are moved and instructions are executed. -/
theorem xoChip_simulates_chip8 (dialect : Dialect) :
    (∀ program : Array UInt8, program.size ≤ 0xE00 →
      ∃ small large, (Machine.powerOn .chip8 dialect).load program = .ok small ∧
        (Machine.powerOn .xoChip dialect).load program = .ok large ∧
        Machine.Mirrored dialect small large) ∧
    (∀ small large, Machine.Mirrored dialect small large →
      Machine.Mirrored dialect small.tick large.tick) ∧
    (∀ small large, Machine.Mirrored dialect small large → ∀ key held,
      (∃ small' large', small.setKey key held = .ok small' ∧ large.setKey key held = .ok large' ∧
        Machine.Mirrored dialect small' large') ∨
      small.setKey key held = .error (.noSuchKey key) ∧
        large.setKey key held = .error (.noSuchKey key)) ∧
    ∀ small large, Processor.Mirrored dialect small large → ∀ keyFrame word,
      small.machine.pc ≤ 0xFFC → small.machine.Meets word → ¬ word.Tall →
      (∀ instruction, word.decode .chip8 = .instruction instruction →
        small.machine.addressSum dialect instruction ≤ 0xFFF) →
      (small.step keyFrame).result = .ok () →
      (large.step keyFrame).result = .ok () ∧
        Machine.Mirrored dialect (small.step keyFrame).processor.machine
          (large.step keyFrame).processor.machine := by
  refine ⟨?_, ?_, ?_, ?_⟩
  · intro program fits
    exact (Machine.mirrored_powerOn dialect).load fits
  · intro small large mirrored
    exact mirrored.tick
  · intro small large mirrored key held
    exact mirrored.setKey key held
  · intro small large mirrored keyFrame word low meets short sum succeeded
    exact mirrored.step keyFrame low meets short sum succeeded

/-- A program that draws a digit and clears the screen again is simulated in both steps. -/
theorem xoChip_simulates_clearing :
    ∃ small large,
      (Machine.powerOn .chip8 (.standard .chip8)).load #[0xD0, 0x05, 0x00, 0xE0] = .ok small ∧
      (Machine.powerOn .xoChip (.standard .chip8)).load #[0xD0, 0x05, 0x00, 0xE0] = .ok large ∧
      let small := (Processor.powerOn .chip8 (.standard .chip8) false []).restore small
      let large := (Processor.powerOn .xoChip (.standard .chip8) false []).restore large
      let drawn := (small.step true).processor
      let enlarged := (large.step true).processor
      ((small.step true).result = .ok () ∧ (large.step true).result = .ok () ∧
        (drawn.machine.screen.plane 0).lit 0 = true ∧
        Machine.Mirrored (.standard .chip8) drawn.machine enlarged.machine) ∧
      (drawn.step false).result = .ok () ∧ (enlarged.step false).result = .ok () ∧
        Machine.Mirrored (.standard .chip8) (drawn.step false).processor.machine
          (enlarged.step false).processor.machine := by
  obtain ⟨powered, -, -, stepped⟩ := xoChip_simulates_chip8 (.standard .chip8)
  have fresh := Machine.wellFormed_powerOn .chip8 (.standard .chip8)
  have fits : Machine.programStart + (#[0xD0, 0x05, 0x00, 0xE0] : Array UInt8).size ≤
    Arch.chip8.memorySize := by decide
  obtain ⟨small, large, small_load, large_load, machine⟩ :=
    powered #[0xD0, 0x05, 0x00, 0xE0] (by decide)
  refine ⟨small, large, small_load, large_load, ?_⟩
  intro small_processor large_processor drawn enlarged
  have mirrored : Processor.Mirrored (.standard .chip8) small_processor large_processor :=
    ⟨rfl, rfl, rfl, rfl, rfl, machine⟩
  obtain ⟨result, screen, v, drawn_eq, -, lit⟩ :=
    Processor.lit_first_step false [] small_load (by decide) rfl
  have sums {machine : Machine} {word : Word} {instruction : Instruction}
      (decoded : word.decode .chip8 = .instruction instruction)
      (bound : machine.addressSum (.standard .chip8) instruction ≤ 0xFFF) (other : Instruction)
      (read : word.decode .chip8 = .instruction other) :
      machine.addressSum (.standard .chip8) other ≤ 0xFFF := by
    cases decoded.symm.trans read
    exact bound
  have meets : small.Meets ⟨0xD005⟩ := fresh.meets_of_load rfl (by decide) fits rfl small_load
  have pc : small.pc = 0x200 := Machine.pc_of_load small_load
  have decoded : Word.decode .chip8 ⟨0xD005⟩ = .instruction (.draw 0 0 5) := rfl
  obtain ⟨answered, kept⟩ := stepped small_processor large_processor mirrored true ⟨0xD005⟩
    (pc.trans_le (by decide)) meets (by decide) (sums decoded (by decide : (0 : Int) ≤ 0xFFF))
    result
  -- The second step goes on from machines that mirror each other as well.
  have mirrored' : Processor.Mirrored (.standard .chip8) drawn enlarged :=
    mirrored.after_step true rfl rfl kept
  have loaded := Except.ok.inj (small_load.symm.trans (fresh.load_of_fits fits))
  have drawn_eq' : drawn.machine = { small with screen, v }.advance true := drawn_eq
  have pc' : drawn.machine.pc = 0x202 := by
    rw [drawn_eq']
    exact congrArg (· + 2) pc
  have meets' : drawn.machine.Meets ⟨0x00E0⟩ :=
    @Machine.meets_of_patch _ _ _ 2 _ _ fresh.memory (by rw [drawn_eq', loaded]; rfl) pc'
      (by decide) fits rfl
  have decoded' : Word.decode .chip8 ⟨0x00E0⟩ = .instruction .clear := rfl
  have wellFormed : drawn.machine.WellFormed drawn.arch drawn.dialect := by
    rw [mirrored'.small_arch, mirrored'.small_dialect]
    exact kept.small_wellFormed
  have cleared : (drawn.step false).result = .ok () := by
    rw [Processor.step_result_of_meets wellFormed false meets' (mirrored'.small_arch ▸ decoded')]
    rfl
  have shown : (drawn.machine.screen.plane 0).lit 0 = true := by
    rw [drawn_eq']
    exact lit
  exact ⟨⟨result, answered, shown, kept⟩, cleared,
    stepped drawn enlarged mirrored' false ⟨0x00E0⟩ (pc'.trans_le (by decide)) meets' (by decide)
      (sums decoded' (by decide : (0 : Int) ≤ 0xFFF)) cleared⟩

end Chip8
