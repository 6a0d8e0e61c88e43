import Chip8.Proofs.Events
import Chip8.Proofs.Replay

/-!
# Resetting and switching on

A reset leaves nothing of what a machine went through but its flags.  With a program loaded, it then
behaves like a machine that was just switched on, until flags are loaded into registers: the flags
tell in nothing else than the text of crash reports.
-/

namespace Chip8

/-! ## What a reset leaves -/

theorem Store.Sized.clear_eq {α : Type} {store : Store α} {size : Nat} (sized : store.Sized size)
    (value : α) : store.clear value = .filled size value := by
  have cleared := sized.clear value
  have cells : (store.clear value).cells = Array.replicate size value := by
    apply Array.ext_getElem?
    intro index
    by_cases inside : index < size
    · rw [getElem?_clear sized value inside, Array.getElem?_replicate, if_pos inside]
    · rw [Array.getElem?_eq_none (by rw [cleared.cells]; omega), Array.getElem?_replicate,
        if_neg inside]
  rw [filled, ← cells, ← cleared.addresses]

theorem BoundedStack.Within.clear_eq {α : Type} [Zero α] {stack : BoundedStack α} {capacity : Nat}
    (within : stack.Within capacity) : stack.clear = .empty capacity := by
  rw [BoundedStack.clear, within.slots]

theorem Screen.Shaped.reset_eq {screen : Screen} {width height count : Nat}
    (shaped : screen.Shaped width height count) :
    screen.reset = .blank width height count screen.wraps := by
  have planes : screen.clearAll.planes =
      Array.replicate count (.filled ((width : Int) * height).toNat false) := by
    apply Array.ext_getElem?
    intro number
    rw [Screen.clearAll, Array.getElem?_map, Array.getElem?_replicate]
    by_cases inside : number < count
    · have sized := shaped.planes_sized number inside
      rw [plane_eq] at sized
      rw [if_pos inside]
      rw [Array.getElem?_eq_getElem (by rw [shaped.planes_size]; exact inside)] at sized ⊢
      exact congrArg some (sized.clear_eq false)
    · rw [if_neg inside, Array.getElem?_eq_none (by rw [shaped.planes_size]; omega)]
      rfl
  rw [Screen.reset, planes, Screen.clearAll, blank, shaped.width_eq, shaped.height_eq]

namespace Machine

variable {arch : Arch} {dialect : Dialect} {machine : Machine}

/-- The same machine with other flags. -/
def withFlags (machine : Machine) (flags : Registers) : Machine := { machine with flags }

theorem WellFormed.reset_eq (wellFormed : machine.WellFormed arch dialect) :
    machine.reset arch = (powerOn arch dialect).withFlags machine.flags := by
  have memory : machine.memory.clear 0 = (assemble arch dialect).memory.clear 0 :=
    (wellFormed.memory.clear_eq 0).trans ((Store.sized_filled arch.memorySize 0).clear_eq 0).symm
  have stack : machine.stack.clear = (assemble arch dialect).stack.clear :=
    wellFormed.stack.clear_eq.trans (BoundedStack.within_empty stackCapacity).clear_eq.symm
  have screen : machine.screen.reset = (assemble arch dialect).screen.reset := by
    rw [wellFormed.screen.reset_eq, wellFormed.wraps]
    exact (Screen.shaped_blank _ _ 2 _).reset_eq.symm
  rw [powerOn, withFlags, Machine.reset, Machine.reset, memory, stack, screen]

theorem WellFormed.withFlags (wellFormed : machine.WellFormed arch dialect) {flags : Registers}
    (full : flags.size = 16) : (machine.withFlags flags).WellFormed arch dialect :=
  { wellFormed with flags := full }

/-! ## Flags and instructions -/

theorem holds_withFlags (machine : Machine) (flags : Registers) (condition : Condition) :
    condition.holds (machine.withFlags flags) = condition.holds machine := by
  cases condition <;> rfl

theorem combine_withFlags (machine : Machine) (flags : Registers) (operation : Arithmetic)
    (x y : Digit) :
    (machine.withFlags flags).combine dialect operation x y =
      ((machine.combine dialect operation x y).1.withFlags flags,
        (machine.combine dialect operation x y).2) := by
  simp only [combine, withFlags]
  rcases (operation.apply dialect (machine.v.read x) (machine.v.read y)).2 with _ | flag <;> rfl

theorem passBlock_withFlags (machine : Machine) (flags : Registers) (x : Digit) :
    (machine.withFlags flags).passBlock arch dialect x =
      (machine.passBlock arch dialect x).withFlags flags := by
  simp only [passBlock, withFlags]
  split <;> rfl

theorem draw_withFlags (machine : Machine) (flags : Registers) (x y rows : Digit) :
    (machine.withFlags flags).draw arch dialect x y rows =
      (·.withFlags flags) <$> machine.draw arch dialect x y rows :=
  draw_change (·.withFlags flags) rfl rfl rfl rfl rfl fun _ _ => rfl

/-- Flags are looked at only to load them into registers. -/
theorem perform_withFlags (machine : Machine) (flags : Registers) (random : UInt8)
    {instruction : Instruction} (other : ∀ x, instruction ≠ .loadFlags x) :
    ∃ later, (machine.withFlags flags).perform arch dialect random instruction =
      ((machine.perform arch dialect random instruction).1.withFlags later,
        (machine.perform arch dialect random instruction).2) := by
  cases instruction with
  | saveFlags x => exact ⟨flags.refill x (machine.v.upTo x), rfl⟩
  | loadFlags x => exact absurd rfl (other x)
  | skip condition =>
      refine ⟨flags, ?_⟩
      rw [perform, perform, holds_withFlags]
      cases condition.holds machine <;> rfl
  | arithmetic operation x y => exact ⟨flags, machine.combine_withFlags flags operation x y⟩
  | draw x y rows =>
      refine ⟨flags, ?_⟩
      simp only [perform, draw_withFlags]
      rw [show (machine.withFlags flags).mustWait dialect = machine.mustWait dialect from rfl]
      cases machine.mustWait dialect
      · rcases machine.draw arch dialect x y rows with fault | drawn <;> rfl
      · rfl
  | awaitKey x =>
      refine ⟨flags, ?_⟩
      simp only [perform]
      rw [show (machine.withFlags flags).lowestKey? = machine.lowestKey? from rfl]
      rcases machine.lowestKey? with _ | key <;> rfl
  | readDelay x =>
      refine ⟨flags, settle_map (·.withFlags flags) machine ?_⟩
      by_cases byte : 0 ≤ machine.delay ∧ machine.delay ≤ 0xFF
      · rw [show machine.readDelay x = _ from if_pos byte]
        exact if_pos byte
      · rw [show machine.readDelay x = _ from if_neg byte]
        exact if_neg byte
  -- Both sides fail at the same read or write, and only what is done after it knows the flags.
  | store x | load x =>
      refine ⟨flags, settle_map (·.withFlags flags) machine ?_⟩
      refine ((map_bind _ _ _).trans ?_).symm
      simp only [map_pure, ← passBlock_withFlags]
      rfl
  | ret | call _ | storeDecimal x | scroll _ _ | setIndexLong | selectPlanes _ | loadPattern =>
      refine ⟨flags, settle_map (·.withFlags flags) machine ?_⟩
      refine ((map_bind _ _ _).trans ?_).symm
      rfl
  | storeRange x y =>
      refine ⟨flags, ?_⟩
      simp only [perform, storeRange]
      rw [show (machine.withFlags flags).checkRange (range x y) =
        machine.checkRange (range x y) from rfl]
      rcases machine.checkRange (range x y) with fault | _ <;> rfl
  | loadRange x y =>
      refine ⟨flags, ?_⟩
      simp only [perform, loadRange]
      rw [show (machine.withFlags flags).checkRange (range x y) =
        machine.checkRange (range x y) from rfl]
      rcases machine.checkRange (range x y) with fault | _ <;> rfl
  | _ => exact ⟨flags, rfl⟩

end Machine

/-! ## Flags and steps -/

/-- The fault without the text that shows the state of the machine. -/
def Fault.withoutState : Fault → Fault
  | .unsupported report => .unsupported { report with state := "" }
  | fault => fault

/-- The instruction loads flags into registers. -/
def Instruction.LoadsFlags : Instruction → Prop
  | .loadFlags _ => True
  | _ => False

/-- The same processor with other flags. -/
def Processor.withFlags (processor : Processor) (flags : Registers) : Processor :=
  { processor with machine := processor.machine.withFlags flags }

/-- The outcomes differ at most in the flags of the machine and in the text that shows its state. -/
structure Outcome.SameButFlags (left right : Outcome Unit) : Prop where
  /-- The processor afterwards. -/
  processor : ∃ flags, right.processor = left.processor.withFlags flags
  /-- Lines announced on the way. -/
  lines : right.lines = left.lines
  /-- The result, or what stopped it. -/
  result : right.result.mapError Fault.withoutState = left.result.mapError Fault.withoutState

namespace Processor

variable {arch : Arch} {dialect : Dialect} {processor : Processor} {flags : Registers}

theorem report_of_full (v : processor.machine.v.size = 16)
    (full : processor.machine.flags.size = 16) (text : String) :
    processor.report text =
      .ok (processor.machine.fullReport processor.fetchedFrom processor.opcode text) := by
  rw [report, Registers.demand_of_full v, Registers.demand_of_full full]
  rfl

/-- Of a report, the flags change nothing but the text that shows the state. -/
theorem unsupported_withFlags (v : processor.machine.v.size = 16)
    (old : processor.machine.flags.size = 16) (new : flags.size = 16) :
    (processor.withFlags flags).unsupported.withoutState =
      processor.unsupported.withoutState := by
  have reported := report_of_full v old unknownText
  have reported' := @report_of_full (processor.withFlags flags) v new unknownText
  simp only [unsupported, reported, reported', Fault.withoutState]
  rfl

theorem execute_withFlags
    (wellFormed : processor.machine.WellFormed processor.arch processor.dialect)
    (new : flags.size = 16) {opcode : Int} {word : Word} (spelled : Word.ofInt? opcode = some word)
    (spares : ∀ x, word.decode processor.arch ≠ .instruction (.loadFlags x)) :
    (processor.execute opcode).SameButFlags ((processor.withFlags flags).execute opcode) := by
  have wellFormed' := wellFormed.withFlags new
  have unsupported := @unsupported_withFlags { processor with opcode } flags wellFormed.v
    wellFormed.flags new
  have announce (instruction : Instruction) :=
    exists_announce { processor with opcode } wellFormed.v instruction
  rcases reading : word.decode processor.arch with instruction | instruction | _
  · obtain ⟨lines, announced⟩ := announce instruction
    have spared : ∀ x, instruction ≠ .loadFlags x := by
      rintro x rfl
      exact spares x reading
    have rolled : (processor.withFlags flags).roll instruction = processor.roll instruction := by
      cases instruction <;> rfl
    obtain ⟨later, effect⟩ : ∃ later,
        (processor.withFlags flags).machine.perform (processor.withFlags flags).arch
          (processor.withFlags flags).dialect (processor.roll instruction).1 instruction =
        ((processor.machine.perform processor.arch processor.dialect
          (processor.roll instruction).1 instruction).1.withFlags later, _) :=
      processor.machine.perform_withFlags flags (processor.roll instruction).1 spared
    rw [execute_of_instruction wellFormed spelled reading announced,
      @execute_of_instruction (processor.withFlags flags) _ _ _ _ wellFormed' spelled reading
        announced, rolled, effect]
    exact ⟨⟨later, rfl⟩, rfl, rfl⟩
  · obtain ⟨lines, announced⟩ := announce instruction
    rw [execute_of_reserved spelled reading announced,
      @execute_of_reserved (processor.withFlags flags) _ _ _ _ spelled reading announced]
    exact ⟨⟨flags, rfl⟩, rfl, congrArg Except.error unsupported⟩
  · rw [execute_of_unknown spelled reading,
      @execute_of_unknown (processor.withFlags flags) _ _ spelled reading]
    exact ⟨⟨flags, rfl⟩, rfl, congrArg Except.error unsupported⟩

/-- Until flags are loaded into registers, a step tells processors with different flags apart at
most by the text of a report. -/
theorem step_withFlags
    (wellFormed : processor.machine.WellFormed processor.arch processor.dialect)
    (new : flags.size = 16) (keyFrame : Bool)
    (spares : ∀ x, processor.facing? ≠ some (.loadFlags x)) :
    (processor.step keyFrame).SameButFlags ((processor.withFlags flags).step keyFrame) := by
  by_cases inside : processor.machine.pc + 2 ≤ processor.arch.memorySize
  · obtain ⟨word, meets⟩ := wellFormed.exists_meets inside
    rw [step_of_meets keyFrame meets, @step_of_meets (processor.withFlags flags) keyFrame _ meets]
    have spared (x : Digit) : word.decode processor.arch ≠ .instruction (.loadFlags x) :=
      fun reading => spares x (Machine.facing?_eq_some_iff.mpr ⟨word, meets, reading⟩)
    exact @execute_withFlags (processor.advance keyFrame) flags
      (wellFormed.advance inside keyFrame) new _ word word.ofInt?_value spared
  · have outside : processor.arch.memorySize < processor.machine.pc + 2 := by omega
    have wellFormed' := wellFormed.withFlags new
    rw [step_of_outside wellFormed keyFrame outside,
      @step_of_outside (processor.withFlags flags) wellFormed' keyFrame outside]
    exact ⟨⟨flags, rfl⟩, rfl, rfl⟩

theorem happen_withFlags
    (wellFormed : processor.machine.WellFormed processor.arch processor.dialect)
    (new : flags.size = 16) (event : Event)
    (spares : event.IsStep → ∀ x, processor.facing? ≠ some (.loadFlags x)) :
    (processor.happen event).SameButFlags ((processor.withFlags flags).happen event) := by
  cases event with
  | step keyFrame => exact step_withFlags wellFormed new keyFrame (spares trivial)
  | tick => exact ⟨⟨flags, rfl⟩, rfl, rfl⟩
  | setKey key held =>
      by_cases exists_key : 0 ≤ key ∧ key < 16
      · simp only [happen, setKey, Machine.setKey, dif_pos exists_key]
        exact ⟨⟨flags, rfl⟩, rfl, rfl⟩
      · simp only [happen, setKey, Machine.setKey, dif_neg exists_key]
        exact ⟨⟨flags, rfl⟩, rfl, rfl⟩

/-! ## Flags and runs -/

/-- What events amount to, one after the other. -/
def outcomes (processor : Processor) : List Event → List (Outcome Unit)
  | [] => []
  | event :: rest => processor.happen event :: (processor.happen event).processor.outcomes rest

/-- No step of the run executes an instruction of this kind. -/
def Spares (kind : Instruction → Prop) (processor : Processor) : List Event → Prop
  | [] => True
  | event :: rest =>
      (event.IsStep → ∀ instruction ∈ processor.facing?, ¬ kind instruction) ∧
        (processor.happen event).processor.Spares kind rest

/-- Until flags are loaded into registers, a whole run tells processors with different flags apart
at most by the text of a report. -/
theorem outcomes_withFlags (reachable : processor.Reachable arch dialect)
    (reachable' : (processor.withFlags flags).Reachable arch dialect) {events : List Event}
    (spares : processor.Spares Instruction.LoadsFlags events) :
    List.Forall₂ Outcome.SameButFlags (processor.outcomes events)
      ((processor.withFlags flags).outcomes events) := by
  -- Instructions that save flags make the difference another one, hence any flags.
  induction events generalizing processor flags with
  | nil => exact .nil
  | cons event rest induction =>
      obtain ⟨first, others⟩ := spares
      have wellFormed := reachable.wellFormed
      have new : flags.size = 16 := reachable'.wellFormed.flags
      have spared (step : event.IsStep) (x : Digit) : processor.facing? ≠ some (.loadFlags x) :=
        fun facing => first step (.loadFlags x) facing trivial
      rw [← reachable.arch_eq, ← reachable.dialect_eq] at wellFormed
      have same := happen_withFlags wellFormed new event spared
      obtain ⟨later, after⟩ := same.processor
      have reached' := reachable'.happen event
      rw [after] at reached'
      refine .cons same ?_
      rw [after]
      exact induction (reachable.happen event) reached' others

/-! ## Switching on again -/

theorem load_withFlags (processor : Processor) (flags : Registers) (program : Array UInt8) :
    (processor.withFlags flags).load program =
      (·.withFlags flags) <$> processor.load program := by
  simp only [load, Machine.load, bind_assoc]
  refine ((map_bind _ _ _).trans ?_).symm
  rfl

/-- The processor has the setting of one that was switched on, and its machine is well formed. -/
structure InOrder (arch : Arch) (dialect : Dialect) (processor : Processor) : Prop where
  /-- The setting. -/
  setting : ∃ live dice, SameSetting (.powerOn arch dialect live dice) processor
  /-- The machine. -/
  machine : processor.machine.WellFormed arch dialect

theorem InOrder.reset_eq (inOrder : processor.InOrder arch dialect) :
    processor.reset = (Processor.powerOn arch dialect processor.live processor.dice).withFlags
      processor.machine.flags := by
  have machine_eq := inOrder.machine.reset_eq
  obtain ⟨live, dice, machine, opcode, fetchedFrom, dice', setting⟩ := inOrder.setting
  have arch_eq : processor.arch = arch := by
    rw [setting]
    rfl
  rw [Processor.reset, arch_eq, machine_eq, setting]
  rfl

namespace Reachable

theorem inOrder (reachable : processor.Reachable arch dialect) :
    processor.InOrder arch dialect := by
  have machine := reachable.wellFormed
  obtain ⟨live, dice, operations, rfl⟩ := reachable
  exact ⟨⟨live, dice, (Bench.start arch dialect live dice).sameSetting_run operations⟩, machine⟩

theorem reset (reachable : processor.Reachable arch dialect) :
    processor.reset.Reachable arch dialect := by
  obtain ⟨live, dice, operations, rfl⟩ := reachable
  exact operate .reset rfl

theorem load (reachable : processor.Reachable arch dialect) {program : Array UInt8}
    {loaded : Processor} (load : processor.load program = .ok loaded) :
    loaded.Reachable arch dialect := by
  obtain ⟨live, dice, operations, rfl⟩ := reachable
  have reached : (((Bench.start arch dialect live dice).run operations).operate
      (.load program)).processor.Reachable arch dialect := operate (.load program) rfl
  rw [Bench.operate, load] at reached
  exact reached

theorem reset_eq (reachable : processor.Reachable arch dialect) :
    processor.reset = (Processor.powerOn arch dialect processor.live processor.dice).withFlags
      processor.machine.flags :=
  reachable.inOrder.reset_eq

/-- A reset is like switching on, but for the flags, and a second one changes nothing.  Whatever
program is loaded then, the processor does the same as one that was just switched on, with other
flags, up to the first instruction that loads flags into registers. -/
theorem reset_like_powerOn (reachable : processor.Reachable arch dialect) :
    processor.reset.reset = processor.reset ∧
      ∀ program : Array UInt8, Machine.programStart + program.size ≤ arch.memorySize →
        ∃ loaded, (Processor.powerOn arch dialect processor.live processor.dice).load program =
            .ok loaded ∧
          processor.reset.load program = .ok (loaded.withFlags processor.machine.flags) ∧
          ∀ events, loaded.Spares Instruction.LoadsFlags events →
            List.Forall₂ Outcome.SameButFlags (loaded.outcomes events)
              ((loaded.withFlags processor.machine.flags).outcomes events) := by
  constructor
  · obtain ⟨live, dice, flags⟩ : processor.reset.live = processor.live ∧
        processor.reset.dice = processor.dice ∧
        processor.reset.machine.flags = processor.machine.flags := by
      simp only [Processor.reset, Machine.reset, and_self]
    rw [reachable.reset.reset_eq, live, dice, flags, reachable.reset_eq]
  · intro program fits
    have fresh := Reachable.powerOn arch dialect processor.live processor.dice
    obtain ⟨loaded, load_eq⟩ : ∃ loaded,
        (Processor.powerOn arch dialect processor.live processor.dice).load program =
          .ok loaded := by
      rw [Processor.load, fresh.wellFormed.load_of_fits fits]
      exact ⟨_, rfl⟩
    have restarted : processor.reset.load program =
        .ok (loaded.withFlags processor.machine.flags) := by
      rw [reachable.reset_eq, load_withFlags, load_eq]
      rfl
    exact ⟨loaded, load_eq, restarted, fun events spares =>
      outcomes_withFlags (fresh.load load_eq) (reachable.reset.load restarted) spares⟩

/-- After flags were saved, a reset and a program that clears the screen. -/
theorem reset_like_powerOn_after_saving :
    let processor := ((Bench.start .superChip (.standard .superChip) true []).run
      [.load #[0x60, 0x05, 0xF0, 0x75], .step true, .step false]).processor
    let events : List Event := [.setKey 3 true, .step true, .tick]
    processor.Reachable .superChip (.standard .superChip) ∧
      processor.reset.reset = processor.reset ∧
      ∃ loaded, (Processor.powerOn .superChip (.standard .superChip) processor.live
          processor.dice).load #[0x00, 0xE0] = .ok loaded ∧
        processor.reset.load #[0x00, 0xE0] =
          .ok (loaded.withFlags processor.machine.flags) ∧
        loaded.Spares Instruction.LoadsFlags events ∧
        List.Forall₂ Outcome.SameButFlags (loaded.outcomes events)
          ((loaded.withFlags processor.machine.flags).outcomes events) := by
  have reachable : ((Bench.start .superChip (.standard .superChip) true []).run
      [.load #[0x60, 0x05, 0xF0, 0x75], .step true, .step false]).processor.Reachable .superChip
        (.standard .superChip) := ⟨true, [], _, rfl⟩
  have fits : Machine.programStart + (#[0x00, 0xE0] : Array UInt8).size ≤
    Arch.superChip.memorySize := by decide
  have wellFormed := Machine.wellFormed_powerOn .superChip (.standard .superChip)
  have spares (live : Bool) (dice : List UInt8) (loaded : Processor)
      (load_eq : (Processor.powerOn .superChip (.standard .superChip) live dice).load
        #[0x00, 0xE0] = .ok loaded) :
      loaded.Spares Instruction.LoadsFlags [.setKey 3 true, .step true, .tick] := by
    have facing : (loaded.happen (.setKey 3 true)).processor.facing? = some .clear := by
      obtain ⟨_, _, _, _, after⟩ := @exists_happen_eq loaded (.setKey 3 true) id
      have fresh := Reachable.powerOn .superChip (.standard .superChip) live dice
      rw [Processor.load, fresh.wellFormed.load_of_fits fits] at load_eq
      cases load_eq
      rw [after]
      exact @facing?_of_patch _ _ _ 0 _ ⟨0x00E0⟩ _ wellFormed.memory rfl rfl (by decide) fits rfl
        rfl
    refine ⟨fun step => step.elim, fun _ instruction faced => ?_, fun step => step.elim, trivial⟩
    cases facing.symm.trans faced
    exact id
  intro processor events
  obtain ⟨idempotent, restarts⟩ := @reset_like_powerOn _ _ processor reachable
  obtain ⟨loaded, load_eq, restart_eq, agree⟩ := restarts #[0x00, 0xE0] fits
  have spared := spares _ _ loaded load_eq
  exact ⟨reachable, idempotent, loaded, load_eq, restart_eq, spared, agree _ spared⟩

end Reachable

end Processor

end Chip8
