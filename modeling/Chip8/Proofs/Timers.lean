import Mathlib.Data.List.DropRight
import Chip8.Proofs.Footprint
import Chip8.Proofs.SessionOrder

/-!
# Timers

A timer is stored by one instruction and counted down by ticks, and nothing else moves it.  So what
it shows can be told from the past alone: the value that was stored last, less the ticks since.  The
buzzer is decided by ticks, and a tick may be put off until after any step whose instruction has
nothing to do with timers.
-/

namespace Chip8

/-- The two timers of a machine. -/
inductive Timer where
  | delay
  | sound
deriving DecidableEq, Repr

namespace Timer

/-- What a timer shows. -/
def read (machine : Machine) : Timer → Int
  | .delay => machine.delay
  | .sound => machine.sound

/-- The register from which an instruction stores a timer. -/
def register? : Timer → Instruction → Option Digit
  | .delay, .setDelay x | .sound, .setSound x => some x
  | _, _ => none

/-- The value that an event stores in a timer, told by the machine that the event finds. -/
def stored? (arch : Arch) (timer : Timer) : Event × Machine → Option Int
  | (.step _, machine) =>
      ((machine.facing? arch).bind timer.register?).map fun x => (machine.v.read x).toNat
  | _ => none

/-- Number of ticks since a timer was stored last, or of all ticks if it never was. -/
def ticksSince (arch : Arch) (timer : Timer) (past : List (Event × Machine)) : Nat :=
  (past.rtakeWhile fun moment => (timer.stored? arch moment).isNone).countP (·.1 = .tick)

variable {arch : Arch} {timer : Timer} {moment : Event × Machine}

theorem stored?_nonneg {value : Int} (stored : timer.stored? arch moment = some value) :
    0 ≤ value := by
  rcases moment with ⟨event, machine⟩
  cases event with
  | step keyFrame =>
      obtain ⟨x, -, rfl⟩ := Option.map_eq_some_iff.mp stored
      exact Int.natCast_nonneg _
  | tick | setKey => cases stored

theorem ticksSince_concat (past : List (Event × Machine)) :
    timer.ticksSince arch (past ++ [moment]) =
      if timer.stored? arch moment = none then
        timer.ticksSince arch past + if moment.1 = .tick then 1 else 0
      else
        0 := by
  rw [ticksSince, ticksSince]
  rcases stored : timer.stored? arch moment with _ | value
  · rw [List.rtakeWhile_concat_pos _ _ _ (by rw [stored]; rfl), List.countP_append,
      List.countP_singleton, if_pos rfl]
    simp only [decide_eq_true_eq]
  · rw [List.rtakeWhile_concat_neg _ _ _ (by rw [stored]; exact nofun), if_neg nofun]
    rfl

end Timer

/-- One tick takes one from a timer, down to zero. -/
theorem Machine.countDown_eq {timer : Int} (nonneg : 0 ≤ timer) :
    countDown timer = max 0 (timer - 1) := by
  rw [countDown]
  split <;> omega

/-- The instruction reads or stores a timer. -/
def Instruction.Timed : Instruction → Prop
  | .readDelay _ | .setDelay _ | .setSound _ => True
  | _ => False

/-- The word spells an instruction that reads or stores a timer: Fx07, Fx15 or Fx18. -/
def Word.Timed (word : Word) : Prop :=
  word.value.val / 0x1000 = 0xF ∧ word.value.val % 0x100 ∈ [0x07, 0x15, 0x18]

instance (word : Word) : Decidable word.Timed := inferInstanceAs (Decidable (_ ∧ _))

theorem Word.timed_of_decode {arch : Arch} {word : Word} {instruction : Instruction}
    (decoded : word.decode arch = .instruction instruction) (timed : instruction.Timed) :
    word.Timed := by
  have spelled := (Word.opcode_of_decode decoded).1
  cases instruction with
  | readDelay x | setDelay x | setSound x =>
      have digit := x.isLt
      simp only [Instruction.opcode] at spelled
      simp only [Word.Timed, List.mem_cons, List.not_mem_nil]
      omega
  | _ => exact timed.elim

namespace Processor

/-- The events of a run, each with the machine that it finds. -/
def moments (processor : Processor) : List Event → List (Event × Machine)
  | [] => []
  | event :: rest =>
      (event, processor.machine) :: (processor.happen event).processor.moments rest

theorem moments_append (processor : Processor) (first second : List Event) :
    processor.moments (first ++ second) =
      processor.moments first ++ (processor.play first).moments second := by
  induction first generalizing processor with
  | nil => rfl
  | cons event rest induction =>
      rw [List.cons_append, moments, moments, induction, play_cons, List.cons_append]

theorem moments_concat (processor : Processor) (events : List Event) (last : Event) :
    processor.moments (events ++ [last]) =
      processor.moments events ++ [(last, (processor.play events).machine)] :=
  processor.moments_append events [last]

theorem map_fst_moments (processor : Processor) (events : List Event) :
    (processor.moments events).map Prod.fst = events := by
  induction events generalizing processor with
  | nil => rfl
  | cons event rest induction => rw [moments, List.map_cons, induction]

variable {arch : Arch} {dialect : Dialect} {processor : Processor}

theorem ticksSince_of_unticked {timer : Timer} {events : List Event} (unticked : .tick ∉ events) :
    timer.ticksSince arch (processor.moments events) = 0 := by
  rw [Timer.ticksSince, List.countP_eq_zero]
  intro moment member
  have happened := List.mem_map_of_mem (f := Prod.fst) ((List.rtakeWhile_suffix _ _).subset member)
  rw [map_fst_moments] at happened
  rw [decide_eq_true_eq]
  rintro tick
  exact unticked (tick ▸ happened)

/-! ## One event -/

/-- An instruction that stores a timer is never refused. -/
theorem Timer.refusal?_of_register? {timer : Timer} {instruction : Instruction} {x : Digit}
    (stores : timer.register? instruction = some x) (machine : Machine) :
    machine.refusal? arch dialect instruction = none := by
  cases timer <;> cases instruction <;> cases stores <;> rfl

theorem Timer.timed_of_register? {timer : Timer} {instruction : Instruction} {x : Digit}
    (stores : timer.register? instruction = some x) : instruction.Timed := by
  cases timer <;> cases instruction <;> cases stores <;> trivial

theorem Timer.read_perform {timer : Timer} {instruction : Instruction} {x : Digit}
    (stores : timer.register? instruction = some x) (machine : Machine) (random : UInt8) :
    timer.read (machine.perform arch dialect random instruction).1 = (machine.v.read x).toNat := by
  cases timer <;> cases instruction <;> cases stores <;> rfl

/-- Any other instruction leaves the timer alone. -/
theorem Timer.read_of_confined {timer : Timer} {instruction : Instruction} {before after : Machine}
    (confined : Machine.Confined arch dialect instruction before after)
    (spares : timer.register? instruction = none) : timer.read after = timer.read before := by
  by_contra moved
  cases timer with
  | delay =>
      obtain ⟨x, rfl⟩ := confined.delay moved
      cases spares
  | sound =>
      obtain ⟨x, rfl⟩ := confined.sound moved
      cases spares

/-- A step moves only the timer that its instruction stores. -/
theorem timer_step (wellFormed : processor.machine.WellFormed processor.arch processor.dialect)
    (keyFrame : Bool) (timer : Timer) :
    timer.read (processor.step keyFrame).processor.machine =
      (timer.stored? processor.arch (.step keyFrame, processor.machine)).getD
        (timer.read processor.machine) := by
  rcases stores : (processor.machine.facing? processor.arch).bind timer.register? with _ | x
  · have silent : timer.stored? processor.arch (.step keyFrame, processor.machine) = none := by
      rw [Timer.stored?, stores, Option.map_none]
    rw [silent, Option.getD_none]
    rcases step_cases_facing wellFormed keyFrame with
      ⟨fault, pc, nextWide, -, after⟩ | ⟨instruction, facing, accepted, -, after⟩
    · rw [after]
      cases timer <;> rfl
    · obtain ⟨word, meets, -⟩ := Machine.facing?_eq_some_iff.mp facing
      have advanced := wellFormed.advance (wellFormed.inside_of_meets meets) keyFrame
      have spares : timer.register? instruction = none := by
        rw [show processor.machine.facing? processor.arch = some instruction from facing] at stores
        exact stores
      rw [after, Timer.read_of_confined (advanced.confined_perform _ accepted) spares]
      cases timer <;> rfl
  · obtain ⟨instruction, facing, register⟩ := Option.bind_eq_some_iff.mp stores
    have accepted : (processor.machine.advance keyFrame).refusal? processor.arch
        processor.dialect instruction = none := Timer.refusal?_of_register? register _
    have shown : timer.stored? processor.arch (.step keyFrame, processor.machine) =
        some ((processor.machine.v.read x).toNat : Int) := by
      rw [Timer.stored?, stores, Option.map_some]
    obtain ⟨-, after⟩ := step_of_accepted wellFormed keyFrame facing accepted
    rw [shown, after, Timer.read_perform register]
    rfl

/-- No step switches the buzzer. -/
theorem beeping_step (wellFormed : processor.machine.WellFormed processor.arch processor.dialect)
    (keyFrame : Bool) :
    (processor.step keyFrame).processor.machine.beeping = processor.machine.beeping := by
  rcases step_cases_facing wellFormed keyFrame with
    ⟨fault, pc, nextWide, -, after⟩ | ⟨instruction, facing, accepted, -, after⟩
  · rw [after]
  · obtain ⟨word, meets, -⟩ := Machine.facing?_eq_some_iff.mp facing
    have advanced := wellFormed.advance (wellFormed.inside_of_meets meets) keyFrame
    rw [after, (advanced.confined_perform _ accepted).beeping]
    rfl

theorem exists_setKey_eq (processor : Processor) (key : Int) (held : Bool) :
    ∃ keys, (processor.happen (.setKey key held)).processor =
      { processor with machine := { processor.machine with keys } } := by
  by_cases exists_key : 0 ≤ key ∧ key < 16
  · simp only [happen, setKey, Machine.setKey, dif_pos exists_key]
    exact ⟨_, rfl⟩
  · simp only [happen, setKey, Machine.setKey, dif_neg exists_key]
    exact ⟨_, rfl⟩

/-- A tick counts a timer down, and any other event moves it only by storing it. -/
theorem timer_happen (wellFormed : processor.machine.WellFormed processor.arch processor.dialect)
    (event : Event) (timer : Timer) :
    timer.read (processor.happen event).processor.machine =
      if event = .tick then
        Machine.countDown (timer.read processor.machine)
      else
        (timer.stored? processor.arch (event, processor.machine)).getD
          (timer.read processor.machine) := by
  cases event with
  | step keyFrame => exact timer_step wellFormed keyFrame timer
  | tick => cases timer <;> rfl
  | setKey key held =>
      obtain ⟨keys, after⟩ := processor.exists_setKey_eq key held
      rw [after]
      cases timer <;> rfl

/-- A tick switches the buzzer by what the sound timer shows then, and no other event does. -/
theorem beeping_happen (wellFormed : processor.machine.WellFormed processor.arch processor.dialect)
    (event : Event) :
    (processor.happen event).processor.machine.beeping =
      if event = .tick then
        decide (0 < (processor.happen event).processor.machine.sound)
      else
        processor.machine.beeping := by
  cases event with
  | step keyFrame => exact beeping_step wellFormed keyFrame
  | tick => rfl
  | setKey key held =>
      obtain ⟨keys, after⟩ := processor.exists_setKey_eq key held
      rw [after]
      rfl

/-! ## Runs -/

namespace InOrder

theorem wellFormed (inOrder : processor.InOrder arch dialect) :
    processor.machine.WellFormed processor.arch processor.dialect := by
  rw [inOrder.arch_eq, inOrder.dialect_eq]
  exact inOrder.machine

/-- A timer shows what was stored last, or what it showed at the start, less the ticks since. -/
theorem timer_play (inOrder : processor.InOrder arch dialect) (events : List Event)
    (timer : Timer) :
    timer.read (processor.play events).machine =
      max 0 ((latest (timer.stored? arch) (processor.moments events)).getD
          (timer.read processor.machine) -
        timer.ticksSince arch (processor.moments events)) := by
  induction events using List.reverseRecOn with
  | nil =>
      have byte : 0 ≤ timer.read processor.machine := by
        cases timer
        · exact inOrder.machine.delay.1
        · exact inOrder.machine.sound.1
      show timer.read processor.machine = max 0 (timer.read processor.machine - 0)
      omega
  | append_singleton events last induction =>
      have played := inOrder.play events
      rw [play_concat, moments_concat, timer_happen played.wellFormed last timer, played.arch_eq,
        Timer.ticksSince_concat, latest_concat]
      rcases stored : timer.stored? arch (last, (processor.play events).machine) with _ | value
      · rw [Option.none_or, Option.getD_none, if_pos rfl, Nat.cast_add, induction]
        split
        · rw [Machine.countDown_eq (Int.le_max_left _ _)]
          omega
        · omega
      · have other : last ≠ .tick := by
          rintro rfl
          cases stored
        have nonneg := Timer.stored?_nonneg stored
        rw [if_neg other]
        show value = max 0 (value - 0)
        omega

/-- The buzzer stays as it is until the next tick. -/
theorem beeping_play (inOrder : processor.InOrder arch dialect) {events : List Event}
    (unticked : .tick ∉ events) :
    (processor.play events).machine.beeping = processor.machine.beeping := by
  induction events using List.reverseRecOn with
  | nil => rfl
  | append_singleton events last induction =>
      have apart : .tick ∉ events ∧ last ≠ .tick := by simpa [eq_comm] using unticked
      rw [play_concat, beeping_happen (inOrder.play events).wellFormed last, if_neg apart.2,
        induction apart.1]

/-- The buzzer is on if the sound timer was still running right after the last tick. -/
theorem beeping_play_tick (inOrder : processor.InOrder arch dialect) (before : List Event)
    {after : List Event} (unticked : .tick ∉ after) :
    (processor.play (before ++ .tick :: after)).machine.beeping =
      decide (0 < (processor.play (before ++ [.tick])).machine.sound) := by
  have later := (inOrder.play (before ++ [Event.tick])).beeping_play unticked
  rw [play_append, play_cons, ← play_concat, later, play_concat]
  rfl

end InOrder

end Processor

/-! ## Putting a tick off -/

namespace Machine

variable {arch : Arch} {dialect : Dialect} {machine : Machine}

/-- The same machine with other timers and another buzzer. -/
def withTimers (machine : Machine) (delay sound : Int) (beeping : Bool) : Machine :=
  { machine with delay, sound, beeping }

variable {delay sound : Int} {beeping : Bool}

theorem holds_withTimers (condition : Condition) :
    condition.holds (machine.withTimers delay sound beeping) = condition.holds machine := by
  cases condition <;> rfl

theorem combine_withTimers (operation : Arithmetic) (x y : Digit) :
    (machine.withTimers delay sound beeping).combine dialect operation x y =
      ((machine.combine dialect operation x y).1.withTimers delay sound beeping,
        (machine.combine dialect operation x y).2) := by
  simp only [combine, withTimers]
  rcases (operation.apply dialect (machine.v.read x) (machine.v.read y)).2 with _ | flag <;> rfl

theorem passBlock_withTimers (machine : Machine) (x : Digit) :
    (machine.withTimers delay sound beeping).passBlock arch dialect x =
      (machine.passBlock arch dialect x).withTimers delay sound beeping := by
  simp only [passBlock, withTimers]
  split <;> rfl

/-- An instruction that has nothing to do with timers does the same whatever they show. -/
theorem perform_withTimers (random : UInt8) {instruction : Instruction}
    (timeless : ¬ instruction.Timed) :
    (machine.withTimers delay sound beeping).perform arch dialect random instruction =
      ((machine.perform arch dialect random instruction).1.withTimers delay sound beeping,
        (machine.perform arch dialect random instruction).2) := by
  cases instruction with
  | readDelay x | setDelay x | setSound x => exact absurd trivial timeless
  | skip condition =>
      rw [perform, perform, holds_withTimers]
      cases condition.holds machine <;> rfl
  | arithmetic operation x y => exact combine_withTimers operation x y
  | draw x y rows =>
      have drawn : (machine.withTimers delay sound beeping).draw arch dialect x y rows =
          (·.withTimers delay sound beeping) <$> machine.draw arch dialect x y rows :=
        draw_change (·.withTimers delay sound beeping) rfl rfl rfl rfl rfl fun _ _ => rfl
      simp only [perform, drawn]
      rw [show (machine.withTimers delay sound beeping).mustWait dialect =
        machine.mustWait dialect from rfl]
      cases machine.mustWait dialect
      · rcases machine.draw arch dialect x y rows with fault | drawn <;> rfl
      · rfl
  | awaitKey x =>
      simp only [perform]
      rw [show (machine.withTimers delay sound beeping).lowestKey? = machine.lowestKey? from rfl]
      rcases machine.lowestKey? with _ | key <;> rfl
  -- Both sides fail at the same read or write, and only what is done after it knows the timers.
  | store x | load x =>
      refine settle_map (·.withTimers delay sound beeping) machine ?_
      refine ((map_bind _ _ _).trans ?_).symm
      simp only [map_pure, ← passBlock_withTimers]
      rfl
  | ret | call _ | storeDecimal x | scroll _ _ | setIndexLong | selectPlanes _ | loadPattern =>
      refine settle_map (·.withTimers delay sound beeping) machine ?_
      refine ((map_bind _ _ _).trans ?_).symm
      rfl
  | storeRange x y =>
      simp only [perform, storeRange]
      rw [show (machine.withTimers delay sound beeping).checkRange (range x y) =
        machine.checkRange (range x y) from rfl]
      rcases machine.checkRange (range x y) with fault | _ <;> rfl
  | loadRange x y =>
      simp only [perform, loadRange]
      rw [show (machine.withTimers delay sound beeping).checkRange (range x y) =
        machine.checkRange (range x y) from rfl]
      rcases machine.checkRange (range x y) with fault | _ <;> rfl
  | _ => rfl

end Machine

namespace Processor

variable {arch : Arch} {dialect : Dialect} {processor : Processor}

/-- The same processor with other timers and another buzzer. -/
def withTimers (processor : Processor) (delay sound : Int) (beeping : Bool) : Processor :=
  { processor with machine := processor.machine.withTimers delay sound beeping }

theorem tick_eq_withTimers (processor : Processor) :
    processor.tick =
      processor.withTimers (Machine.countDown processor.machine.delay)
        (Machine.countDown processor.machine.sound)
        (0 < Machine.countDown processor.machine.sound) := rfl

variable {delay sound : Int} {beeping : Bool}

/-- Of a report, timers change nothing but the text that shows the state. -/
theorem unsupported_withTimers (v : processor.machine.v.size = 16)
    (flags : processor.machine.flags.size = 16) :
    (processor.withTimers delay sound beeping).unsupported.withoutState =
      processor.unsupported.withoutState := by
  have reported := report_of_full v flags unknownText
  have reported' :=
    @report_of_full (processor.withTimers delay sound beeping) v flags unknownText
  simp only [unsupported, reported, reported', Fault.withoutState]
  rfl

theorem execute_withTimers
    (wellFormed : processor.machine.WellFormed processor.arch processor.dialect)
    (wellFormed' : (processor.machine.withTimers delay sound beeping).WellFormed processor.arch
      processor.dialect)
    {opcode : Int} {word : Word} (spelled : Word.ofInt? opcode = some word)
    (timeless : ∀ instruction, word.decode processor.arch = .instruction instruction →
      ¬ instruction.Timed) :
    let timed := (processor.withTimers delay sound beeping).execute opcode
    timed.processor = (processor.execute opcode).processor.withTimers delay sound beeping ∧
      timed.result.mapError Fault.withoutState =
        (processor.execute opcode).result.mapError Fault.withoutState := by
  intro timed
  have unsupported := @unsupported_withTimers { processor with opcode } delay sound beeping
    wellFormed.v wellFormed.flags
  have announce (instruction : Instruction) :=
    exists_announce { processor with opcode } wellFormed.v instruction
  have announce' (instruction : Instruction) :=
    exists_announce { processor.withTimers delay sound beeping with opcode } wellFormed.v
      instruction
  rcases reading : word.decode processor.arch with instruction | instruction | _
  · obtain ⟨lines, announced⟩ := announce instruction
    obtain ⟨lines', announced'⟩ := announce' instruction
    have rolled : (processor.withTimers delay sound beeping).roll instruction =
        processor.roll instruction := by cases instruction <;> rfl
    have effect : (processor.withTimers delay sound beeping).machine.perform
          (processor.withTimers delay sound beeping).arch
          (processor.withTimers delay sound beeping).dialect
          (processor.roll instruction).1 instruction =
        ((processor.machine.perform processor.arch processor.dialect
          (processor.roll instruction).1 instruction).1.withTimers delay sound beeping, _) :=
      Machine.perform_withTimers (processor.roll instruction).1 (timeless instruction reading)
    rw [execute_of_instruction wellFormed spelled reading announced]
    simp only [timed]
    rw [@execute_of_instruction (processor.withTimers delay sound beeping) _ _ _ _ wellFormed'
      spelled reading announced', rolled, effect]
    exact ⟨rfl, rfl⟩
  · obtain ⟨lines, announced⟩ := announce instruction
    obtain ⟨lines', announced'⟩ := announce' instruction
    rw [execute_of_reserved spelled reading announced]
    simp only [timed]
    rw [@execute_of_reserved (processor.withTimers delay sound beeping) _ _ _ _ spelled reading
      announced']
    exact ⟨rfl, congrArg Except.error unsupported⟩
  · rw [execute_of_unknown spelled reading]
    simp only [timed]
    rw [@execute_of_unknown (processor.withTimers delay sound beeping) _ _ spelled reading]
    exact ⟨rfl, congrArg Except.error unsupported⟩

theorem step_withTimers
    (wellFormed : processor.machine.WellFormed processor.arch processor.dialect)
    (wellFormed' : (processor.machine.withTimers delay sound beeping).WellFormed processor.arch
      processor.dialect)
    (keyFrame : Bool) (timeless : ∀ word, processor.machine.Meets word → ¬ word.Timed) :
    let timed := (processor.withTimers delay sound beeping).step keyFrame
    timed.processor = (processor.step keyFrame).processor.withTimers delay sound beeping ∧
      timed.result.mapError Fault.withoutState =
        (processor.step keyFrame).result.mapError Fault.withoutState := by
  intro timed
  by_cases inside : processor.machine.pc + 2 ≤ processor.arch.memorySize
  · obtain ⟨word, meets⟩ := wellFormed.exists_meets inside
    have spared (instruction : Instruction)
        (reading : word.decode processor.arch = .instruction instruction) : ¬ instruction.Timed :=
      fun timed => timeless word meets (Word.timed_of_decode reading timed)
    have run : timed =
        ((processor.advance keyFrame).withTimers delay sound beeping).execute word.value.val :=
      @step_of_meets (processor.withTimers delay sound beeping) keyFrame _ meets
    rw [run, step_of_meets keyFrame meets]
    have advanced' :
        ((processor.advance keyFrame).machine.withTimers delay sound beeping).WellFormed
          processor.arch processor.dialect := wellFormed'.advance inside keyFrame
    exact @execute_withTimers (processor.advance keyFrame) delay sound beeping
      (wellFormed.advance inside keyFrame) advanced' _ word word.ofInt?_value spared
  · have outside : processor.arch.memorySize < processor.machine.pc + 2 := by omega
    have stayed : timed = _ :=
      @step_of_outside (processor.withTimers delay sound beeping) wellFormed' keyFrame outside
    rw [stayed, step_of_outside wellFormed keyFrame outside]
    exact ⟨rfl, rfl⟩

/-- A tick before a step whose instruction has nothing to do with timers may as well come after
it. -/
theorem step_tick (wellFormed : processor.machine.WellFormed processor.arch processor.dialect)
    (keyFrame : Bool) (timeless : ∀ word, processor.machine.Meets word → ¬ word.Timed) :
    (processor.tick.step keyFrame).processor = (processor.step keyFrame).processor.tick ∧
      (processor.tick.step keyFrame).result.mapError Fault.withoutState =
        (processor.step keyFrame).result.mapError Fault.withoutState := by
  have kept (timer : Timer) :
      timer.read (processor.step keyFrame).processor.machine = timer.read processor.machine := by
    have silent : timer.stored? processor.arch (.step keyFrame, processor.machine) = none := by
      rw [Timer.stored?, Option.map_eq_none_iff, Option.bind_eq_none_iff]
      intro instruction facing
      obtain ⟨word, meets, reading⟩ := Machine.facing?_eq_some_iff.mp facing
      have spared : ¬ instruction.Timed :=
        fun timed => timeless word meets (Word.timed_of_decode reading timed)
      rcases stores : timer.register? instruction with _ | x
      · rfl
      · exact absurd (Timer.timed_of_register? stores) spared
    rw [timer_step wellFormed keyFrame timer, silent, Option.getD_none]
  have delay_eq : (processor.step keyFrame).processor.machine.delay = processor.machine.delay :=
    kept .delay
  have sound_eq : (processor.step keyFrame).processor.machine.sound = processor.machine.sound :=
    kept .sound
  obtain ⟨after, result⟩ := step_withTimers wellFormed wellFormed.tick keyFrame timeless
  refine ⟨?_, result⟩
  rw [tick_eq_withTimers, tick_eq_withTimers, delay_eq, sound_eq]
  exact after

end Processor

end Chip8
