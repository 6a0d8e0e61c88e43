import Mathlib.Data.List.FinRange
import Mathlib.Data.List.Induction
import Mathlib.Order.Bounds.Basic
import Chip8.Proofs.Footprint
import Chip8.Proofs.Events
import Chip8.Proofs.Spelling

/-!
# Waiting for a key

A machine that waits for a key comes back to the waiting instruction at every step, and does nothing
else.  So however long it waits, it is as if only what happens between the steps had happened, but
for two marks that each step leaves.  The first step that finds a key takes the lowest one.
-/

namespace Chip8

namespace Event

/-- Whether a step is the first one of a frame. -/
def keyFrame? : Event → Option Bool
  | .step keyFrame => some keyFrame
  | .tick | .setKey _ _ => none

/-- The events of a run that are no steps. -/
def idle (events : List Event) : List Event :=
  events.filter fun event => event.keyFrame?.isNone

theorem keyFrame?_eq_none_of_idle {event : Event} (idle : ¬ event.IsStep) :
    event.keyFrame? = none := by
  cases event with
  | step keyFrame => exact absurd trivial idle
  | tick | setKey => rfl

theorem not_isStep_of_mem_idle {events : List Event} {event : Event}
    (member : event ∈ idle events) : ¬ event.IsStep := by
  have unmarked := (List.mem_filter.mp member).2
  cases event with
  | step keyFrame => cases unmarked
  | tick | setKey => exact id

end Event

namespace Machine

variable {arch : Arch} {dialect : Dialect} {machine : Machine}

theorem lowestKey?_eq_none_iff :
    machine.lowestKey? = none ↔ ∀ key, machine.keys.get key = false := by
  simp [lowestKey?]

theorem lowestKey?_eq_some_iff {key : Digit} :
    machine.lowestKey? = some key ↔ IsLeast {key | machine.keys.get key = true} key := by
  rw [lowestKey?, List.find?_eq_some_iff_getElem]
  constructor
  · rintro ⟨held, place, inside, rfl, before⟩
    refine ⟨held, fun other other_held => ?_⟩
    by_contra lower
    have released := before other (by simpa [Fin.lt_def] using lower)
    rw [List.getElem_finRange, Fin.cast_mk, Fin.eta, other_held] at released
    cases released
  · rintro ⟨held, least⟩
    refine ⟨held, key.val, by simp, by simp, fun place lower => ?_⟩
    rw [List.getElem_finRange, Bool.not_eq_true']
    refine Bool.eq_false_iff.mpr fun other_held => ?_
    exact absurd (least other_held) (by simpa [Fin.lt_def] using lower)

theorem exists_isLeast_of_held (held : ∃ key, machine.keys.get key = true) :
    ∃ key, IsLeast {key | machine.keys.get key = true} key := by
  rcases found : machine.lowestKey? with _ | key
  · obtain ⟨key, held⟩ := held
    rw [lowestKey?_eq_none_iff.mp found key] at held
    cases held
  · exact ⟨key, lowestKey?_eq_some_iff.mp found⟩

/-- The machine that has come back to the instruction at its program counter. -/
def linger (keyFrame : Bool) (machine : Machine) : Machine :=
  { machine with
    keyFrame
    nextWide := Processor.startsWide machine.memory (machine.pc + 2) }

/-- The machine that has come back, if it has ever left, last in a step of this kind. -/
def lingered : Option Bool → Machine → Machine
  | none, machine => machine
  | some keyFrame, machine => machine.linger keyFrame

theorem again_advance_eq_linger (keyFrame : Bool) (machine : Machine) :
    (machine.advance keyFrame).again = machine.linger keyFrame := by
  rw [again, advance_pc, Int.add_sub_cancel]
  rfl

theorem linger_lingered (keyFrame : Bool) (marked : Option Bool) (machine : Machine) :
    (machine.lingered marked).linger keyFrame = machine.linger keyFrame := by
  cases marked <;> rfl

theorem facing?_lingered (arch : Arch) (marked : Option Bool) (machine : Machine) :
    (machine.lingered marked).facing? arch = machine.facing? arch := by
  cases marked <;> rfl

end Machine

namespace Processor

variable {arch : Arch} {dialect : Dialect} {processor : Processor} {x : Digit}

/-! ## One step -/

section Step

variable (wellFormed : processor.machine.WellFormed processor.arch processor.dialect)
  (facing : processor.facing? = some (.awaitKey x)) (keyFrame : Bool)

include wellFormed facing

/-- A step that finds no key comes back. -/
theorem step_of_no_key (released : ∀ key, processor.machine.keys.get key = false) :
    (processor.step keyFrame).result = .ok () ∧
      (processor.step keyFrame).processor.machine = processor.machine.linger keyFrame := by
  have none_held : (processor.machine.advance keyFrame).lowestKey? = none :=
    Machine.lowestKey?_eq_none_iff.mpr released
  obtain ⟨result, machine_eq⟩ := step_of_accepted wellFormed keyFrame facing rfl
  refine ⟨result, machine_eq.trans ?_⟩
  rw [Machine.perform, none_held, ← Machine.again_advance_eq_linger]
  rfl

/-- A step that finds a key takes the lowest one and goes on. -/
theorem step_of_key {key : Digit}
    (lowest : IsLeast {key | processor.machine.keys.get key = true} key) :
    ∃ v nextWide, (processor.step keyFrame).result = .ok () ∧
      (processor.step keyFrame).processor.machine =
        { processor.machine with keyFrame, v, pc := processor.machine.pc + 2, nextWide } ∧
      (v.read x).toNat = key ∧ ∀ r ≠ x, v.read r = processor.machine.v.read r := by
  have found : (processor.machine.advance keyFrame).lowestKey? = some key :=
    Machine.lowestKey?_eq_some_iff.mpr lowest
  have key_lt : key.val < 2 ^ 8 := key.isLt.trans (by decide)
  obtain ⟨result, machine_eq⟩ := step_of_accepted wellFormed keyFrame facing rfl
  rw [Machine.perform, found] at machine_eq
  refine ⟨_, _, result, machine_eq, ?_, fun r other => Registers.read_write_of_ne _ other _⟩
  rw [Machine.advance, Registers.read_write_self wellFormed.v, UInt8.toNat_ofNat_of_lt' key_lt]

end Step

/-- What happens between steps does so whether or not a machine has come back. -/
theorem machine_happen_of_lingered {other : Processor} {marked : Option Bool} {event : Event}
    (idle : ¬ event.IsStep) (same : other.machine = processor.machine.lingered marked) :
    (other.happen event).processor.machine =
      (processor.happen event).processor.machine.lingered marked := by
  cases event with
  | step keyFrame => exact absurd trivial idle
  | tick =>
      simp only [happen, tick, same]
      cases marked <;> rfl
  | setKey key held =>
      by_cases exists_key : 0 ≤ key ∧ key < 16
      · simp only [happen, setKey, Machine.setKey, dif_pos exists_key, same]
        cases marked <;> rfl
      · simp only [happen, setKey, Machine.setKey, dif_neg exists_key]
        exact same

/-- A step moves no key. -/
theorem Reachable.keys_step (reachable : processor.Reachable arch dialect) (keyFrame : Bool) :
    (processor.step keyFrame).processor.machine.keys = processor.machine.keys := by
  have wellFormed := reachable.wellFormed
  obtain rfl := reachable.arch_eq
  obtain rfl := reachable.dialect_eq
  rcases step_cases_facing wellFormed keyFrame with
    ⟨_, _, _, -, machine_eq⟩ | ⟨instruction, facing, accepted, -, machine_eq⟩
  · rw [machine_eq]
  · obtain ⟨word, meets, -⟩ := Machine.facing?_eq_some_iff.mp facing
    have advanced := wellFormed.advance (wellFormed.inside_of_meets meets) keyFrame
    rw [machine_eq]
    exact (advanced.confined_perform _ accepted).keys

/-- When no key is held, letting go of one changes nothing about that. -/
theorem released_happen_release (released : ∀ key, processor.machine.keys.get key = false)
    (key : Int) (other : Digit) :
    (processor.happen (.setKey key false)).processor.machine.keys.get other = false := by
  by_cases exists_key : 0 ≤ key ∧ key < 16
  · simp only [happen, setKey, Machine.setKey, dif_pos exists_key]
    have inside : key.toNat < 16 := by omega
    show (processor.machine.keys.set key.toNat false inside)[other.val] = false
    rw [Vector.getElem_set]
    split
    exacts [rfl, released other]
  · simp only [happen, setKey, Machine.setKey, dif_neg exists_key]
    exact released other

/-! ## Runs -/

/-- No step of a run finds a key held. -/
def Unanswered (processor : Processor) (events : List Event) : Prop :=
  ∀ earlier keyFrame, earlier ++ [.step keyFrame] <+: events →
    ∀ key, (processor.play earlier).machine.keys.get key = false

theorem Unanswered.of_prefix {events earlier : List Event}
    (unanswered : processor.Unanswered events) (before : earlier <+: events) :
    processor.Unanswered earlier :=
  fun first keyFrame within => unanswered first keyFrame (within.trans before)

/-- What happens after the last step of a run answers no step of it. -/
theorem Unanswered.concat {events : List Event} {last : Event}
    (unanswered : processor.Unanswered events) (idle : ¬ last.IsStep) :
    processor.Unanswered (events ++ [last]) := by
  intro earlier keyFrame within
  rcases List.prefix_concat_iff.mp within with whole | before
  · have same : Event.step keyFrame = last := (List.append_inj' whole rfl).2 |> List.cons.inj |>.1
    exact absurd (same ▸ trivial) idle
  · exact unanswered earlier keyFrame before

/-- With no key held at first, a run in which none goes down is never answered. -/
theorem Reachable.unanswered_of_released (reachable : processor.Reachable arch dialect)
    (released : ∀ key, processor.machine.keys.get key = false) {events : List Event}
    (unpressed : ∀ key, Event.setKey key true ∉ events) : processor.Unanswered events := by
  intro earlier keyFrame within
  have early {key : Int} : Event.setKey key true ∉ earlier := fun member =>
    unpressed key (within.subset (List.mem_append_left _ member))
  clear within
  induction earlier using List.reverseRecOn with
  | nil => exact released
  | append_singleton earlier last induction =>
      have before := induction fun member => early (List.mem_append_left _ member)
      have last_ne {key : Int} : last ≠ .setKey key true := fun same =>
        early (List.mem_append_right _ (List.mem_singleton.mpr same.symm))
      intro key
      rw [play_concat]
      cases last with
      | step keyFrame =>
          have unmoved := (reachable.play earlier).keys_step keyFrame
          exact (congrArg (·.get key) unmoved).trans (before key)
      | tick => exact before key
      | setKey other held =>
          cases held with
          | true => exact (last_ne rfl).elim
          | false => exact released_happen_release before other key

theorem machine_play_idle (processor : Processor) (events : List Event) :
    ∃ delay sound beeping keys, (processor.play (Event.idle events)).machine =
      { processor.machine with delay, sound, beeping, keys } := by
  obtain ⟨delay, sound, beeping, keys, played⟩ :=
    @exists_play_eq processor _ fun _ => Event.not_isStep_of_mem_idle
  exact ⟨delay, sound, beeping, keys, congrArg Processor.machine played⟩

namespace Reachable

/-- A machine that keeps coming back faces the same instruction. -/
theorem facing?_of_lingered (reachable : processor.Reachable arch dialect) {events : List Event}
    {marked : Option Bool} (played : (processor.play events).machine =
      (processor.play (Event.idle events)).machine.lingered marked) :
    (processor.play events).facing? = processor.facing? := by
  obtain ⟨delay, sound, beeping, keys, alone⟩ := processor.machine_play_idle events
  rw [facing?, (reachable.play events).arch_eq, played, Machine.facing?_lingered, alone, facing?,
    reachable.arch_eq]
  rfl

/-- While no key is found, only what happens between the steps matters. -/
theorem machine_play_of_unanswered (reachable : processor.Reachable arch dialect)
    (facing : processor.facing? = some (.awaitKey x)) {events : List Event}
    (unanswered : processor.Unanswered events) :
    (processor.play events).machine =
      (processor.play (Event.idle events)).machine.lingered
        (events.filterMap Event.keyFrame?).getLast? := by
  induction events using List.reverseRecOn with
  | nil => rfl
  | append_singleton events last induction =>
      have before := induction (unanswered.of_prefix (List.prefix_append events [last]))
      by_cases idle : ¬ last.IsStep
      · have unmarked := Event.keyFrame?_eq_none_of_idle idle
        have alone : Event.idle (events ++ [last]) = Event.idle events ++ [last] := by
          simp [Event.idle, unmarked]
        have marked : (events ++ [last]).filterMap Event.keyFrame? =
            events.filterMap Event.keyFrame? := by
          simp [unmarked]
        rw [play_concat, alone, marked, play_concat, machine_happen_of_lingered idle before]
      · cases last with
        | tick | setKey => exact absurd id idle
        | step keyFrame =>
            have alone : Event.idle (events ++ [.step keyFrame]) = Event.idle events := by
              simp [Event.idle, Event.keyFrame?]
            have marked : ((events ++ [Event.step keyFrame]).filterMap Event.keyFrame?).getLast? =
                some keyFrame := by
              simp [Event.keyFrame?]
            have wellFormed := (reachable.play events).wellFormed_self
            have faced := (reachable.facing?_of_lingered before).trans facing
            have released := unanswered events keyFrame List.prefix_rfl
            have lingers := (step_of_no_key wellFormed faced keyFrame released).2
            rw [before, Machine.linger_lingered] at lingers
            rw [play_concat, alone, marked]
            exact lingers

section Unanswered

variable (reachable : processor.Reachable arch dialect)
  (facing : processor.facing? = some (.awaitKey x)) {events : List Event}
  (unanswered : processor.Unanswered events)

include reachable facing unanswered

theorem facing?_of_unanswered : (processor.play events).facing? = some (.awaitKey x) :=
  (reachable.facing?_of_lingered (reachable.machine_play_of_unanswered facing unanswered)).trans
    facing

/-- Whatever else happens during a wait, only timers, buzzer, keys and marks change. -/
theorem exists_waiting_eq :
    ∃ delay sound beeping keys keyFrame nextWide, (processor.play events).machine =
      { processor.machine with delay, sound, beeping, keys, keyFrame, nextWide } := by
  obtain ⟨delay, sound, beeping, keys, alone⟩ := processor.machine_play_idle events
  rw [reachable.machine_play_of_unanswered facing unanswered, alone]
  rcases (events.filterMap Event.keyFrame?).getLast? with _ | _ <;>
    exact ⟨_, _, _, _, _, _, rfl⟩

end Unanswered

/-- Waiting for a key is a busy wait.  As long as no step finds a key, every step succeeds, and the
machine is the one that would be there without the steps, except for the marks of the last of them:
nothing but timers, buzzer and keys has moved.  The first step that finds keys puts the lowest of
them into Vx and goes on behind the instruction. -/
theorem key_awaited (reachable : processor.Reachable arch dialect)
    (spelled : processor.machine.memory.word? processor.machine.pc = some (0xF00A + x.val * 0x100))
    {events : List Event} (unanswered : processor.Unanswered events) :
    let machine := processor.machine
    let waiting := processor.play events
    let alone := (processor.play (Event.idle events)).machine
    (∀ earlier keyFrame, earlier ++ [.step keyFrame] <+: events →
      ((processor.play earlier).step keyFrame).result = .ok ()) ∧
    (waiting.machine =
      match (events.filterMap Event.keyFrame?).getLast? with
      | none => alone
      | some keyFrame =>
          { alone with
            keyFrame
            nextWide := decide (machine.memory.word? (machine.pc + 2) = some 0xF000) }) ∧
    (∃ delay sound beeping keys keyFrame nextWide, waiting.machine =
      { machine with delay, sound, beeping, keys, keyFrame, nextWide }) ∧
    ((∃ key, waiting.machine.keys.get key = true) → ∀ keyFrame,
      ∃ key v nextWide, IsLeast {key | waiting.machine.keys.get key = true} key ∧
        (waiting.step keyFrame).result = .ok () ∧
        (waiting.step keyFrame).processor.machine =
          { waiting.machine with keyFrame, v, pc := machine.pc + 2, nextWide } ∧
        (v.read x).toNat = key ∧ ∀ r ≠ x, v.read r = machine.v.read r) := by
  intro machine waiting alone
  have wellFormed := reachable.wellFormed
  obtain ⟨word, value_eq, meets⟩ := wellFormed.exists_meets_of_word? spelled
  have facing : processor.facing? = some (.awaitKey x) :=
    Machine.facing?_eq_some_iff.mpr ⟨word, meets, Word.decode_of_awaitKey value_eq⟩
  have waiting_eq := reachable.exists_waiting_eq facing unanswered
  refine ⟨fun earlier keyFrame within => ?_, ?_, waiting_eq, fun held keyFrame => ?_⟩
  · have before := unanswered.of_prefix ((List.prefix_append earlier _).trans within)
    exact (step_of_no_key (reachable.play earlier).wellFormed_self
      (reachable.facing?_of_unanswered facing before) keyFrame
      (unanswered earlier keyFrame within)).1
  · have ahead : startsWide machine.memory (machine.pc + 2) =
        decide (machine.memory.word? (machine.pc + 2) = some 0xF000) := by
      rw [Bool.eq_iff_iff, wellFormed.startsWide_ahead_iff, decide_eq_true_eq]
    obtain ⟨delay, sound, beeping, keys, alone_eq⟩ := processor.machine_play_idle events
    rw [← ahead, show waiting.machine = _ from
      reachable.machine_play_of_unanswered facing unanswered]
    rcases (events.filterMap Event.keyFrame?).getLast? with _ | keyFrame
    · rfl
    · simp only [Machine.lingered, Machine.linger, alone, alone_eq, machine]
  · obtain ⟨key, lowest⟩ := Machine.exists_isLeast_of_held held
    obtain ⟨v, nextWide, result, machine_eq, taken, others⟩ :=
      step_of_key (reachable.play events).wellFormed_self
        (reachable.facing?_of_unanswered facing unanswered) keyFrame lowest
    obtain ⟨v_eq, pc_eq⟩ : waiting.machine.v = machine.v ∧ waiting.machine.pc = machine.pc := by
      obtain ⟨_, _, _, _, _, _, unmoved⟩ := waiting_eq
      rw [unmoved]
      exact ⟨rfl, rfl⟩
    exact ⟨key, v, nextWide, lowest, result, pc_eq ▸ machine_eq, taken, v_eq ▸ others⟩

/-- Two steps and a tick at a wait for a key, and then two keys going down. -/
theorem key_awaited_then_lowest_taken :
    let processor := ((Bench.start .chip8 (.standard .chip8) false []).run
      [.load #[0xF3, 0x0A]]).processor
    let waiting := processor.play
      [.step true, .tick, .step false, .setKey 9 true, .setKey 5 true]
    processor.Reachable .chip8 (.standard .chip8) ∧
      processor.machine.memory.word? processor.machine.pc = some 0xF30A ∧
      processor.Unanswered [.step true, .tick, .step false, .setKey 9 true, .setKey 5 true] ∧
      waiting.machine.pc = 0x200 ∧
      (waiting.step false).result = .ok () ∧
      (waiting.step false).processor.machine.pc = 0x202 ∧
      ((waiting.step false).processor.machine.v.read 3).toNat = 5 := by
  have fits : Machine.programStart + (#[0xF3, 0x0A] : Array UInt8).size ≤
    Arch.chip8.memorySize := by decide
  have reachable : ((Bench.start .chip8 (.standard .chip8) false []).run
      [.load #[0xF3, 0x0A]]).processor.Reachable .chip8 (.standard .chip8) := ⟨false, [], _, rfl⟩
  rw [Bench.processor_run_load .chip8 (.standard .chip8) false [] fits] at reachable ⊢
  intro processor waiting
  have spelled : processor.machine.memory.word? processor.machine.pc = some (0xF00A + 3 * 0x100) :=
    @Memory.word?_patch _ _ (Machine.wellFormed_powerOn .chip8 (.standard .chip8)).memory _ 0 _
      (by decide) fits
  have released (key : Digit) : processor.machine.keys.get key = false :=
    Vector.getElem_replicate key.isLt
  have quiet : processor.Unanswered [.step true, .tick, .step false] :=
    reachable.unanswered_of_released released (by simp)
  have unanswered :
      processor.Unanswered [.step true, .tick, .step false, .setKey 9 true, .setKey 5 true] :=
    (quiet.concat id).concat id
  obtain ⟨-, waiting_eq, -, taken⟩ := @key_awaited _ _ processor 3 reachable spelled _ unanswered
  have held : waiting.machine.keys =
      ((Vector.replicate 16 false).set 9 true (by decide)).set 5 true (by decide) :=
    congrArg Machine.keys waiting_eq
  have pc : waiting.machine.pc = 0x200 := congrArg Machine.pc waiting_eq
  obtain ⟨key, v, nextWide, least, result, machine_eq, taken, -⟩ :=
    taken ⟨5, by rw [held]; rfl⟩ false
  have lowest : key = 5 := by
    have fifth : ∀ other : Digit, (((Vector.replicate 16 false).set 9 true (by decide)).set 5 true
        (by decide)).get other = true → 5 ≤ other := by decide
    rw [held] at least
    exact least.unique ⟨rfl, fun other => fifth other⟩
  rw [machine_eq]
  exact ⟨reachable, spelled, unanswered, pc, result, rfl, by rw [taken, lowest]; rfl⟩

end Reachable

end Processor

end Chip8
