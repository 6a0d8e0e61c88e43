import Chip8.Proofs.Events
import Chip8.Proofs.Footprint

/-!
# Nesting of calls and returns

Only calls and returns touch the stack, each by one entry at its top.  A run that never drops below
the return address of a call therefore keeps that address and all below it, and the return that
finally takes it leads behind the call.
-/

namespace Chip8

/-- The addresses from which outstanding calls will go on, oldest first. -/
def Machine.calls (machine : Machine) : List Int := machine.stack.toList

namespace Processor

variable {arch : Arch} {dialect : Dialect} {processor : Processor}

/-! ## One step -/

section Step

variable (wellFormed : processor.machine.WellFormed processor.arch processor.dialect)
  (keyFrame : Bool)

include wellFormed

/-- A call with room on the stack leaves the address behind it there. -/
theorem step_of_call {address : Fin 0x1000} (facing : processor.facing? = some (.call address))
    (room : processor.machine.calls.length < Machine.stackCapacity) :
    (processor.step keyFrame).result = .ok () ∧
      (processor.step keyFrame).processor.machine.pc = address.val ∧
      (processor.step keyFrame).processor.machine.calls =
        processor.machine.calls ++ [processor.machine.pc + 2] := by
  rw [Machine.calls, wellFormed.stack.length_toList] at room
  obtain ⟨stack, pushed, -, items⟩ : ∃ stack,
      (processor.machine.advance keyFrame).stack.push (processor.machine.advance keyFrame).pc =
        .ok stack ∧ stack.Within Machine.stackCapacity ∧
      stack.toList = processor.machine.calls ++ [processor.machine.pc + 2] :=
    wellFormed.stack.push _ room
  have accepted : (processor.machine.advance keyFrame).refusal? processor.arch processor.dialect
      (.call address) = none := by
    rw [Machine.refusal?_call]
    exact if_neg (Nat.ne_of_lt room)
  obtain ⟨result, machine_eq⟩ := step_of_accepted wellFormed keyFrame facing accepted
  rw [machine_eq, Machine.perform_call pushed]
  exact ⟨result, rfl, items⟩

theorem step_of_call_full {address : Fin 0x1000}
    (facing : processor.facing? = some (.call address))
    (full : Machine.stackCapacity ≤ processor.machine.calls.length) :
    (processor.step keyFrame).result = .error .stackOverflow ∧
      (processor.step keyFrame).processor.machine.stack = processor.machine.stack := by
  rw [Machine.calls, wellFormed.stack.length_toList] at full
  have refused : (processor.machine.advance keyFrame).refusal? processor.arch processor.dialect
      (.call address) = some .stackOverflow := by
    rw [Machine.refusal?_call]
    exact if_pos (Nat.le_antisymm wellFormed.stack.depth_le full)
  obtain ⟨result, machine_eq⟩ := step_of_refused wellFormed keyFrame facing refused
  rw [machine_eq]
  exact ⟨result, rfl⟩

/-- A return takes the newest address from the stack and goes on there. -/
theorem step_of_return (facing : processor.facing? = some .ret) {older : List Int} {newest : Int}
    (calls : processor.machine.calls = older ++ [newest]) :
    (processor.step keyFrame).result = .ok () ∧
      (processor.step keyFrame).processor.machine.pc = newest ∧
      (processor.step keyFrame).processor.machine.calls = older := by
  have used : 0 < processor.machine.stack.depth := by
    rw [← wellFormed.stack.length_toList, ← Machine.calls, calls]
    simp
  obtain ⟨pc, stack, popped, -, items⟩ : ∃ pc stack,
      (processor.machine.advance keyFrame).stack.pop = .ok (pc, stack) ∧
      stack.Within Machine.stackCapacity ∧ processor.machine.calls = stack.toList ++ [pc] :=
    wellFormed.stack.pop used
  obtain ⟨rfl, rfl⟩ : older = stack.toList ∧ newest = pc := by
    simpa using calls.symm.trans items
  have accepted : (processor.machine.advance keyFrame).refusal? processor.arch processor.dialect
      .ret = none := by
    rw [Machine.refusal?_ret]
    exact if_neg (Nat.ne_of_gt used)
  obtain ⟨result, machine_eq⟩ := step_of_accepted wellFormed keyFrame facing accepted
  rw [machine_eq, Machine.perform_ret popped]
  exact ⟨result, rfl, rfl⟩

theorem step_of_return_empty (facing : processor.facing? = some .ret)
    (empty : processor.machine.calls = []) :
    (processor.step keyFrame).result = .error .stackUnderflow ∧
      (processor.step keyFrame).processor.machine.stack = processor.machine.stack := by
  have unused : processor.machine.stack.depth = 0 := by
    rw [← wellFormed.stack.length_toList, ← Machine.calls, empty]
    rfl
  have refused : (processor.machine.advance keyFrame).refusal? processor.arch processor.dialect
      .ret = some .stackUnderflow := by
    rw [Machine.refusal?_ret]
    exact if_pos unused
  obtain ⟨result, machine_eq⟩ := step_of_refused wellFormed keyFrame facing refused
  rw [machine_eq]
  exact ⟨result, rfl⟩

/-- A step leaves the stack alone, adds an entry on top or takes the topmost one. -/
theorem calls_step :
    (processor.step keyFrame).processor.machine.calls = processor.machine.calls ∨
    (∃ address, (processor.step keyFrame).processor.machine.calls =
      processor.machine.calls ++ [address]) ∨
    ∃ address, processor.machine.calls =
      (processor.step keyFrame).processor.machine.calls ++ [address] := by
  rcases step_cases_facing wellFormed keyFrame with
    ⟨fault, pc, nextWide, -, machine_eq⟩ | ⟨instruction, facing, accepted, -, machine_eq⟩
  · rw [machine_eq]
    exact Or.inl rfl
  · by_cases same :
      (processor.step keyFrame).processor.machine.stack = processor.machine.stack
    · exact Or.inl (congrArg BoundedStack.toList same)
    · obtain ⟨word, meets, -⟩ := Machine.facing?_eq_some_iff.mp facing
      have advanced := wellFormed.advance (wellFormed.inside_of_meets meets) keyFrame
      have confined := advanced.confined_perform (processor.roll instruction).1 accepted
      rw [← machine_eq] at confined
      rcases confined.stack same with rfl | ⟨address, rfl⟩
      · right
        right
        have used := Machine.used_of_accepted accepted
        obtain ⟨pc, stack, -, -, items⟩ := wellFormed.stack.pop used
        obtain ⟨-, -, calls⟩ := step_of_return wellFormed keyFrame facing items
        exact ⟨pc, by rw [calls]; exact items⟩
      · right
        left
        have room := advanced.room_of_accepted accepted
        obtain ⟨-, -, calls⟩ := step_of_call wellFormed keyFrame facing
          (by rw [Machine.calls, wellFormed.stack.length_toList]; exact room)
        exact ⟨_, calls⟩

end Step

/-! ## Runs -/

/-- Entries at the bottom of the stack stay there if it does not drop below them. -/
theorem bottom_happen (wellFormed : processor.machine.WellFormed processor.arch processor.dialect)
    (event : Event) {bottom : List Int} (kept : bottom <+: processor.machine.calls)
    (above : bottom.length ≤ (processor.happen event).processor.machine.calls.length) :
    bottom <+: (processor.happen event).processor.machine.calls := by
  by_cases idle : event.IsStep
  · cases event with
    | tick | setKey => cases idle
    | step keyFrame =>
        rcases calls_step wellFormed keyFrame with same | ⟨address, pushed⟩ | ⟨address, popped⟩
        · rw [happen, same]
          exact kept
        · rw [happen, pushed]
          exact kept.trans (List.prefix_append _ _)
        · rw [popped] at kept
          exact List.prefix_of_prefix_length_le kept (List.prefix_append _ _) above
  · obtain ⟨delay, sound, beeping, keys, after⟩ := exists_happen_eq idle
    rw [after]
    exact kept

namespace Reachable

theorem bottom_play (reachable : processor.Reachable arch dialect) {events : List Event}
    {bottom : List Int} (kept : bottom <+: processor.machine.calls)
    (above : ∀ earlier, earlier <+: events →
      bottom.length ≤ (processor.play earlier).machine.calls.length) :
    bottom <+: (processor.play events).machine.calls := by
  -- A step that would take an entry of the bottom leaves too few of them, against `above`.
  induction events generalizing processor with
  | nil => exact kept
  | cons event rest induction =>
      have wellFormed := reachable.wellFormed
      obtain rfl := reachable.arch_eq
      obtain rfl := reachable.dialect_eq
      have first := above [event] (List.prefix_append [event] rest)
      refine induction (reachable.happen event) (bottom_happen wellFormed event kept first) ?_
      intro earlier before
      exact above (event :: earlier) ((List.prefix_cons_inj event).mpr before)

/-- Calls and returns are nested.  A call with room on the stack leaves the address behind it there;
the return that finds this address on top again, after a run that never dropped below it, goes on
there with the stack as it was before the call.  A call too many and a return too many fail and
leave the stack alone. -/
theorem calls_nested (reachable : processor.Reachable arch dialect) (keyFrame : Bool) :
    let before := processor.machine.calls
    let called := (processor.step keyFrame).processor
    (∀ address, processor.facing? = some (.call address) →
      (before.length < 16 → (processor.step keyFrame).result = .ok () ∧
        called.machine.pc = address.val ∧
        called.machine.calls = before ++ [processor.machine.pc + 2]) ∧
      (16 ≤ before.length → (processor.step keyFrame).result = .error .stackOverflow ∧
        called.machine.stack = processor.machine.stack) ∧
      ∀ events keyFrame',
        (∀ earlier, earlier <+: events →
          before.length + 1 ≤ (called.play earlier).machine.calls.length) →
        (called.play events).machine.calls.length = before.length + 1 →
        (called.play events).facing? = some .ret →
          let returned := (called.play events).step keyFrame'
          returned.result = .ok () ∧
            returned.processor.machine.pc = processor.machine.pc + 2 ∧
            returned.processor.machine.calls = before) ∧
    (processor.facing? = some .ret → before = [] →
      (processor.step keyFrame).result = .error .stackUnderflow ∧
        called.machine.stack = processor.machine.stack) := by
  intro before called
  have wellFormed := reachable.wellFormed
  obtain rfl := reachable.arch_eq
  obtain rfl := reachable.dialect_eq
  refine ⟨fun address facing => ⟨?_, ?_, ?_⟩, ?_⟩
  · exact step_of_call wellFormed keyFrame facing
  · exact step_of_call_full wellFormed keyFrame facing
  · intro events keyFrame' above depth facing'
    have called_reachable := reachable.happen (.step keyFrame)
    -- Nothing was left on a full stack, so that the run shows that there was room.
    have room : before.length < 16 := by
      by_contra full
      obtain ⟨-, same⟩ := step_of_call_full wellFormed keyFrame facing (Nat.le_of_not_lt full)
      have first : before.length + 1 ≤ called.machine.calls.length := above [] List.nil_prefix
      rw [Machine.calls, same] at first
      exact absurd first (Nat.not_succ_le_self _)
    obtain ⟨-, -, calls⟩ := step_of_call wellFormed keyFrame facing room
    have length : (before ++ [processor.machine.pc + 2]).length = before.length + 1 := by simp
    have kept : before ++ [processor.machine.pc + 2] <+: called.machine.calls :=
      ⟨[], (List.append_nil _).trans calls.symm⟩
    have bottom : before ++ [processor.machine.pc + 2] <+: (called.play events).machine.calls :=
      called_reachable.bottom_play kept fun earlier earlier_prefix => by
        rw [length]
        exact above earlier earlier_prefix
    have returned := called_reachable.play events
    have top := bottom.eq_of_length (length.trans depth.symm)
    have returned_wellFormed := returned.wellFormed
    rw [← returned.arch_eq, ← returned.dialect_eq] at returned_wellFormed
    exact step_of_return returned_wellFormed keyFrame' facing' top.symm
  · exact step_of_return_empty wellFormed keyFrame

/-- A call of a lone return, with a tick in between. -/
theorem calls_nested_around_tick :
    let processor := ((Bench.start .chip8 (.standard .chip8) false []).run
      [.load #[0x22, 0x04, 0x00, 0x00, 0x00, 0xEE]]).processor
    processor.Reachable .chip8 (.standard .chip8) ∧
      processor.facing? = some (.call 0x204) ∧
      ∃ called, (processor.step true).processor = called ∧
        (called.play [.tick]).facing? = some .ret ∧
        ((called.play [.tick]).step false).result = .ok () ∧
        ((called.play [.tick]).step false).processor.machine.pc = 0x202 ∧
        ((called.play [.tick]).step false).processor.machine.calls = [] := by
  have fits : Machine.programStart + (#[0x22, 0x04, 0x00, 0x00, 0x00, 0xEE] : Array UInt8).size ≤
    Arch.chip8.memorySize := by decide
  have reachable : ((Bench.start .chip8 (.standard .chip8) false []).run
      [.load #[0x22, 0x04, 0x00, 0x00, 0x00, 0xEE]]).processor.Reachable .chip8
        (.standard .chip8) := ⟨false, [], _, rfl⟩
  have sized := (Machine.wellFormed_powerOn .chip8 (.standard .chip8)).memory
  have wellFormed := reachable.wellFormed
  rw [Bench.processor_run_load .chip8 (.standard .chip8) false [] fits] at reachable wellFormed ⊢
  intro processor
  have facing : processor.facing? = some (.call 0x204) :=
    @facing?_of_patch _ _ _ 0 _ ⟨0x2204⟩ _ sized rfl rfl (by decide) fits rfl rfl
  obtain ⟨-, -, returns⟩ := (@calls_nested _ _ processor reachable true).1 0x204 facing
  have called_reachable : (processor.step true).processor.Reachable .chip8 (.standard .chip8) :=
    reachable.happen (.step true)
  have machine_eq : (processor.step true).processor.machine =
      ((processor.machine.advance true).perform .chip8 (.standard .chip8) 0 (.call 0x204)).1 :=
    (step_of_accepted wellFormed true facing rfl).2
  obtain ⟨called, called_eq⟩ : ∃ called, (processor.step true).processor = called := ⟨_, rfl⟩
  rw [called_eq] at returns called_reachable machine_eq
  have calls : called.machine.calls = [0x202] := by
    rw [machine_eq]
    rfl
  have memory : called.machine.memory = (Machine.powerOn .chip8 (.standard .chip8)).memory.patch
      Machine.programStart #[0x22, 0x04, 0x00, 0x00, 0x00, 0xEE] := by
    rw [machine_eq]
    rfl
  have pc : called.machine.pc = 0x204 := by
    rw [machine_eq]
    rfl
  have facing' : (called.play [.tick]).facing? = some .ret :=
    @facing?_of_patch _ _ _ 4 _ ⟨0x00EE⟩ _ sized memory pc (by decide) fits rfl
      (by rw [(called_reachable.play [.tick]).arch_eq]; rfl)
  have depth (earlier : List Event) (before : earlier <+: [.tick]) :
      (called.play earlier).machine.calls.length = 1 := by
    rcases List.prefix_cons_iff.mp before with rfl | ⟨rest, rfl, nothing⟩
    · exact congrArg List.length calls
    · rw [List.prefix_nil.mp nothing]
      exact congrArg List.length calls
  exact ⟨reachable, facing, called, called_eq, facing', returns [.tick] false
    (fun earlier before => (depth earlier before).ge) (depth [.tick] List.prefix_rfl) facing'⟩

end Reachable

end Processor

end Chip8
