import Chip8.Proofs.Events

/-!
# Drawing once a frame

In a dialect that waits for the frame, a drawing instruction that is met after the first step of a
frame is put off: the machine comes back to it, and for the rest of the frame nothing else happens.
The first step of the next frame carries it out as it was met.  Over any number of frames, the
drawings that were met are those that were carried out, in the same order, and the one that is still
put off.
-/

namespace Chip8

/-- The steps of a frame, of which only the first one opens it. -/
def Event.frame : Nat → List Event
  | 0 => []
  | rest + 1 => .step true :: List.replicate rest (.step false)

theorem Event.frame_add {first : Nat} (opened : 0 < first) (more : Nat) :
    frame (first + more) = frame first ++ List.replicate more (.step false) := by
  obtain ⟨rest, rfl⟩ := Nat.exists_eq_add_one_of_ne_zero (Nat.ne_of_gt opened)
  rw [Nat.add_right_comm, frame, frame, List.replicate_add, List.cons_append]

/-- A drawing instruction and all that its effect depends on. -/
structure Drawing where
  /-- Column register. -/
  x : Digit
  /-- Row register. -/
  y : Digit
  /-- Number of rows asked for. -/
  rows : Digit
  /-- Address of the instruction. -/
  place : Int
  /-- General registers. -/
  v : Registers
  /-- The index register. -/
  index : Int
  /-- Main memory. -/
  memory : Memory
  /-- The display. -/
  screen : Screen
  /-- Whether high resolution is chosen. -/
  highRes : Bool

namespace Machine

variable {arch : Arch} {dialect : Dialect} {machine : Machine} {x y rows : Digit}

/-- The machine that has come back to the instruction at its program counter within a frame. -/
def putOff (machine : Machine) : Machine :=
  { machine with
    keyFrame := false
    nextWide := Processor.startsWide machine.memory (machine.pc + 2) }

@[simp]
theorem putOff_putOff (machine : Machine) : machine.putOff.putOff = machine.putOff := rfl

theorem again_advance (machine : Machine) : (machine.advance false).again = machine.putOff := by
  have back : machine.pc + 2 - 2 = machine.pc := Int.add_sub_cancel _ _
  rw [again, advance_pc, back]
  rfl

/-- The drawing at the program counter, if there is one. -/
def drawing? (arch : Arch) (machine : Machine) : Option Drawing :=
  match machine.facing? arch with
  | some (.draw x y rows) =>
      some
        { x, y, rows
          place := machine.pc
          v := machine.v
          index := machine.index
          memory := machine.memory
          screen := machine.screen
          highRes := machine.highRes }
  | _ => none

theorem facing?_of_drawing? {drawing : Drawing} (found : machine.drawing? arch = some drawing) :
    machine.facing? arch = some (.draw drawing.x drawing.y drawing.rows) := by
  rw [drawing?] at found
  split at found
  · rename_i facing
    cases found
    exact facing
  · cases found

/-- The pictures of a sprite lie in memory. -/
def SpriteFits (arch : Arch) (machine : Machine) (rows : Digit) : Prop :=
  machine.spriteBytes arch rows = 0 ∨
    machine.index + machine.spriteBytes arch rows ≤ arch.memorySize

theorem blockFault?_of_spriteFits (fits : machine.SpriteFits arch rows) :
    blockFault? arch machine.index (machine.spriteBytes arch rows) = none := by
  rcases Nat.eq_zero_or_pos (machine.spriteBytes arch rows) with empty | positive
  · rw [empty]
    rfl
  · exact (blockFault?_eq_none positive).mpr (fits.resolve_left (Nat.ne_of_gt positive))

end Machine

namespace Processor

variable {arch : Arch} {dialect : Dialect} {processor : Processor} {x y rows : Digit}

/-! ## One step -/

section Step

variable (wellFormed : processor.machine.WellFormed processor.arch processor.dialect)
  (facing : processor.facing? = some (.draw x y rows))

include wellFormed facing

/-- Within a frame, a drawing instruction is met again and again. -/
theorem step_of_putOff (waits : processor.dialect .frameWait = true) :
    (processor.step false).result = .ok () ∧
      (processor.step false).processor.machine = processor.machine.putOff := by
  have mustWait : (processor.machine.advance false).mustWait processor.dialect = true := by
    rw [Machine.mustWait, waits]
    rfl
  have accepted : (processor.machine.advance false).refusal? processor.arch processor.dialect
      (.draw x y rows) = none := by
    rw [Machine.refusal?_draw, if_pos mustWait]
    rfl
  obtain ⟨result, machine_eq⟩ := step_of_accepted wellFormed false facing accepted
  refine ⟨result, ?_⟩
  rw [machine_eq, Machine.perform_draw_of_wait mustWait, Machine.again_advance]

/-- The first step of a frame carries a drawing instruction out. -/
theorem step_of_draw (fits : processor.machine.SpriteFits processor.arch rows) {screen : Screen}
    {value : UInt8} (drawn : processor.machine.draw processor.arch processor.dialect x y rows =
      .ok { processor.machine with screen, v := processor.machine.v.write 15 value }) :
    (processor.step true).result = .ok () ∧
      (processor.step true).processor.machine =
        { processor.machine with
          screen, v := processor.machine.v.write 15 value }.advance true := by
  have goes : ¬ (processor.machine.advance true).mustWait processor.dialect = true := by
    simp [Machine.mustWait, Machine.advance]
  have accepted : (processor.machine.advance true).refusal? processor.arch processor.dialect
      (.draw x y rows) = none := by
    rw [Machine.refusal?_draw, if_neg goes]
    exact Machine.blockFault?_of_spriteFits fits
  have full : (processor.machine.advance true).v.size = 16 := wellFormed.v
  have advanced : (processor.machine.advance true).draw processor.arch processor.dialect x y rows =
      .ok ({ processor.machine with screen, v := processor.machine.v.write 15 value }.advance
        true) := by
    rw [Machine.draw_change (Machine.advance true) rfl rfl rfl rfl rfl fun _ _ => rfl, drawn]
    rfl
  obtain ⟨result, machine_eq⟩ := step_of_accepted wellFormed true facing accepted
  refine ⟨result, ?_⟩
  rw [machine_eq, Machine.perform_draw full goes advanced]

end Step

/-- The drawing at the program counter, if there is one. -/
def drawing? (processor : Processor) : Option Drawing :=
  processor.machine.drawing? processor.arch

/-- What happens between steps leaves a drawing as it is. -/
theorem drawing?_happen {event : Event} (idle : ¬ event.IsStep) :
    (processor.happen event).processor.drawing? = processor.drawing? := by
  obtain ⟨delay, sound, beeping, keys, after⟩ := exists_happen_eq idle
  rw [after]
  rfl

namespace Reachable

variable {drawing : Drawing}

/-- A drawing that is put off is faced as it was. -/
theorem putOff (reachable : processor.Reachable arch dialect) (waits : dialect .frameWait = true)
    (met : processor.drawing? = some drawing) :
    (processor.step false).result = .ok () ∧
      (processor.step false).processor.machine = processor.machine.putOff ∧
      (processor.step false).processor.drawing? = some drawing := by
  have wellFormed := reachable.wellFormed
  have arch_eq : (processor.step false).processor.arch = arch :=
    (reachable.happen (.step false)).arch_eq
  obtain rfl := reachable.arch_eq
  obtain rfl := reachable.dialect_eq
  obtain ⟨result, machine_eq⟩ :=
    step_of_putOff wellFormed (Machine.facing?_of_drawing? met) waits
  refine ⟨result, machine_eq, ?_⟩
  rw [drawing?, machine_eq, arch_eq]
  exact met

/-- The rest of a frame in which a drawing is met. -/
theorem putOff_play (reachable : processor.Reachable arch dialect)
    (waits : dialect .frameWait = true) (met : processor.drawing? = some drawing) (steps : Nat) :
    let later := processor.play (List.replicate steps (.step false))
    later.drawing? = some drawing ∧ (later.step false).result = .ok () ∧
      (later.step false).processor.machine = processor.machine.putOff := by
  obtain ⟨result, machine_eq, met'⟩ := reachable.putOff waits met
  -- The first step sets the two fields that change; the induction is over the steps after it.
  induction steps generalizing processor with
  | zero => exact ⟨met, result, machine_eq⟩
  | succ steps induction =>
      have reached := reachable.happen (.step false)
      obtain ⟨result', machine_eq', met''⟩ := reached.putOff waits met'
      obtain ⟨faced, succeeds, stays⟩ := induction reached met' result' machine_eq' met''
      refine ⟨faced, succeeds, stays.trans ?_⟩
      rw [Processor.happen, machine_eq, Machine.putOff_putOff]

/-- The first step after drawing has been put off carries it out as it was met. -/
theorem step_of_pending (reachable : processor.Reachable arch dialect) {met : Machine}
    (fits : met.SpriteFits arch drawing.rows) (wellFormed : met.WellFormed arch dialect)
    {delay sound : Int} {beeping : Bool} {keys : Vector Bool 16}
    (machine_eq : processor.machine = { met.putOff with delay, sound, beeping, keys })
    (faced : processor.drawing? = some drawing) :
    ∃ screen value,
      met.draw arch dialect drawing.x drawing.y drawing.rows =
        .ok { met with screen, v := met.v.write 15 value } ∧
      (processor.step true).result = .ok () ∧
      (processor.step true).processor.machine =
        { processor.machine with screen, v := met.v.write 15 value }.advance true := by
  obtain ⟨screen, value, drawn, -⟩ :=
    wellFormed.exists_draw drawing.x drawing.y (Machine.blockFault?_of_spriteFits fits)
  refine ⟨screen, value, drawn, ?_⟩
  have reached := reachable.wellFormed
  obtain rfl := reachable.arch_eq
  obtain rfl := reachable.dialect_eq
  have drawn' : processor.machine.draw processor.arch processor.dialect drawing.x drawing.y
      drawing.rows = .ok { processor.machine with screen, v := met.v.write 15 value } := by
    have change := @Machine.draw_change processor.arch processor.dialect met drawing.x drawing.y
      drawing.rows (fun machine => { machine.putOff with delay, sound, beeping, keys })
      rfl rfl rfl rfl rfl fun _ _ => rfl
    rw [machine_eq, change, drawn]
    rfl
  have same : processor.machine.v = met.v := by rw [machine_eq]; rfl
  rw [← same] at drawn' ⊢
  refine step_of_draw reached (Machine.facing?_of_drawing? faced) ?_ drawn'
  rw [machine_eq]
  exact fits

end Reachable

end Processor

/-! ## Bookkeeping -/

/-- What became of the drawings of a run. -/
structure Ledger where
  /-- The drawings that were met, each as it was when it was first met. -/
  met : List Drawing
  /-- The drawings that came to be carried out, each as it was then.  One whose pictures do not lie in
  memory is among them, as it fails instead of being put off. -/
  drawn : List Drawing
  /-- The drawing that is put off, as it was first met. -/
  pending : Option Drawing

namespace Ledger

/-- A ledger without entries. -/
def empty : Ledger := ⟨[], [], none⟩

/-- Note a drawing at the program counter.  It is new unless one is put off; the first step of a
frame carries it out, and any other puts it off. -/
def enter (ledger : Ledger) (keyFrame : Bool) (drawing : Drawing) : Ledger where
  met := if ledger.pending.isSome then ledger.met else ledger.met ++ [drawing]
  drawn := if keyFrame then ledger.drawn ++ [drawing] else ledger.drawn
  pending := if keyFrame then none else some (ledger.pending.getD drawing)

/-- Note what an event does about a drawing. -/
def note (ledger : Ledger) (processor : Processor) : Event → Ledger
  | .step keyFrame => (processor.drawing?.map (ledger.enter keyFrame)).getD ledger
  | .tick | .setKey _ _ => ledger

/-- Note what events do about drawings, one after the other. -/
def noteAll (ledger : Ledger) (processor : Processor) : List Event → Ledger
  | [] => ledger
  | event :: rest => (ledger.note processor event).noteAll (processor.happen event).processor rest

/-- Every drawing that was met was carried out, in the same order and as it was met, or is put off;
then the processor still faces it as it was met. -/
structure Balanced (ledger : Ledger) (processor : Processor) : Prop where
  /-- Nothing is lost, and nothing comes twice. -/
  met_eq : ledger.met = ledger.drawn ++ ledger.pending.toList
  /-- What is put off stays as it is. -/
  faced : ∀ drawing ∈ ledger.pending, processor.drawing? = some drawing

variable {arch : Arch} {dialect : Dialect} {processor : Processor} {ledger : Ledger}

theorem balanced_empty (processor : Processor) : empty.Balanced processor where
  met_eq := rfl
  faced := nofun

theorem Balanced.enter_met (balanced : ledger.Balanced processor) {drawing : Drawing}
    (met : processor.drawing? = some drawing) (keyFrame : Bool) :
    (ledger.enter keyFrame drawing).met = ledger.drawn ++ [drawing] ∧
      ledger.pending.getD drawing = drawing := by
  obtain ⟨met_eq, faced⟩ := balanced
  rcases pending : ledger.pending with _ | waiting
  · simp [enter, met_eq, pending]
  · obtain rfl : waiting = drawing := by
      simpa [met] using (faced waiting pending).symm
    simp [enter, met_eq, pending]

theorem Balanced.note (balanced : ledger.Balanced processor)
    (reachable : processor.Reachable arch dialect) (waits : dialect .frameWait = true)
    (event : Event) :
    (ledger.note processor event).Balanced (processor.happen event).processor := by
  by_cases idle : event.IsStep
  · cases event with
    | tick | setKey => cases idle
    | step keyFrame =>
        rcases met : processor.drawing? with _ | drawing
        · -- What is put off would still be faced.
          have nothing : ledger.pending = none := by
            by_contra waiting
            obtain ⟨drawing, pending⟩ := Option.ne_none_iff_exists'.mp waiting
            cases met.symm.trans (balanced.faced drawing pending)
          rw [Ledger.note, met]
          exact ⟨balanced.met_eq, by simp [nothing]⟩
        · obtain ⟨met_eq, same⟩ := balanced.enter_met met keyFrame
          rw [Ledger.note, met]
          cases keyFrame with
          | true => exact ⟨by simpa [enter] using met_eq, nofun⟩
          | false =>
              obtain ⟨-, -, faced⟩ := reachable.putOff waits met
              refine ⟨by simpa [enter, same] using met_eq, ?_⟩
              rintro waiting ⟨⟩
              rw [same]
              exact faced
  · have same : ledger.note processor event = ledger := by
      cases event <;> first | rfl | exact absurd trivial idle
    rw [same]
    refine ⟨balanced.met_eq, fun drawing pending => ?_⟩
    rw [Processor.drawing?_happen idle]
    exact balanced.faced drawing pending

theorem Balanced.noteAll (balanced : ledger.Balanced processor)
    (reachable : processor.Reachable arch dialect) (waits : dialect .frameWait = true)
    (events : List Event) :
    (ledger.noteAll processor events).Balanced (processor.play events) := by
  induction events generalizing ledger processor with
  | nil => exact balanced
  | cons event rest induction =>
      exact induction (balanced.note reachable waits event) (reachable.happen event)

/-- Only the first step of a frame carries a drawing out. -/
theorem length_drawn_noteAll (ledger : Ledger) (processor : Processor) (events : List Event) :
    (ledger.noteAll processor events).drawn.length ≤
      ledger.drawn.length + events.count (.step true) := by
  induction events generalizing ledger processor with
  | nil => exact Nat.le_refl _
  | cons event rest induction =>
      have first : (ledger.note processor event).drawn.length ≤
          ledger.drawn.length + [event].count (.step true) := by
        cases event with
        | tick | setKey => exact Nat.le_add_right _ _
        | step keyFrame =>
            rw [note]
            rcases processor.drawing? with _ | drawing
            · exact Nat.le_add_right _ _
            · cases keyFrame <;> simp [enter]
      have later := induction (ledger.note processor event) (processor.happen event).processor
      have both : (event :: rest).count (.step true) =
          [event].count (.step true) + rest.count (.step true) :=
        @List.count_append _ _ _ [event] rest
      rw [noteAll, both]
      omega

end Ledger

namespace Processor

variable {arch : Arch} {dialect : Dialect} {processor : Processor}

/-- In a dialect that waits for the frame, a drawing that is met after the first step of a frame
stops the machine for the rest of the frame.  However the timers and keys are moved then, the first
step of the next frame carries out that drawing as it was met.  Over any run, the drawings that were
met are those that were carried out, at most one for each frame, and the one that is put off. -/
theorem Reachable.draws_once_a_frame (reachable : processor.Reachable arch dialect)
    (waits : dialect .frameWait = true) :
    (∀ first count, 0 < first → first < count → ∀ drawing,
      let met := (processor.play (Event.frame first)).machine
      met.drawing? arch = some drawing →
        (∀ later, first ≤ later → later < count →
          ((processor.play (Event.frame later)).step false).result = .ok () ∧
            (processor.play (Event.frame (later + 1))).machine = met.putOff) ∧
        ∀ between, (∀ event ∈ between, ¬ event.IsStep) →
          let next := (processor.play (Event.frame count)).play between
          (∃ delay sound beeping keys,
            next.machine = { met.putOff with delay, sound, beeping, keys }) ∧
          next.drawing? = some drawing ∧
          (met.SpriteFits arch drawing.rows →
            ∃ screen value,
              met.draw arch dialect drawing.x drawing.y drawing.rows =
                .ok { met with screen, v := met.v.write 15 value } ∧
              (next.step true).result = .ok () ∧
              (next.step true).processor.machine =
                { next.machine with screen, v := met.v.write 15 value }.advance true ∧
              (next.step true).processor.machine.pc = met.pc + 2)) ∧
    ∀ events,
      let ledger := Ledger.empty.noteAll processor events
      ledger.Balanced (processor.play events) ∧
        ledger.drawn.length ≤ events.count (.step true) := by
  refine ⟨?_, fun events => ⟨?_, ?_⟩⟩
  · intro first count opened before drawing met faced
    have reached := reachable.play (Event.frame first)
    have faced : (processor.play (Event.frame first)).drawing? = some drawing := by
      rw [drawing?, reached.arch_eq]
      exact faced
    have rest (later : Nat) (since : first ≤ later) :
        ((processor.play (Event.frame later)).step false).result = .ok () ∧
          (processor.play (Event.frame (later + 1))).machine = met.putOff := by
      obtain ⟨more, rfl⟩ := Nat.exists_eq_add_of_le since
      have opened' : 0 < first + more := Nat.add_pos_left opened more
      obtain ⟨-, result, machine_eq⟩ := reached.putOff_play waits faced more
      rw [← play_append, ← Event.frame_add opened] at result machine_eq
      rw [Event.frame_add opened' 1, List.replicate_one, play_concat]
      exact ⟨result, machine_eq⟩
    refine ⟨fun later since _ => rest later since, fun between idle => ?_⟩
    intro next
    obtain ⟨last, rfl⟩ := Nat.exists_eq_add_one_of_ne_zero (Nat.ne_of_gt (opened.trans before))
    obtain ⟨-, stayed⟩ := rest last (Nat.le_of_lt_succ before)
    have next_reachable := (reachable.play (Event.frame (last + 1))).play between
    obtain ⟨delay, sound, beeping, keys, after⟩ :=
      @exists_play_eq (processor.play (Event.frame (last + 1))) _ idle
    have machine_eq : next.machine = { met.putOff with delay, sound, beeping, keys } := by
      rw [show next = _ from after, stayed]
    have next_faced : next.drawing? = some drawing := by
      rw [drawing?, machine_eq, next_reachable.arch_eq, ← reached.arch_eq]
      exact faced
    refine ⟨⟨delay, sound, beeping, keys, machine_eq⟩, next_faced, fun fits => ?_⟩
    obtain ⟨screen, value, drawn, result, drew⟩ :=
      next_reachable.step_of_pending fits reached.wellFormed machine_eq next_faced
    refine ⟨screen, value, drawn, result, drew, ?_⟩
    rw [drew, Machine.advance_pc, machine_eq]
    rfl
  · exact (Ledger.balanced_empty processor).noteAll reachable waits events
  · simpa [Ledger.empty] using Ledger.empty.length_drawn_noteAll processor events

/-- A program that clears the screen and draws one row, in frames of three steps with a tick after
each of them. -/
theorem draws_once_a_frame_after_clearing :
    let processor := ((Bench.start .chip8 (.standard .chip8) false []).run
      [.load #[0x00, 0xE0, 0xD0, 0x11]]).processor
    processor.Reachable .chip8 (.standard .chip8) ∧
      Dialect.standard .chip8 .frameWait = true ∧
      ∃ met drawing, (processor.play (Event.frame 1)).machine = met ∧
        met.drawing? .chip8 = some drawing ∧
        met.SpriteFits .chip8 drawing.rows ∧
        (processor.play (Event.frame 3)).machine = met.putOff ∧
        (((processor.play (Event.frame 3)).play [.tick]).step true).result = .ok () ∧
        (((processor.play (Event.frame 3)).play [.tick]).step true).processor.machine.pc =
          0x204 := by
  have fits : Machine.programStart + (#[0x00, 0xE0, 0xD0, 0x11] : Array UInt8).size ≤
    Arch.chip8.memorySize := by decide
  have reachable : ((Bench.start .chip8 (.standard .chip8) false []).run
      [.load #[0x00, 0xE0, 0xD0, 0x11]]).processor.Reachable .chip8 (.standard .chip8) :=
    ⟨false, [], _, rfl⟩
  have waits : Dialect.standard .chip8 .frameWait = true := rfl
  have sized := (Machine.wellFormed_powerOn .chip8 (.standard .chip8)).memory
  have wellFormed := reachable.wellFormed
  rw [Bench.processor_run_load .chip8 (.standard .chip8) false [] fits] at reachable wellFormed ⊢
  intro processor
  have facing : processor.facing? = some .clear :=
    @facing?_of_patch _ _ _ 0 _ ⟨0x00E0⟩ _ sized rfl rfl (by decide) fits rfl rfl
  have first (other : Processor) : other.play (Event.frame 1) = (other.step true).processor := rfl
  have machine_eq : (processor.step true).processor.machine =
      ((processor.machine.advance true).perform .chip8 (.standard .chip8) 0 .clear).1 :=
    (step_of_accepted wellFormed true facing rfl).2
  obtain ⟨once, -⟩ := @Reachable.draws_once_a_frame _ _ processor reachable waits
  have rest := once 1 3 Nat.one_pos (by decide)
  obtain ⟨met, met_eq⟩ : ∃ met, (processor.play (Event.frame 1)).machine = met := ⟨_, rfl⟩
  rw [met_eq] at rest
  rw [← first, met_eq] at machine_eq
  have memory : met.memory = (Machine.powerOn .chip8 (.standard .chip8)).memory.patch
      Machine.programStart #[0x00, 0xE0, 0xD0, 0x11] := by
    rw [machine_eq]
    rfl
  have pc : met.pc = 0x202 := by
    rw [machine_eq]
    rfl
  have meets : met.Meets ⟨0xD011⟩ :=
    @Machine.meets_of_patch _ _ _ 2 _ _ sized memory pc (by decide) fits rfl
  have facing' : met.facing? .chip8 = some (.draw 0 1 1) :=
    Machine.facing?_eq_some_iff.mpr ⟨_, meets, rfl⟩
  have faced : met.drawing? .chip8 =
      some ⟨0, 1, 1, met.pc, met.v, met.index, met.memory, met.screen, met.highRes⟩ := by
    rw [Machine.drawing?, facing']
  have inside : met.SpriteFits .chip8 1 := by
    rw [machine_eq]
    exact Or.inr (by decide +kernel)
  obtain ⟨stays, next⟩ := rest _ faced
  obtain ⟨-, -, draws⟩ := next [.tick] (by simp [Event.IsStep])
  obtain ⟨-, -, -, result, -, pc'⟩ := draws inside
  exact ⟨reachable, waits, met, _, met_eq, faced, inside, (stays 2 (by decide) (by decide)).2,
    result, by rw [pc', pc]; rfl⟩

end Processor

end Chip8
