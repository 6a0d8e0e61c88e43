import Chip8.Proofs.SoundInStep
import Chip8.Proofs.Timers

/-!
# The buzzer at the ends of frames

A completed frame ticks the timers once, after its steps, and then tells the sound device whether
the sound timer is still running.  So a value stored in the sound timer keeps the buzzer on at the
end of one frame less than it says, the frame in which it was stored being the first of them.
-/

namespace Chip8

/-! ## What a frame does to the processor -/

namespace Processor

/-- The events of a run up to the first that fails. -/
def undertaken (processor : Processor) : List Event → List Event
  | [] => []
  | event :: rest =>
      event ::
        match (processor.happen event).result with
        | .ok () => (processor.happen event).processor.undertaken rest
        | .error _ => []

variable {processor : Processor}

theorem undertaken_of_succeeds {events : List Event} (succeeds : processor.Succeeds events) :
    processor.undertaken events = events := by
  induction events generalizing processor with
  | nil => rfl
  | cons event rest induction =>
      obtain ⟨first, others⟩ := succeeds_cons.mp succeeds
      rw [undertaken, first, induction others]

theorem undertaken_of_fails {done rest : List Event} {event : Event} {fault : Fault}
    (succeeds : processor.Succeeds done)
    (fails : ((processor.play done).happen event).result = .error fault) :
    processor.undertaken (done ++ event :: rest) = done ++ [event] := by
  induction done generalizing processor with
  | nil =>
      have failed : (processor.happen event).result = .error fault := fails
      rw [List.nil_append, undertaken, failed, List.nil_append]
  | cons first others induction =>
      obtain ⟨result, succeeding⟩ := succeeds_cons.mp succeeds
      rw [List.cons_append, undertaken, result, induction succeeding fails, List.cons_append]

end Processor

theorem Event.tick_notMem_frame (count : Nat) : .tick ∉ Event.frame count := by
  cases count with
  | zero => exact List.not_mem_nil
  | succ rest => simp [Event.frame]

namespace Session

variable {arch : Arch} {dialect : Dialect} {session : Session} {now : Float} {input : Input}

/-- What happens to the processor once the requests of a frame are dealt with: steps up to the first
that fails, and a tick if none does. -/
def events (session : Session) : List Event :=
  session.processor.undertaken (Event.frame session.ticks.toNat) ++
    match session.execute.result with
    | .ok () => [.tick]
    | .error _ => []

/-- The processor that the requests of a frame leave, and what happens to it then.  That is nothing
if the frame ends with its requests. -/
def happens (session : Session) (now : Float) (input : Input) : Processor × List Event :=
  let opened := session.reportPerformance now
  match opened.result with
  | .error _ => (session.processor, [])
  | .ok () =>
      let asked := applyAll input.actions opened.session
      match asked.result with
      | .ok true =>
          let entered := asked.session.holdKeys input.held
          (entered.processor, entered.events)
      | _ => (asked.session.processor, [])

/-- The events of a frame, each with the machine that it finds. -/
def momentsIn (session : Session) (now : Float) (input : Input) : List (Event × Machine) :=
  (session.happens now input).1.moments (session.happens now input).2

theorem events_cases (session : Session) :
    (session.execute.result = .ok () ∧
      session.events = Event.frame session.ticks.toNat ++ [.tick] ∧
      session.execute.session.processor =
        session.processor.play (Event.frame session.ticks.toNat)) ∨
    ∃ stop, session.execute.result = .error stop ∧ .tick ∉ session.events ∧
      session.execute.session.processor = session.processor.play session.events := by
  have unticked := Event.tick_notMem_frame session.ticks.toNat
  rcases session.execute_cases with
    ⟨succeeds, ran⟩ | ⟨done, event, rest, fault, split, succeeds, fails, ran⟩
  · left
    rw [events, ran, Processor.undertaken_of_succeeds succeeds]
    exact ⟨rfl, rfl, rfl⟩
  · right
    have events_eq : session.events = done ++ [event] := by
      rw [events, ran, split, Processor.undertaken_of_fails succeeds fails]
      exact List.append_nil _
    refine ⟨_, by rw [ran], ?_, by rw [ran, events_eq]⟩
    rw [split] at unticked
    rw [events_eq]
    intro ticked
    exact unticked (List.append_subset.mpr
      ⟨List.subset_append_left _ _, by simp⟩ ticked)

/-- A completed frame ends with its only tick, and any other has none. -/
theorem frame_happens (session : Session) (now : Float) (input : Input) :
    let start := (session.happens now input).1
    let events := (session.happens now input).2
    let progress := session.frame now input
    progress.session.processor = start.play events ∧
      ((progress.result = .ok true ∧
          ∃ steps, events = steps ++ [.tick] ∧ .tick ∉ steps) ∨
        (progress.result ≠ .ok true ∧ .tick ∉ events)) := by
  have ended := session.frame_ended now input
  intro start events progress
  change session.Ended now input progress at ended
  generalize progress = ending at ended ⊢
  cases ended with
  | endless due infinite reported =>
      have happens_eq : session.happens now input = (session.processor, []) := by
        simp only [happens, reported]
      simp only [start, events, happens_eq]
      exact ⟨rfl, Or.inr ⟨nofun, List.not_mem_nil⟩⟩
  | @refused _ asked _ _ _ reported applied | @quit _ asked _ _ reported applied =>
      have happens_eq : session.happens now input = (asked.processor, []) := by
        simp only [happens, reported, applied]
      simp only [start, events, happens_eq]
      exact ⟨rfl, Or.inr ⟨nofun, List.not_mem_nil⟩⟩
  | @stopped opened asked later _ _ _ _ reported applied executed =>
      have happens_eq : session.happens now input =
          ((asked.holdKeys input.held).processor, (asked.holdKeys input.held).events) := by
        simp only [happens, reported, applied]
      simp only [start, events, happens_eq]
      rcases (asked.holdKeys input.held).events_cases with
        ⟨result, -⟩ | ⟨stop, -, unticked, after⟩
      · rw [executed] at result
        cases result
      · rw [executed] at after
        exact ⟨after, Or.inr ⟨nofun, unticked⟩⟩
  | @finished opened asked later _ _ _ reported applied executed =>
      have happens_eq : session.happens now input =
          ((asked.holdKeys input.held).processor, (asked.holdKeys input.held).events) := by
        simp only [happens, reported, applied]
      simp only [start, events, happens_eq]
      rcases (asked.holdKeys input.held).events_cases with
        ⟨-, events_eq, after⟩ | ⟨stop, result, -⟩
      · rw [executed] at after
        rw [events_eq]
        refine ⟨?_, Or.inl ⟨trivial, _, rfl, Event.tick_notMem_frame _⟩⟩
        rw [Processor.play_concat, ← after]
        rfl
      · rw [executed] at result
        cases result

/-- Requests other than to reset the machine or to put one back leave the processor alone. -/
theorem processor_applyAll {actions : List HostAction} {session : Session}
    (spared : ∀ request ∈ requested actions session,
      request.1 ≠ .reset ∧ request.1 ≠ .loadState) :
    (applyAll actions session).session.processor = session.processor := by
  induction actions generalizing session with
  | nil => rfl
  | cons action rest induction =>
      by_cases quits : action = .quit
      · subst quits
        rfl
      · rw [requested_cons quits, List.forall_mem_cons] at spared
        obtain ⟨⟨resets, restores⟩, others⟩ := spared
        have kept : (session.apply action).session.processor = session.processor := by
          cases action with
          | reset => exact absurd rfl resets
          | loadState => exact absurd rfl restores
          | _ => rfl
        rw [applyAll_cons quits, Progress.andThen]
        split
        case h_1 => exact kept
        case h_2 value result =>
          rw [result] at others
          exact (induction others).trans kept

theorem InOrder.happens (inOrder : session.InOrder arch dialect) (now : Float) (input : Input) :
    (session.happens now input).1.InOrder arch dialect := by
  rw [Session.happens]
  rcases session.reportPerformance_cases now with
    ⟨-, -, reported⟩ | ⟨nextReport, frames, instructions, _, reported, -⟩
  · rw [reported]
    exact inOrder.processor
  · have opened : InOrder arch dialect { session with nextReport, frames, instructions } :=
      { inOrder with }
    have asked := opened.applyAll input.actions
    rw [reported]
    dsimp only
    split
    · exact (asked.holdKeys input.held).processor
    · exact asked.processor

/-- Unless requests replace the machine, the steps of a frame begin with the timers as they were. -/
theorem exists_keys_happens
    (spared : ∀ request ∈ Course.requestedIn session now input,
      request.1 ≠ .reset ∧ request.1 ≠ .loadState) :
    ∃ keys, (session.happens now input).1 =
      { session.processor with machine := { session.processor.machine with keys } } := by
  rw [Session.happens]
  rcases session.reportPerformance_cases now with ⟨-, -, reported⟩ | ⟨_, _, _, _, reported, -⟩
  · rw [reported]
    exact ⟨session.processor.machine.keys, rfl⟩
  · rw [Course.requestedIn_of_reported reported] at spared
    have kept := processor_applyAll spared
    rw [reported]
    dsimp only
    split
    · exact ⟨input.held, by rw [holdKeys, kept]⟩
    · exact ⟨session.processor.machine.keys, kept⟩

/-- A frame leaves the sound timer with what was stored last, less one if the frame is completed. -/
theorem InOrder.sound_frame (inOrder : session.InOrder arch dialect) (now : Float)
    (input : Input) :
    (session.frame now input).session.processor.machine.sound =
      max 0 ((latest (Timer.sound.stored? arch) (session.momentsIn now input)).getD
          (session.happens now input).1.machine.sound -
        if (session.frame now input).result = .ok true then 1 else 0) := by
  obtain ⟨after, ended⟩ := session.frame_happens now input
  have counted := (inOrder.happens now input).timer_play (session.happens now input).2 .sound
  rw [after]
  refine counted.trans ?_
  rw [momentsIn]
  rcases ended with ⟨completed, steps, events_eq, unticked⟩ | ⟨stopped, unticked⟩
  · rw [if_pos completed, events_eq, Processor.moments_concat, Timer.ticksSince_concat,
      Processor.ticksSince_of_unticked unticked, if_pos (by rfl), if_pos rfl]
    rfl
  · rw [if_neg stopped, Processor.ticksSince_of_unticked unticked]
    rfl

end Session

namespace Course

/-- What the sound device was told last of the buzzer at the end of each completed frame. -/
def buzzes (course : Course) : List Turn → List (Option Bool)
  | [] => []
  | .resume now :: rest => (course.take (.resume now)).buzzes rest
  | .frame now input :: rest =>
      let after := course.take (.frame now input)
      match (course.session.frame now input).result with
      | .ok true => latest Signal.buzzer? after.signals :: after.buzzes rest
      | _ => after.buzzes rest

/-- No request replaces the machine, and no step stores the sound timer. -/
def Undisturbed (arch : Arch) (course : Course) : List Turn → Prop
  | [] => True
  | .resume now :: rest => (course.take (.resume now)).Undisturbed arch rest
  | .frame now input :: rest =>
      (∀ request ∈ requestedIn course.session now input,
        request.1 ≠ .reset ∧ request.1 ≠ .loadState) ∧
      (∀ moment ∈ course.session.momentsIn now input,
        Timer.sound.stored? arch moment = none) ∧
      (course.take (.frame now input)).Undisturbed arch rest

variable {arch : Arch} {dialect : Dialect} {course : Course} {now : Float} {input : Input}

/-- At the end of a completed frame the buzzer is told from the sound timer. -/
theorem latest_buzzer_take (completed : (course.session.frame now input).result = .ok true) :
    latest Signal.buzzer? (course.take (.frame now input)).signals =
      some (decide (0 < (course.session.frame now input).session.processor.machine.sound)) := by
  rcases course.session.quiet_frame now input with ⟨other, -⟩ | ⟨later, earlier, -, framed⟩
  · exact absurd completed other
  · have told : later.finish.sent.map Sent.signal = _ := later.finish_signals
    rw [take, framed, Progress.signals, List.map_append, told, ← List.append_assoc,
      ← List.append_assoc, latest_append]
    rfl

/-- A completed frame tells whether the sound timer is still running after it, and later ones tell
that of one tick less. -/
theorem buzzes_of_completed (completed : (course.session.frame now input).result = .ok true)
    {left : Int}
    (running : (course.session.frame now input).session.processor.machine.sound = max 0 left)
    {turns : List Turn} {told : Option Bool}
    (later : ∀ number : Nat,
      ((course.take (.frame now input)).buzzes turns)[number]? = some told →
        told = some (decide (number < left - 1)))
    {number : Nat} (entry : (course.buzzes (.frame now input :: turns))[number]? = some told) :
    told = some (decide (number < left)) := by
  rw [buzzes, completed] at entry
  rcases number with _ | number
  · cases entry
    rw [latest_buzzer_take completed, running]
    exact congrArg some (decide_eq_decide.mpr (by omega))
  · rw [later number entry]
    exact congrArg some (decide_eq_decide.mpr (by omega))

/-- While nothing stores the sound timer, it loses one with each completed frame. -/
theorem InOrder.buzzes_of_undisturbed (inOrder : course.InOrder arch dialect) {left : Int}
    (running : course.session.processor.machine.sound = max 0 left) {turns : List Turn}
    (undisturbed : course.Undisturbed arch turns) {number : Nat} {told : Option Bool}
    (entry : (course.buzzes turns)[number]? = some told) :
    told = some (decide (number < left - 1)) := by
  induction turns generalizing course left number with
  | nil => cases entry
  | cons turn rest induction =>
      have taken := inOrder.take turn
      cases turn with
      | resume now => exact induction taken running undisturbed entry
      | frame now input =>
          obtain ⟨spared, silent, others⟩ := undisturbed
          have sound := inOrder.session.sound_frame now input
          obtain ⟨keys, start⟩ := Session.exists_keys_happens spared
          rw [latest_of_silent silent, start, Option.getD_none] at sound
          dsimp only at sound
          rw [running] at sound
          by_cases completed : (course.session.frame now input).result = .ok true
          · rw [if_pos completed] at sound
            have counted : (course.session.frame now input).session.processor.machine.sound =
              max 0 (left - 1) := sound.trans (by omega)
            exact buzzes_of_completed completed counted
              (fun _ later => induction taken counted others later) entry
          · rw [if_neg completed] at sound
            have kept : (course.take (.frame now input)).session.processor.machine.sound =
                max 0 left := sound.trans (by omega)
            refine induction taken kept others (entry ▸ ?_)
            rw [buzzes]
            split
            case h_1 done => exact absurd done completed
            case h_2 => rfl

/-- A value stored last in a completed frame keeps the buzzer on at the end of one frame less, that
frame being the first. -/
theorem InOrder.buzzes_after_storing (inOrder : course.InOrder arch dialect) {value : Int}
    (completed : (course.session.frame now input).result = .ok true)
    (stored : latest (Timer.sound.stored? arch) (course.session.momentsIn now input) = some value)
    {turns : List Turn}
    (undisturbed : (course.take (.frame now input)).Undisturbed arch turns) {number : Nat}
    {told : Option Bool}
    (entry : (course.buzzes (.frame now input :: turns))[number]? = some told) :
    told = some (decide (number < value - 1)) := by
  have sound := inOrder.session.sound_frame now input
  rw [stored, if_pos completed, Option.getD_some] at sound
  have taken := inOrder.take (.frame now input)
  exact buzzes_of_completed completed sound
    (fun _ later => taken.buzzes_of_undisturbed sound undisturbed later) entry

end Course

/-! ## What ticks count -/

/-- Timers count ticks and nothing else.  Each shows what was stored in it last less the ticks
since, and the buzzer is as the last tick left it.  A tick before a step whose word does not spell
an instruction on timers may come after it.  In a session, a value stored in the sound timer keeps
the buzzer on at the end of one completed frame less, counted from the one in which it was stored,
unless it is stored again or the machine is replaced. -/
theorem timers_count_ticks (arch : Arch) (dialect : Dialect) :
    (∀ processor : Processor, processor.Reachable arch dialect → ∀ events : List Event,
      (∀ timer : Timer, timer.read (processor.play events).machine =
        max 0 ((latest (timer.stored? arch) (processor.moments events)).getD
            (timer.read processor.machine) -
          timer.ticksSince arch (processor.moments events))) ∧
      (.tick ∉ events →
        (processor.play events).machine.beeping = processor.machine.beeping) ∧
      ∀ before after, events = before ++ .tick :: after → .tick ∉ after →
        (processor.play events).machine.beeping =
          decide (0 < (processor.play (before ++ [.tick])).machine.sound)) ∧
    (∀ processor : Processor, processor.Reachable arch dialect →
      (∀ word, processor.machine.Meets word → ¬ word.Timed) → ∀ keyFrame,
        (processor.tick.step keyFrame).processor = (processor.step keyFrame).processor.tick ∧
          (processor.tick.step keyFrame).result.mapError Fault.withoutState =
            (processor.step keyFrame).result.mapError Fault.withoutState) ∧
    ∀ course : Course, course.Reachable arch dialect → ∀ now input value turns,
      (course.session.frame now input).result = .ok true →
      latest (Timer.sound.stored? arch) (course.session.momentsIn now input) = some value →
      (course.take (.frame now input)).Undisturbed arch turns →
      ∀ (number : Nat) (told : Option Bool),
        (course.buzzes (.frame now input :: turns))[number]? = some told →
          told = some (decide (number < max 0 (value - 1))) := by
  refine ⟨fun processor reachable events => ?_, fun processor reachable timeless keyFrame => ?_,
    fun course reachable now input value turns completed stored undisturbed number told entry => ?_⟩
  · have inOrder := reachable.inOrder
    refine ⟨inOrder.timer_play events, inOrder.beeping_play, ?_⟩
    rintro before after rfl unticked
    exact inOrder.beeping_play_tick before unticked
  · exact Processor.step_tick reachable.inOrder.wellFormed keyFrame timeless
  · rw [reachable.inOrder.buzzes_after_storing completed stored undisturbed entry]
    congr 2
    rw [eq_iff_iff]
    omega

/-- A frame of one instruction, before which the user asks for nothing. -/
theorem Session.frame_of_step {session : Session} (single : session.ticks = 1) {now : Float}
    (finite : now.isInf = false) {input : Input} (content : input.actions = [])
    (succeeds : ((session.holdKeys input.held).processor.step true).result = .ok ()) :
    (session.frame now input).result = .ok true ∧
      session.momentsIn now input =
        (session.holdKeys input.held).processor.moments [.step true, .tick] := by
  rcases session.reportPerformance_cases now with
    ⟨-, infinite, -⟩ | ⟨nextReport, frames, instructions, _, reported, -⟩
  · rw [finite] at infinite
    cases infinite
  · have once : Event.frame session.ticks.toNat = [.step true] := by rw [single]; rfl
    let entered := holdKeys { session with nextReport, frames, instructions } input.held
    have taken : (entered.processor.step true).result = .ok () := succeeds
    have ran : entered.execute.result = .ok () := by
      have ticks : entered.ticks.toNat = 1 := by
        show session.ticks.toNat = 1
        rw [single]
        rfl
      simp only [execute, ticks, Processor.steps, taken]
      rfl
    have events_eq : entered.events = [.step true, .tick] := by
      rcases entered.events_cases with ⟨-, events, -⟩ | ⟨stop, failed, -⟩
      · exact events.trans (congrArg (· ++ [Event.tick]) once)
      · rw [ran] at failed
        cases failed
    have happens_eq : session.happens now input = (entered.processor, entered.events) := by
      simp only [happens, reported, content]
      rfl
    rw [events_eq] at happens_eq
    refine ⟨?_, by rw [momentsIn, happens_eq]; rfl⟩
    obtain ⟨-, ⟨completed, -⟩ | ⟨-, unticked⟩⟩ := session.frame_happens now input
    · exact completed
    · rw [happens_eq] at unticked
      exact absurd (by simp) unticked

/-- A machine whose first instruction puts a three into V0 and whose second one stores that in the
sound timer, where a session takes over. -/
theorem timers_count_ticks_from_three :
    let loaded := ((Bench.start .chip8 (.standard .chip8) false []).run
      [.load #[0x60, 0x03, 0xF0, 0x18]]).processor
    (loaded.Reachable .chip8 (.standard .chip8) ∧
      (∀ word, loaded.machine.Meets word → ¬ word.Timed) ∧
      (loaded.tick.step true).processor = (loaded.step true).processor.tick) ∧
    ∃ processor, (loaded.step true).processor = processor ∧
      (processor.Reachable .chip8 (.standard .chip8) ∧
        (processor.play [.step true, .tick]).machine.sound = 2 ∧
        (processor.play [.step true, .tick]).machine.beeping = true) ∧
      ∃ opening, Session.start processor #[] 1 = .ok opening ∧
        let course := Course.start opening
        course.Reachable .chip8 (.standard .chip8) ∧
          (course.session.frame 0 .idle).result = .ok true ∧
          latest (Timer.sound.stored? .chip8) (course.session.momentsIn 0 .idle) = some 3 ∧
          (course.take (.frame 0 .idle)).Undisturbed .chip8 [.resume 1] ∧
          (course.buzzes [.frame 0 .idle, .resume 1])[0]? = some (some true) := by
  have fits : Machine.programStart + (#[0x60, 0x03, 0xF0, 0x18] : Array UInt8).size ≤
    Arch.chip8.memorySize := by decide
  have reachable : ((Bench.start .chip8 (.standard .chip8) false []).run
      [.load #[0x60, 0x03, 0xF0, 0x18]]).processor.Reachable .chip8 (.standard .chip8) :=
    ⟨false, [], _, rfl⟩
  have sized := (Machine.wellFormed_powerOn .chip8 (.standard .chip8)).memory
  have wellFormed := reachable.wellFormed
  rw [Bench.processor_run_load .chip8 (.standard .chip8) false [] fits] at reachable wellFormed ⊢
  intro loaded
  obtain ⟨count, commute, buzz⟩ := timers_count_ticks .chip8 (.standard .chip8)
  -- The first instruction.
  have meets : loaded.machine.Meets ⟨0x6003⟩ :=
    @Machine.meets_of_patch _ _ _ 0 _ _ sized rfl rfl (by decide) fits rfl
  have timeless : ∀ word, loaded.machine.Meets word → ¬ word.Timed := by
    intro word other
    rw [← Machine.Meets.unique meets other]
    decide
  have facing : loaded.facing? = some (.setByte 0 3) :=
    Machine.facing?_eq_some_iff.mpr ⟨_, meets, rfl⟩
  have machine_eq : (loaded.step true).processor.machine =
      ((loaded.machine.advance true).perform .chip8 (.standard .chip8) 0 (.setByte 0 3)).1 :=
    (Processor.step_of_accepted wellFormed true facing rfl).2
  have stepped : (loaded.step true).processor.Reachable .chip8 (.standard .chip8) :=
    reachable.happen (.step true)
  refine ⟨⟨reachable, timeless, (commute loaded reachable timeless true).1⟩, ?_⟩
  -- The second one.
  obtain ⟨processor, processor_eq⟩ : ∃ processor, (loaded.step true).processor = processor :=
    ⟨_, rfl⟩
  rw [processor_eq] at machine_eq stepped
  have memory : processor.machine.memory =
      (Machine.powerOn .chip8 (.standard .chip8)).memory.patch Machine.programStart
        #[0x60, 0x03, 0xF0, 0x18] := by
    rw [machine_eq]
    rfl
  have pc : processor.machine.pc = 0x202 := by
    rw [machine_eq]
    rfl
  have three : processor.machine.v.read 0 = 3 := by
    rw [machine_eq]
    rfl
  have arch_eq := stepped.arch_eq
  have facing' : processor.facing? = some (.setSound 0) :=
    @Processor.facing?_of_patch _ _ _ 2 _ ⟨0xF018⟩ _ sized memory pc (by decide) fits rfl
      (by rw [arch_eq]; rfl)
  have stored (keyFrame : Bool) (keys : Vector Bool 16) : Timer.sound.stored? .chip8
      (.step keyFrame, { processor.machine with keys }) = some 3 := by
    have faced : Machine.facing? .chip8 { processor.machine with keys } = some (.setSound 0) := by
      rw [← arch_eq]
      exact facing'
    rw [Timer.stored?, faced]
    show some (((processor.machine.v.read 0).toNat : Int)) = some 3
    rw [three]
    rfl
  have shown {past : List (Event × Machine)} {keys : Vector Bool 16} {tick : Machine}
      (past_eq : past =
        [] ++ [(.step true, { processor.machine with keys })] ++ [(.tick, tick)]) :
      latest (Timer.sound.stored? .chip8) past = some 3 ∧
        Timer.sound.ticksSince .chip8 past = 1 := by
    rw [past_eq, latest_concat, latest_concat, stored, Timer.ticksSince_concat,
      Timer.ticksSince_concat, stored]
    exact ⟨rfl, rfl⟩
  refine ⟨processor, processor_eq, ⟨stepped, ?_⟩, ?_⟩
  · obtain ⟨timers, -, buzzing⟩ := count processor stepped [.step true, .tick]
    obtain ⟨value, since⟩ := @shown (processor.moments [.step true, .tick]) _ _ rfl
    have sound : (processor.play [.step true, .tick]).machine.sound = 2 := by
      refine (timers .sound).trans ?_
      rw [value, since]
      rfl
    refine ⟨sound, ?_⟩
    rw [buzzing [.step true] [] rfl List.not_mem_nil]
    show decide (0 < (processor.play [.step true, .tick]).machine.sound) = true
    rw [sound]
    rfl
  · have loads : processor.load #[] = .ok processor := by
      rw [Processor.load, stepped.wellFormed.load_of_fits (by decide)]
      rfl
    rcases started : Session.start processor #[] 1 with fault | opening
    · rw [Session.start, loads] at started
      cases started
    · refine ⟨opening, rfl, ?_⟩
      have begun : (Course.start opening).Reachable .chip8 (.standard .chip8) :=
        ⟨processor, #[], 1, opening, [], stepped, started, rfl⟩
      obtain ⟨after, loads', rfl⟩ := Session.exists_of_start started
      cases loads.symm.trans loads'
      intro course
      have keyed : (course.session.holdKeys Input.idle.held).processor.machine.WellFormed
          (course.session.holdKeys Input.idle.held).processor.arch
          (course.session.holdKeys Input.idle.held).processor.dialect :=
        { stepped.inOrder.wellFormed with }
      have accepted := (Processor.step_of_accepted keyed true facing' rfl).1
      obtain ⟨completed, moments⟩ :=
        @Session.frame_of_step course.session rfl 0 (by decide) .idle rfl accepted
      have value : latest (Timer.sound.stored? .chip8) (course.session.momentsIn 0 .idle) =
          some 3 := by
        rw [moments]
        exact (@shown _ Input.idle.held _ rfl).1
      refine ⟨begun, completed, value, trivial, ?_⟩
      have entry : ∃ told, (course.buzzes [.frame 0 .idle, .resume 1])[0]? = some told := by
        rw [Course.buzzes, completed]
        exact ⟨_, rfl⟩
      obtain ⟨told, entry⟩ := entry
      rw [entry, buzz course begun 0 .idle 3 [.resume 1] completed value trivial 0 told entry]
      rfl

end Chip8
