import Chip8.Proofs.Course
import Chip8.Proofs.FrameDrawing
import Chip8.Proofs.Restart

/-!
# Sessions in order

Whatever is asked of a session, its processor keeps its setting and a well-formed machine, the
program still fits into memory, and the machine that is kept is the one that the last request to
keep it found.
-/

namespace Chip8

/-! ## Steps as events -/

/-- Steps of which at most the first one opens a frame. -/
def Event.burst (keyFrame : Bool) : Nat → List Event
  | 0 => []
  | rest + 1 => .step keyFrame :: burst false rest

theorem Event.burst_true (count : Nat) : burst true count = frame count := by
  have within (count : Nat) : burst false count = List.replicate count (.step false) := by
    induction count with
    | zero => rfl
    | succ count induction => rw [burst, induction, List.replicate_succ]
  cases count with
  | zero => rfl
  | succ rest => rw [burst, frame, within]

namespace Processor

variable {arch : Arch} {dialect : Dialect} {processor after : Processor}

/-- All events succeed. -/
def Succeeds (processor : Processor) (events : List Event) : Prop :=
  ∀ outcome ∈ processor.outcomes events, outcome.result = .ok ()

/-- What events announce. -/
def lines (processor : Processor) (events : List Event) : List String :=
  (processor.outcomes events).flatMap Outcome.lines

theorem succeeds_cons {event : Event} {rest : List Event} :
    processor.Succeeds (event :: rest) ↔
      (processor.happen event).result = .ok () ∧ (processor.happen event).processor.Succeeds rest :=
  List.forall_mem_cons

theorem steps_cases (count : Nat) (keyFrame : Bool) (lines : Array String)
    (processor : Processor) :
    (processor.Succeeds (Event.burst keyFrame count) ∧
      steps count keyFrame lines processor =
        ⟨processor.play (Event.burst keyFrame count),
          lines.toList ++ processor.lines (Event.burst keyFrame count), .ok ()⟩) ∨
    ∃ done event rest fault, Event.burst keyFrame count = done ++ event :: rest ∧
      processor.Succeeds done ∧ ((processor.play done).happen event).result = .error fault ∧
      steps count keyFrame lines processor =
        ⟨processor.play (done ++ [event]), lines.toList ++ processor.lines (done ++ [event]),
          .error fault⟩ := by
  induction count generalizing keyFrame lines processor with
  | zero =>
      refine Or.inl ⟨List.forall_mem_nil _, ?_⟩
      simp [steps, Event.burst, play, Processor.lines, outcomes]
  | succ count induction =>
      rw [steps]
      rcases result : (processor.step keyFrame).result with fault | ⟨⟩
      · refine Or.inr ⟨[], .step keyFrame, _, fault, rfl, List.forall_mem_nil _, result, ?_⟩
        simp [play, Processor.lines, outcomes, happen]
      · dsimp only
        rcases induction false (lines ++ (processor.step keyFrame).lines)
          (processor.step keyFrame).processor with
          ⟨succeeds, ran⟩ | ⟨done, event, rest, fault, split, succeeds, failed, ran⟩
        · refine Or.inl ⟨succeeds_cons.mpr ⟨result, succeeds⟩, ?_⟩
          rw [ran]
          simp [Event.burst, play_cons, Processor.lines, outcomes, happen]
        · refine Or.inr ⟨.step keyFrame :: done, event, rest, fault, ?_,
            succeeds_cons.mpr ⟨result, succeeds⟩, failed, ?_⟩
          · rw [Event.burst, split, List.cons_append]
          · rw [ran]
            simp [play_cons, Processor.lines, outcomes, happen]

namespace InOrder

theorem withMachine (inOrder : processor.InOrder arch dialect) {machine : Machine}
    (wellFormed : machine.WellFormed arch dialect) :
    { processor with machine }.InOrder arch dialect := by
  obtain ⟨live, dice, setting⟩ := inOrder.setting
  exact ⟨⟨live, dice, setting.trans ⟨_, _, _, _, rfl⟩⟩, wellFormed⟩

theorem arch_eq (inOrder : processor.InOrder arch dialect) : processor.arch = arch := by
  obtain ⟨live, dice, _, _, _, _, rfl⟩ := inOrder.setting
  rfl

theorem dialect_eq (inOrder : processor.InOrder arch dialect) : processor.dialect = dialect := by
  obtain ⟨live, dice, _, _, _, _, rfl⟩ := inOrder.setting
  rfl

theorem step (inOrder : processor.InOrder arch dialect) (keyFrame : Bool) :
    (processor.step keyFrame).processor.InOrder arch dialect := by
  obtain ⟨live, dice, setting⟩ := inOrder.setting
  have machine := inOrder.machine
  obtain rfl := inOrder.arch_eq
  obtain rfl := inOrder.dialect_eq
  exact ⟨⟨live, dice, setting.trans (sameSetting_step processor keyFrame)⟩,
    (wellFormed_step machine keyFrame).2.2⟩

theorem happen (inOrder : processor.InOrder arch dialect) (event : Event) :
    (processor.happen event).processor.InOrder arch dialect := by
  cases event with
  | step keyFrame => exact inOrder.step keyFrame
  | tick => exact inOrder.withMachine inOrder.machine.tick
  | setKey key held =>
      rw [Processor.happen, setKey]
      rcases accepted : processor.machine.setKey key held with fault | machine
      · exact inOrder
      · exact inOrder.withMachine (inOrder.machine.setKey accepted)

theorem play (inOrder : processor.InOrder arch dialect) (events : List Event) :
    (processor.play events).InOrder arch dialect := by
  induction events generalizing processor with
  | nil => exact inOrder
  | cons event rest induction => exact induction (inOrder.happen event)

end InOrder

/-- The processor as it was switched on, with a program loaded and the flags as they are. -/
def restarted (processor : Processor) (program : Array UInt8) : Processor :=
  let fresh := Machine.powerOn processor.arch processor.dialect
  { Processor.powerOn processor.arch processor.dialect processor.live processor.dice with
    machine := { fresh with
      memory := fresh.memory.patch Machine.programStart program
      flags := processor.machine.flags } }

theorem InOrder.load_reset (inOrder : processor.InOrder arch dialect) {program : Array UInt8}
    (fits : Machine.programStart + program.size ≤ arch.memorySize) :
    processor.reset.load program = .ok (processor.restarted program) := by
  have fresh := Machine.wellFormed_powerOn arch dialect
  rw [inOrder.reset_eq, load_withFlags, Processor.load, Processor.powerOn, fresh.load_of_fits fits,
    restarted, inOrder.arch_eq, inOrder.dialect_eq]
  rfl

theorem InOrder.reset (inOrder : processor.InOrder arch dialect) :
    processor.reset.InOrder arch dialect := by
  obtain ⟨live, dice, setting⟩ := inOrder.setting
  have machine : (processor.machine.reset processor.arch).WellFormed arch dialect := by
    rw [inOrder.arch_eq]
    exact inOrder.machine.reset
  exact ⟨⟨live, dice, setting.trans ⟨_, _, _, _, rfl⟩⟩, machine⟩

theorem exists_of_load {program : Array UInt8} (load : processor.load program = .ok after) :
    ∃ machine, processor.machine.load program = .ok machine ∧
      after = { processor with machine } := by
  rw [Processor.load] at load
  rcases loaded : processor.machine.load program with fault | machine
  · rw [loaded] at load
    cases load
  · rw [loaded] at load
    cases load
    exact ⟨machine, rfl, rfl⟩

theorem InOrder.load (inOrder : processor.InOrder arch dialect) {program : Array UInt8}
    (load : processor.load program = .ok after) : after.InOrder arch dialect := by
  obtain ⟨machine, loaded, rfl⟩ := exists_of_load load
  exact inOrder.withMachine (inOrder.machine.load loaded)

theorem InOrder.fits_of_load (inOrder : processor.InOrder arch dialect) {program : Array UInt8}
    (load : processor.load program = .ok after) :
    Machine.programStart + program.size ≤ arch.memorySize := by
  obtain ⟨machine, loaded, -⟩ := exists_of_load load
  exact inOrder.machine.fits_of_load loaded

end Processor

/-! ## Requests -/

/-- The machine that a request keeps. -/
def HostAction.kept? : HostAction × Machine → Option Machine
  | (.saveState, machine) => some machine
  | _ => none

namespace Session

variable {arch : Arch} {dialect : Dialect} {session after : Session}

/-- The session has a processor in order, and a program that fits into memory. -/
structure InOrder (arch : Arch) (dialect : Dialect) (session : Session) : Prop where
  /-- The processor. -/
  processor : session.processor.InOrder arch dialect
  /-- The machine that was kept last. -/
  saved : ∀ machine ∈ session.saved, machine.WellFormed arch dialect
  /-- The program. -/
  fits : Machine.programStart + session.program.size ≤ arch.memorySize

theorem InOrder.restart_eq (inOrder : session.InOrder arch dialect) :
    session.restart =
      ⟨{ session with processor := session.processor.restarted session.program }, [], .ok ()⟩ := by
  rw [restart]
  simp only [inOrder.processor.load_reset inOrder.fits]

theorem InOrder.apply (inOrder : session.InOrder arch dialect) (action : HostAction) :
    (session.apply action).session.InOrder arch dialect := by
  cases action with
  | reset =>
      rw [Session.apply, inOrder.restart_eq]
      exact { inOrder with
          processor := inOrder.processor.reset.load (inOrder.processor.load_reset inOrder.fits) }
  | saveState =>
      refine { inOrder with saved := ?_ }
      rintro machine ⟨⟩
      exact inOrder.processor.machine
  | loadState =>
      rw [Session.apply]
      split
      case h_1 machine kept =>
        exact { inOrder with
          processor := inOrder.processor.withMachine (inOrder.saved machine kept) }
      case h_2 => exact inOrder
  | _ => exact { inOrder with }

theorem saved_apply (session : Session) (action : HostAction) :
    (session.apply action).session.saved =
      (HostAction.kept? (action, session.processor.machine)).or session.saved := by
  cases action with
  | reset =>
      simp only [Session.apply, restart]
      split <;> rfl
  | loadState =>
      simp only [Session.apply]
      split <;> rfl
  | _ => rfl

theorem InOrder.applyAll (inOrder : session.InOrder arch dialect) (actions : List HostAction) :
    (Session.applyAll actions session).session.InOrder arch dialect := by
  induction actions generalizing session with
  | nil => exact inOrder
  | cons action rest induction =>
      by_cases quits : action = .quit
      · subst quits
        exact inOrder
      · rw [applyAll_cons quits, Progress.andThen]
        split
        · exact inOrder.apply action
        · exact induction (inOrder.apply action)

/-- What is kept is what the last request to keep the machine found. -/
theorem saved_applyAll (actions : List HostAction) (session : Session) :
    (applyAll actions session).session.saved =
      (latest HostAction.kept? (requested actions session)).or session.saved := by
  induction actions generalizing session with
  | nil => rfl
  | cons action rest induction =>
      by_cases quits : action = .quit
      · subst quits
        rfl
      · have applied := session.saved_apply action
        rw [applyAll_cons quits, requested_cons quits, Progress.andThen, latest_cons]
        rcases (session.apply action).result with stop | ⟨⟩
        · exact applied
        · dsimp only
          rw [induction, applied, Option.or_assoc]

theorem InOrder.holdKeys (inOrder : session.InOrder arch dialect) (held : Vector Bool 16) :
    (session.holdKeys held).InOrder arch dialect :=
  { inOrder with processor := inOrder.processor.withMachine { inOrder.processor.machine with } }

/-- The steps of a frame succeed one after the other, or up to one that fails. -/
theorem execute_cases (session : Session) :
    let events := Event.frame session.ticks.toNat
    let after (done : List Event) : Session :=
      { session with processor := session.processor.play done }
    let printed (done : List Event) : List Sent :=
      (session.processor.lines done).map (⟨.line ·, after done⟩)
    (session.processor.Succeeds events ∧
      session.execute = ⟨after events, printed events, .ok ()⟩) ∨
    ∃ done event rest fault, events = done ++ event :: rest ∧ session.processor.Succeeds done ∧
      ((session.processor.play done).happen event).result = .error fault ∧
      session.execute =
        ⟨after (done ++ [event]), printed (done ++ [event]), .error (.fault fault)⟩ := by
  rw [execute, ← Event.burst_true]
  rcases session.processor.steps_cases session.ticks.toNat true #[] with
    ⟨succeeds, ran⟩ | ⟨done, event, rest, fault, split, succeeds, fails, ran⟩
  · rw [ran]
    exact Or.inl ⟨succeeds, rfl⟩
  · rw [ran]
    exact Or.inr ⟨done, event, rest, fault, split, succeeds, fails, rfl⟩

theorem InOrder.execute (inOrder : session.InOrder arch dialect) :
    session.execute.session.InOrder arch dialect := by
  rcases session.execute_cases with ⟨-, ran⟩ | ⟨_, _, _, _, -, -, -, ran⟩
  all_goals
    rw [ran]
    exact { inOrder with processor := inOrder.processor.play _ }

/-- At the end of a frame only the sound device is told of something, then the picture is shown. -/
theorem exists_finish_signals (session : Session) :
    ∃ commands, session.finish.signals = List.map Signal.sound commands ++
      [.frame session.finish.session.processor.machine.screen.colours] := by
  let machine := session.finish.session.processor.machine
  let rate := Sound.rate machine.pitch
  refine ⟨news (session.rate.map Int.ofNat) (rate : Int) (.rate rate) ++
    news session.pattern machine.pattern (.pattern machine.pattern) ++
    [.buzzer machine.beeping], ?_⟩
  rw [List.map_append, List.map_append, map_news, map_news, List.append_assoc]
  exact session.finish_signals

theorem InOrder.finish (inOrder : session.InOrder arch dialect) :
    session.finish.session.InOrder arch dialect :=
  { inOrder with processor := inOrder.processor.withMachine inOrder.processor.machine.tick }

end Session

namespace Course

variable {arch : Arch} {dialect : Dialect} {course : Course}

/-- The session is in order, and it keeps what the last request to keep the machine found. -/
structure InOrder (arch : Arch) (dialect : Dialect) (course : Course) : Prop where
  /-- The session. -/
  session : course.session.InOrder arch dialect
  /-- The machine that is kept. -/
  saved : course.session.saved = latest HostAction.kept? course.requests

theorem requestedIn_of_reported {session opened : Session} {now : Float} {report : List Sent}
    (reported : session.reportPerformance now = ⟨opened, report, .ok ()⟩) (input : Input) :
    requestedIn session now input = Session.requested input.actions opened := by
  simp only [requestedIn, reported]

namespace InOrder

theorem report (inOrder : course.InOrder arch dialect) (now : Float) :
    (course.report now).InOrder arch dialect := by
  rw [Course.report]
  rcases course.session.reportPerformance_cases now with
    ⟨-, -, reported⟩ | ⟨_, _, _, _, reported, -⟩
  · rw [reported]
    exact ⟨inOrder.session, inOrder.saved⟩
  · rw [reported]
    exact ⟨{ inOrder.session with }, inOrder.saved⟩

theorem asked (inOrder : course.InOrder arch dialect) {actions : List HostAction} {asked : Session}
    {told : List Sent} {result : Except Stop Bool}
    (applied : Session.applyAll actions course.session = ⟨asked, told, result⟩)
    (signals : List Signal) :
    InOrder arch dialect
      ⟨asked, signals, course.requests ++ Session.requested actions course.session⟩ := by
  have session := inOrder.session.applyAll actions
  have saved := Session.saved_applyAll actions course.session
  rw [applied] at session saved
  refine ⟨session, ?_⟩
  rw [latest_append, ← inOrder.saved]
  exact saved

theorem executed {asked later : Session} {signals : List Signal} {lines : List Sent}
    {requests : List (HostAction × Machine)} {held : Vector Bool 16} {result : Except Stop Unit}
    (inOrder : InOrder arch dialect ⟨asked, signals, requests⟩)
    (executed : (asked.holdKeys held).execute = ⟨later, lines, result⟩) (told : List Signal) :
    InOrder arch dialect ⟨later, told, requests⟩ := by
  have session := (inOrder.session.holdKeys held).execute
  have saved : (asked.holdKeys held).execute.session.saved = asked.saved := rfl
  rw [executed] at session saved
  exact ⟨session, saved.trans inOrder.saved⟩

theorem take (inOrder : course.InOrder arch dialect) (turn : Turn) :
    (course.take turn).InOrder arch dialect := by
  cases turn with
  | resume now => exact ⟨{ inOrder.session with }, inOrder.saved⟩
  | frame now input =>
      have reporting := inOrder.report now
      have ended := course.session.frame_ended now input
      rw [Course.take]
      rw [Course.report] at reporting
      generalize course.session.frame now input = progress at ended ⊢
      cases ended with
      | endless _ _ reported =>
          simp only [requestedIn, reported, List.append_nil]
          exact ⟨inOrder.session, inOrder.saved⟩
      | refused reported applied | quit reported applied =>
          rw [reported] at reporting
          rw [requestedIn_of_reported reported]
          exact reporting.asked applied _
      | stopped reported applied executed =>
          rw [reported] at reporting
          rw [requestedIn_of_reported reported]
          exact (reporting.asked applied []).executed executed _
      | finished reported applied executed =>
          rw [reported] at reporting
          rw [requestedIn_of_reported reported]
          have executing := (reporting.asked applied []).executed executed []
          exact ⟨executing.session.finish, executing.saved⟩

theorem run (inOrder : course.InOrder arch dialect) (turns : List Turn) :
    (course.run turns).InOrder arch dialect := by
  induction turns generalizing course with
  | nil => exact inOrder
  | cons turn rest induction => exact induction (inOrder.take turn)

end InOrder

theorem inOrder_start {processor : Processor} (reachable : processor.Reachable arch dialect)
    {program : Array UInt8} {ticks : Int} {opening : Session × List Signal}
    (started : Session.start processor program ticks = .ok opening) :
    (start opening).InOrder arch dialect := by
  obtain ⟨after, loaded, rfl⟩ := Session.exists_of_start started
  have session := reachable.inOrder.load loaded
  have fits := reachable.inOrder.fits_of_load loaded
  exact ⟨⟨session, fun _ kept => absurd kept (Option.not_mem_none _), fits⟩, rfl⟩

/-- A course that a session with a processor of this architecture and dialect can take. -/
def Reachable (arch : Arch) (dialect : Dialect) (course : Course) : Prop :=
  ∃ processor program ticks opening turns, processor.Reachable arch dialect ∧
    Session.start processor program ticks = .ok opening ∧ (start opening).run turns = course

theorem Reachable.inOrder (reachable : course.Reachable arch dialect) :
    course.InOrder arch dialect := by
  obtain ⟨_, _, _, _, turns, processor, started, rfl⟩ := reachable
  exact (inOrder_start processor started).run turns

end Course

end Chip8
