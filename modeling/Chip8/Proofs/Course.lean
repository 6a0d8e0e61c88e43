import Chip8.Session

/-!
# Courses of sessions

A session is asked for frames, one after the other and whatever comes of each, and may wait in
between.  A frame ends in one of five ways: the clock stops it, a request is refused, the user
quits, the machine stops, or all of it is done.
-/

namespace Chip8

/-- What may be asked of a session. -/
inductive Turn where
  /-- A frame, at a time and with what the user does before it. -/
  | frame (now : Float) (input : Input)
  /-- To go on after waiting until a time. -/
  | resume (now : Float)

namespace Session

variable {session : Session} {now : Float} {input : Input}

/-- The ways in which a frame ends. -/
inductive Ended (session : Session) (now : Float) (input : Input) : Progress Bool → Prop
  /-- A report is due at an infinite time. -/
  | endless (due : session.nextReport ≤ now) (infinite : now.isInf = true)
      (reported : session.reportPerformance now = ⟨session, [], .error .endlessTime⟩) :
      Ended session now input ⟨session, [], .error .endlessTime⟩
  /-- A request is refused. -/
  | refused {opened asked : Session} {report requests : List Sent} {stop : Stop}
      (reported : session.reportPerformance now = ⟨opened, report, .ok ()⟩)
      (applied : applyAll input.actions opened = ⟨asked, requests, .error stop⟩) :
      Ended session now input ⟨asked, report ++ requests, .error stop⟩
  /-- The user quits. -/
  | quit {opened asked : Session} {report requests : List Sent}
      (reported : session.reportPerformance now = ⟨opened, report, .ok ()⟩)
      (applied : applyAll input.actions opened = ⟨asked, requests, .ok false⟩) :
      Ended session now input ⟨asked, report ++ requests, .ok false⟩
  /-- An instruction fails. -/
  | stopped {opened asked later : Session} {report requests lines : List Sent} {stop : Stop}
      (reported : session.reportPerformance now = ⟨opened, report, .ok ()⟩)
      (applied : applyAll input.actions opened = ⟨asked, requests, .ok true⟩)
      (executed : (asked.holdKeys input.held).execute = ⟨later, lines, .error stop⟩) :
      Ended session now input ⟨later, report ++ requests ++ lines, .error stop⟩
  /-- The frame is completed. -/
  | finished {opened asked later : Session} {report requests lines : List Sent}
      (reported : session.reportPerformance now = ⟨opened, report, .ok ()⟩)
      (applied : applyAll input.actions opened = ⟨asked, requests, .ok true⟩)
      (executed : (asked.holdKeys input.held).execute = ⟨later, lines, .ok ()⟩) :
      Ended session now input
        ⟨later.finish.session, report ++ requests ++ lines ++ later.finish.sent, .ok true⟩

/-- A session starts with its program loaded, and has kept and told nothing yet. -/
theorem exists_of_start {processor : Processor} {program : Array UInt8} {ticks : Int}
    {opening : Session × List Signal} (started : start processor program ticks = .ok opening) :
    ∃ loaded, processor.load program = .ok loaded ∧
      opening =
        ({ processor := loaded, program, ticks
           saved := none, muted := false, rate := none, pattern := none
           nextFrame := 0, nextReport := 0, frames := 0, instructions := 0 },
          [.resolution loaded.machine.screen.width loaded.machine.screen.height]) := by
  rw [start] at started
  rcases load : processor.load program with fault | loaded
  · rw [load] at started
    cases started
  · rw [load] at started
    cases started
    exact ⟨loaded, rfl, rfl⟩

/-- Reporting is stopped by the clock, or tells the devices at most a performance and changes
nothing but the counters.  The counters are as they were while the devices react. -/
theorem reportPerformance_cases (session : Session) (now : Float) :
    (session.nextReport ≤ now ∧ now.isInf = true ∧
      session.reportPerformance now = ⟨session, [], .error .endlessTime⟩) ∨
    ∃ nextReport frames instructions report,
      session.reportPerformance now =
        ⟨{ session with nextReport, frames, instructions }, report, .ok ()⟩ ∧
      ∀ sent ∈ report, sent.signal = .performance session.frames session.instructions ∧
        sent.session = { session with nextReport } := by
  rw [reportPerformance]
  split
  case isTrue endless =>
    obtain ⟨due, infinite⟩ := Bool.and_eq_true_iff.mp endless
    exact Or.inl ⟨of_decide_eq_true due, infinite, rfl⟩
  case isFalse =>
    right
    split
    · exact ⟨_, _, _, _, rfl, List.forall_mem_singleton.mpr ⟨rfl, rfl⟩⟩
    · exact ⟨session.nextReport, _, _, _, rfl, List.forall_mem_nil _⟩

theorem applyAll_cons {action : HostAction} (goesOn : action ≠ .quit) (rest : List HostAction)
    (session : Session) :
    applyAll (action :: rest) session = (session.apply action).andThen fun _ => applyAll rest := by
  cases action with
  | quit => exact absurd rfl goesOn
  | _ => rfl

theorem finish_result (session : Session) : session.finish.result = .ok () := rfl

theorem frame_ended (session : Session) (now : Float) (input : Input) :
    session.Ended now input (session.frame now input) := by
  rw [frame]
  rcases session.reportPerformance_cases now with
    ⟨due, infinite, reported⟩ | ⟨_, _, _, report, reported, -⟩
  · rw [reported]
    exact .endless due infinite reported
  · rw [reported]
    generalize { session with nextReport := _, frames := _, instructions := _ } = opened at reported
    rcases applied : applyAll input.actions opened with ⟨asked, requests, stop | _ | _⟩
    · simp only [Progress.andThen, applied]
      exact .refused reported applied
    · simpa [Progress.andThen, applied] using Ended.quit reported applied
    · rcases executed : (asked.holdKeys input.held).execute with ⟨later, lines, stop | ⟨⟩⟩
      · simpa [Progress.andThen, applied, executed] using Ended.stopped reported applied executed
      · simpa [Progress.andThen, applied, executed, finish_result] using
          Ended.finished reported applied executed

/-! ## Between the report and the end of a frame -/

end Session

/-- The signal is none of those by which a frame reports the performance, tunes the sound device and
shows its picture. -/
def Signal.IsAside : Signal → Prop
  | .performance _ _ | .sound (.rate _) | .sound (.pattern _) | .frame _ => False
  | _ => True

namespace Session

variable {session before middle after : Session} {now : Float} {input : Input}
  {first second : List Sent}

/-- The sessions have counted the same frames and instructions, remember having told the sound device
the same and wait for the same time. -/
structure Alongside (before after : Session) : Prop where
  /-- Frames since the last report. -/
  frames : after.frames = before.frames
  /-- Instructions since the last report. -/
  instructions : after.instructions = before.instructions
  /-- The rate told last. -/
  rate : after.rate = before.rate
  /-- The pattern told last. -/
  pattern : after.pattern = before.pattern
  /-- Time of the next frame. -/
  nextFrame : after.nextFrame = before.nextFrame

/-- From one session to another all signals are aside, and all sessions on the way go alongside. -/
structure Aside (before after : Session) (sent : List Sent) : Prop where
  /-- Afterwards. -/
  after : before.Alongside after
  /-- On the way. -/
  sent : ∀ entry ∈ sent, entry.signal.IsAside ∧ before.Alongside entry.session

theorem Alongside.trans (one : before.Alongside middle) (other : middle.Alongside after) :
    before.Alongside after where
  frames := other.frames.trans one.frames
  instructions := other.instructions.trans one.instructions
  rate := other.rate.trans one.rate
  pattern := other.pattern.trans one.pattern
  nextFrame := other.nextFrame.trans one.nextFrame

theorem Aside.of_silent (along : before.Alongside after) : before.Aside after [] :=
  ⟨along, List.forall_mem_nil _⟩

theorem Aside.trans (one : before.Aside middle first) (other : middle.Aside after second) :
    before.Aside after (first ++ second) where
  after := one.after.trans other.after
  sent := List.forall_mem_append.mpr
    ⟨one.sent, fun entry member => (other.sent entry member).imp_right one.after.trans⟩

theorem aside_apply (session : Session) (action : HostAction) :
    session.Aside (session.apply action).session (session.apply action).sent := by
  cases action with
  | reset =>
      simp only [apply, restart]
      split <;> exact .of_silent ⟨rfl, rfl, rfl, rfl, rfl⟩
  | loadState =>
      simp only [apply]
      split <;> exact .of_silent ⟨rfl, rfl, rfl, rfl, rfl⟩
  | nextPalette | previousPalette =>
      exact ⟨⟨rfl, rfl, rfl, rfl, rfl⟩,
        List.forall_mem_singleton.mpr ⟨trivial, ⟨rfl, rfl, rfl, rfl, rfl⟩⟩⟩
  | toggleMute =>
      refine ⟨⟨rfl, rfl, rfl, rfl, rfl⟩, List.forall_mem_map.mpr fun command member => ?_⟩
      rw [Sound.toggleMute] at member
      refine ⟨?_, ⟨rfl, rfl, rfl, rfl, rfl⟩⟩
      split at member <;> simp only [List.mem_cons, List.not_mem_nil, or_false] at member
      · rw [member]
        trivial
      · rcases member with rfl | rfl <;> trivial
  | _ => exact .of_silent ⟨rfl, rfl, rfl, rfl, rfl⟩

theorem aside_applyAll (actions : List HostAction) (session : Session) :
    session.Aside (applyAll actions session).session (applyAll actions session).sent := by
  induction actions generalizing session with
  | nil => exact .of_silent ⟨rfl, rfl, rfl, rfl, rfl⟩
  | cons action rest induction =>
      by_cases quits : action = .quit
      · subst quits
        exact .of_silent ⟨rfl, rfl, rfl, rfl, rfl⟩
      · rw [applyAll_cons quits, Progress.andThen]
        split
        · exact session.aside_apply action
        · exact (session.aside_apply action).trans (induction _)

theorem aside_execute (session : Session) (held : Vector Bool 16) :
    session.Aside (session.holdKeys held).execute.session
      (session.holdKeys held).execute.sent :=
  ⟨⟨rfl, rfl, rfl, rfl, rfl⟩,
    List.forall_mem_map.mpr fun _ _ => ⟨trivial, ⟨rfl, rfl, rfl, rfl, rfl⟩⟩⟩

/-- The session whose instructions are executed in a frame: the requests of the frame have been
applied. -/
def prepared (session : Session) (now : Float) (input : Input) : Session :=
  (applyAll input.actions (session.reportPerformance now).session).session

/-- A frame begins with its report and ends with its last part if it is completed; all else that it
tells is aside. -/
theorem frame_aside (session : Session) (now : Float) (input : Input) :
    let opening := session.reportPerformance now
    let later := ((session.prepared now input).holdKeys input.held).execute.session
    let progress := session.frame now input
    (progress.result ≠ .ok true ∧ ∃ others, opening.session.Aside progress.session others ∧
        progress.sent = opening.sent ++ others) ∨
      ∃ others, opening.session.Aside later others ∧
        progress = ⟨later.finish.session, opening.sent ++ others ++ later.finish.sent, .ok true⟩ := by
  intro opening later progress
  have ended : session.Ended now input progress := session.frame_ended now input
  have asking := aside_applyAll input.actions opening.session
  have executing := (session.prepared now input).aside_execute input.held
  simp only [later, prepared] at executing ⊢
  generalize progress = ending at ended ⊢
  cases ended with
  | endless due infinite reported =>
      simp only [opening, reported]
      exact Or.inl ⟨nofun, [], .of_silent ⟨rfl, rfl, rfl, rfl, rfl⟩, rfl⟩
  | refused reported applied | quit reported applied =>
      simp only [opening, reported, applied] at asking ⊢
      exact Or.inl ⟨nofun, _, asking, rfl⟩
  | stopped reported applied executed =>
      simp only [opening, reported, applied, executed] at asking executing ⊢
      exact Or.inl ⟨nofun, _, asking.trans executing, List.append_assoc ..⟩
  | finished reported applied executed =>
      simp only [opening, reported, applied, executed] at asking executing ⊢
      exact Or.inr ⟨_, asking.trans executing, by simp only [List.append_assoc]⟩

/-- Reporting changes nothing but the counters, and when to report again. -/
theorem exists_reportPerformance_eq (session : Session) (now : Float) :
    ∃ nextReport frames instructions, (session.reportPerformance now).session =
      { session with nextReport, frames, instructions } := by
  rcases session.reportPerformance_cases now with ⟨-, -, reported⟩ | ⟨_, _, _, _, reported, -⟩
  all_goals
    rw [reported]
    exact ⟨_, _, _, rfl⟩

/-- At a finite time, a frame is completed if its requests neither replace the processor nor end the
session and its steps succeed. -/
theorem frame_of_steps (finite : now.isInf = false)
    (spares : ∀ opened, (applyAll input.actions opened).result = .ok true ∧
      (applyAll input.actions opened).session.processor = opened.processor)
    (succeeds : ((session.holdKeys input.held).processor.steps
      (session.prepared now input).ticks.toNat true #[]).result = .ok ()) :
    (session.frame now input).result = .ok true ∧
      (session.frame now input).session.processor =
        ((session.holdKeys input.held).processor.steps
          (session.prepared now input).ticks.toNat true #[]).processor.tick := by
  obtain ⟨goesOn, same⟩ := spares (session.reportPerformance now).session
  obtain ⟨_, _, _, opened⟩ := session.exists_reportPerformance_eq now
  replace same := same.trans (congrArg processor opened)
  have entered : ((session.prepared now input).holdKeys input.held).processor =
      (session.holdKeys input.held).processor := by
    simp only [holdKeys, prepared, same]
  have ticks : ((session.prepared now input).holdKeys input.held).ticks =
    (session.prepared now input).ticks := rfl
  rcases session.reportPerformance_cases now with
    ⟨-, infinite, -⟩ | ⟨_, _, _, report, reported, -⟩
  · exact absurd (finite.symm.trans infinite) Bool.false_ne_true
  have goesOn' := goesOn
  rw [reported] at goesOn'
  have ran : ((session.prepared now input).holdKeys input.held).execute.result = .ok () := by
    rw [execute, entered, ticks]
    exact congrArg (Except.mapError Stop.fault) succeeds
  rw [← entered, ← ticks]
  rw [prepared, reported] at ran ⊢
  rw [frame, reported]
  simp only [Progress.andThen, goesOn', ran, if_pos, finish_result]
  exact ⟨trivial, rfl⟩

/-! ## Requests that are applied -/

/-- The requests that are applied, each with the machine that it is applied to. -/
def requested : List HostAction → Session → List (HostAction × Machine)
  | [], _ => []
  | .quit :: _, _ => []
  | action :: rest, session =>
      (action, session.processor.machine) ::
        match (session.apply action).result with
        | .ok () => requested rest (session.apply action).session
        | .error _ => []

theorem requested_cons {action : HostAction} (goesOn : action ≠ .quit) (rest : List HostAction)
    (session : Session) :
    requested (action :: rest) session =
      (action, session.processor.machine) ::
        match (session.apply action).result with
        | .ok () => requested rest (session.apply action).session
        | .error _ => [] := by
  cases action with
  | quit => exact absurd rfl goesOn
  | _ => rfl

end Session

/-- The last value that a history shows. -/
def latest {α β : Type} (show? : α → Option β) (history : List α) : Option β :=
  history.reverse.findSome? show?

section Latest

variable {α β : Type} {show? : α → Option β}

theorem latest_append (first second : List α) :
    latest show? (first ++ second) = (latest show? second).or (latest show? first) := by
  simp [latest, List.reverse_append, List.findSome?_append]

theorem latest_singleton (entry : α) : latest show? [entry] = show? entry := by
  simp [latest]

theorem latest_cons (first : α) (rest : List α) :
    latest show? (first :: rest) = (latest show? rest).or (show? first) := by
  rw [← List.singleton_append, latest_append, latest_singleton]

theorem latest_concat (past : List α) (last : α) :
    latest show? (past ++ [last]) = (show? last).or (latest show? past) := by
  rw [latest_append, latest_singleton]

theorem latest_of_silent {history : List α} (silent : ∀ entry ∈ history, show? entry = none) :
    latest show? history = none := by
  simpa [latest, List.findSome?_eq_none_iff] using silent

theorem latest_append_of_silent (first : List α) {second : List α}
    (silent : ∀ entry ∈ second, show? entry = none) :
    latest show? (first ++ second) = latest show? first := by
  rw [latest_append, latest_of_silent silent, Option.none_or]

end Latest

/-- What is told of a value: nothing if it is what was told last. -/
def news {α β : Type} [DecidableEq β] (told : Option β) (value : β) (telling : α) : List α :=
  if told = some value then [] else [telling]

section News

variable {α β : Type} [DecidableEq β] {told : Option β} {value : β} {telling : α}

theorem latest_append_news {show? : α → Option β} {history : List α}
    (before : latest show? history = told) (shown : show? telling = some value) :
    latest show? (history ++ news told value telling) = some value := by
  rw [news]
  split
  case isTrue same => rw [List.append_nil, before, same]
  case isFalse =>
    rw [latest_append, latest_singleton, shown, Option.some_or]

theorem forall_mem_news {motive : α → Prop} (holds : motive telling) :
    ∀ entry ∈ news told value telling, motive entry := by
  rw [news]
  split
  · exact List.forall_mem_nil _
  · exact List.forall_mem_singleton.mpr holds

theorem map_news {γ : Type} (f : α → γ) :
    (news told value telling).map f = news told value (f telling) := by
  rw [news, news]
  split <;> rfl

end News

namespace Session

/-- What the last part of a completed frame sends, and how the session stands meanwhile. -/
theorem finish_sent (session : Session) :
    let processor := session.processor.tick
    let machine := processor.machine
    let rate := Sound.rate machine.pitch
    let tuned := { session with processor, rate := some rate }
    let updated := { tuned with pattern := some machine.pattern }
    session.finish.sent =
      news session.rate rate ⟨.sound (.rate rate), tuned⟩ ++
        news session.pattern machine.pattern ⟨.sound (.pattern machine.pattern), updated⟩ ++
        [⟨.sound (.buzzer machine.beeping), updated⟩] ++
        [⟨.frame machine.screen.colours, updated⟩] :=
  rfl

/-- While the last part of a frame is told, nothing but the processor and what is remembered of the
sound device has changed. -/
theorem exists_of_mem_finish_sent (session : Session) : ∀ entry ∈ session.finish.sent,
    (∀ frames instructions, entry.signal ≠ .performance frames instructions) ∧
      ∃ processor rate pattern, entry.session = { session with processor, rate, pattern } := by
  rw [finish_sent]
  refine List.forall_mem_append.mpr ⟨List.forall_mem_append.mpr ⟨List.forall_mem_append.mpr
    ⟨forall_mem_news ?_, forall_mem_news ?_⟩, List.forall_mem_singleton.mpr ?_⟩,
    List.forall_mem_singleton.mpr ?_⟩
  all_goals exact ⟨nofun, _, _, _, rfl⟩

/-- The picture is the last thing that a completed frame tells, and it is counted after that.  Until
then nothing but the processor and what is remembered of the sound device has changed since the
requests. -/
theorem exists_picture {session : Session} {now : Float} {input : Input}
    (completed : (session.frame now input).result = .ok true) :
    ∃ told processor rate pattern,
      let shown := { session.prepared now input with processor, rate, pattern }
      session.frame now input =
        ⟨{ shown with
            frames := shown.frames + 1
            instructions := shown.instructions + shown.ticks },
          told ++ [⟨.frame processor.machine.screen.colours, shown⟩], .ok true⟩ ∧
      ∀ entry ∈ told, ∀ colours, entry.signal ≠ .frame colours := by
  rcases session.frame_aside now input with ⟨other, -⟩ | ⟨others, aside, framed⟩
  · exact absurd completed other
  rw [finish_sent, ← List.append_assoc] at framed
  refine ⟨_, _, _, _, framed, ?_⟩
  have opening : ∀ entry ∈ (session.reportPerformance now).sent, ∀ colours,
      entry.signal ≠ .frame colours := by
    rcases session.reportPerformance_cases now with
      ⟨-, -, reported⟩ | ⟨_, _, _, report, reported, told⟩
    · rw [reported]
      exact List.forall_mem_nil _
    · rw [reported]
      intro entry member colours
      rw [(told entry member).1]
      exact nofun
  have between : ∀ entry ∈ others, ∀ colours, entry.signal ≠ .frame colours := by
    intro entry member colours same
    have unlike := (aside.sent entry member).1
    rw [same] at unlike
    exact unlike
  refine List.forall_mem_append.mpr ⟨List.forall_mem_append.mpr ⟨opening, between⟩,
    List.forall_mem_append.mpr ⟨List.forall_mem_append.mpr
      ⟨forall_mem_news ?_, forall_mem_news ?_⟩, List.forall_mem_singleton.mpr ?_⟩⟩
  all_goals exact nofun

/-- What the last part of a completed frame tells. -/
theorem finish_signals (session : Session) :
    let machine := session.finish.session.processor.machine
    session.finish.signals =
      news (session.rate.map Int.ofNat) (Sound.rate machine.pitch : Int)
          (.sound (.rate (Sound.rate machine.pitch))) ++
        news session.pattern machine.pattern (.sound (.pattern machine.pattern)) ++
        [.sound (.buzzer machine.beeping), .frame machine.screen.colours] := by
  intro machine
  have same : session.rate.map Int.ofNat = some (Sound.rate machine.pitch : Int) ↔
      session.rate = some (Sound.rate machine.pitch) := by
    rcases session.rate with _ | told
    · exact iff_of_false nofun nofun
    · exact ⟨fun eq => congrArg some (Int.ofNat.inj (Option.some.inj eq)),
        congrArg (Option.map Int.ofNat)⟩
  rw [Progress.signals, session.finish_sent, List.map_append, List.map_append, List.map_append,
    map_news, map_news, List.append_assoc _ (List.map _ _)]
  simp only [news, same]
  rfl

end Session

/-- A session with its past. -/
structure Course where
  /-- The session. -/
  session : Session
  /-- Everything that the devices were told. -/
  signals : List Signal
  /-- The requests that were applied, each with the machine that it was applied to. -/
  requests : List (HostAction × Machine)

namespace Course

/-- The course of a session that has just been started. -/
def start (opening : Session × List Signal) : Course := ⟨opening.1, opening.2, []⟩

/-- The course with a performance report that comes first in a frame. -/
def report (course : Course) (now : Float) : Course :=
  let progress := course.session.reportPerformance now
  { course with session := progress.session, signals := course.signals ++ progress.signals }

/-- The requests that are applied in a frame. -/
def requestedIn (session : Session) (now : Float) (input : Input) : List (HostAction × Machine) :=
  let progress := session.reportPerformance now
  match progress.result with
  | .ok () => Session.requested input.actions progress.session
  | .error _ => []

/-- The course a turn later. -/
def take (course : Course) : Turn → Course
  | .frame now input =>
      let progress := course.session.frame now input
      { session := progress.session
        signals := course.signals ++ progress.signals
        requests := course.requests ++ requestedIn course.session now input }
  | .resume now => { course with session := course.session.resume now }

/-- The course after turns, one after the other. -/
def run (course : Course) (turns : List Turn) : Course := turns.foldl take course

end Course

end Chip8
