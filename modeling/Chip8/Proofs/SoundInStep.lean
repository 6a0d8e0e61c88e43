import Chip8.Proofs.Spinning

/-!
# Sound in step with the machine

A session remembers the rate and the pattern that it told the sound device last, and tells them anew
when the machine has others.  However the machine is reset, kept and put back in between, what it
remembers is what it told last, so that after every completed frame the device has the rate, the
pattern and the buzzer of the machine.
-/

namespace Chip8

namespace Signal

/-- The rate that the sound device is told. -/
def rate? : Signal → Option Int
  | .sound (.rate hertz) => some hertz
  | _ => none

/-- The pattern that the sound device is told. -/
def pattern? : Signal → Option Registers
  | .sound (.pattern bytes) => some bytes
  | _ => none

/-- The state of the buzzer that the sound device is told. -/
def buzzer? : Signal → Option Bool
  | .sound (.buzzer on) => some on
  | _ => none

/-- The picture that the display is given. -/
def picture? : Signal → Option Frame
  | .frame colours => some colours
  | _ => none

/-- The signal is neither a rate nor a pattern nor a picture. -/
def IsQuiet (signal : Signal) : Prop :=
  signal.rate? = none ∧ signal.pattern? = none ∧ signal.picture? = none

theorem IsAside.quiet {signal : Signal} (aside : signal.IsAside) : signal.IsQuiet := by
  cases signal with
  | frame colours => exact aside.elim
  | sound command =>
      cases command with
      | rate hertz | pattern bytes => exact aside.elim
      | mute on | buzzer on => exact ⟨rfl, rfl, rfl⟩
  | _ => exact ⟨rfl, rfl, rfl⟩

end Signal

namespace Session

variable {before middle after session : Session} {first second sent : List Sent}

/-- From one session to another neither rate nor pattern nor picture is told, and what was told last
is still remembered. -/
structure Quiet (before after : Session) (sent : List Sent) : Prop where
  /-- The rate told last. -/
  rate : after.rate = before.rate
  /-- The pattern told last. -/
  pattern : after.pattern = before.pattern
  /-- What is told. -/
  signals : ∀ signal ∈ sent.map Sent.signal, signal.IsQuiet

theorem Quiet.trans (one : before.Quiet middle first) (other : middle.Quiet after second) :
    before.Quiet after (first ++ second) where
  rate := other.rate.trans one.rate
  pattern := other.pattern.trans one.pattern
  signals := by
    rw [List.map_append]
    exact List.forall_mem_append.mpr ⟨one.signals, other.signals⟩

theorem Aside.quiet (aside : before.Aside after sent) : before.Quiet after sent :=
  ⟨aside.after.rate, aside.after.pattern,
    List.forall_mem_map.mpr fun entry member => (aside.sent entry member).1.quiet⟩

theorem quiet_reportPerformance (session : Session) (now : Float) :
    session.Quiet (session.reportPerformance now).session
      (session.reportPerformance now).sent := by
  rcases session.reportPerformance_cases now with
    ⟨-, -, reported⟩ | ⟨_, _, _, report, reported, told⟩
  · rw [reported]
    exact ⟨rfl, rfl, List.forall_mem_nil _⟩
  · rw [reported]
    refine ⟨rfl, rfl, List.forall_mem_map.mpr fun entry member => ?_⟩
    rw [(told entry member).1]
    exact ⟨rfl, rfl, rfl⟩

/-- A frame that is not completed leaves the sound device alone, and so does a completed one up to
its last part. -/
theorem quiet_frame (session : Session) (now : Float) (input : Input) :
    ((session.frame now input).result ≠ .ok true ∧
      session.Quiet (session.frame now input).session (session.frame now input).sent) ∨
    ∃ later earlier, session.Quiet later earlier ∧
      session.frame now input =
        ⟨later.finish.session, earlier ++ later.finish.sent, .ok true⟩ := by
  have reporting := session.quiet_reportPerformance now
  rcases session.frame_aside now input with ⟨other, rest, aside, sent⟩ | ⟨rest, aside, framed⟩
  · rw [sent]
    exact Or.inl ⟨other, reporting.trans aside.quiet⟩
  · exact Or.inr ⟨_, _, reporting.trans aside.quiet, framed⟩

end Session

namespace Course

variable {course : Course}

/-- What the session remembers of the sound device is what it told it last, and before the first
picture it has told nothing. -/
structure InTouch (course : Course) : Prop where
  /-- The rate. -/
  rate : latest Signal.rate? course.signals = course.session.rate.map Int.ofNat
  /-- The pattern. -/
  pattern : latest Signal.pattern? course.signals = course.session.pattern
  /-- Before the first picture. -/
  fresh : latest Signal.picture? course.signals = none →
    course.session.rate = none ∧ course.session.pattern = none

theorem InTouch.quiet (inTouch : course.InTouch) {after : Session} {sent : List Sent}
    (quiet : course.session.Quiet after sent) (requests : List (HostAction × Machine)) :
    InTouch ⟨after, course.signals ++ sent.map Sent.signal, requests⟩ where
  rate := by
    rw [latest_append_of_silent _ fun signal member => (quiet.signals signal member).1, quiet.rate]
    exact inTouch.rate
  pattern := by
    rw [latest_append_of_silent _ fun signal member => (quiet.signals signal member).2.1,
      quiet.pattern]
    exact inTouch.pattern
  fresh := by
    rw [latest_append_of_silent _ fun signal member => (quiet.signals signal member).2.2,
      quiet.rate, quiet.pattern]
    exact inTouch.fresh

theorem inTouch_start {processor : Processor} {program : Array UInt8} {ticks : Int}
    {opening : Session × List Signal}
    (started : Session.start processor program ticks = .ok opening) :
    (start opening).InTouch := by
  obtain ⟨loaded, -, rfl⟩ := Session.exists_of_start started
  exact ⟨rfl, rfl, fun _ => ⟨rfl, rfl⟩⟩

/-- A completed last part tells the device what it does not have yet. -/
theorem InTouch.finish (inTouch : course.InTouch) (requests : List (HostAction × Machine)) :
    let machine := course.session.finish.session.processor.machine
    let signals := course.signals ++ course.session.finish.signals
    latest Signal.rate? signals = some (Sound.rate machine.pitch : Int) ∧
      latest Signal.pattern? signals = some machine.pattern ∧
      latest Signal.buzzer? signals = some machine.beeping ∧
      InTouch ⟨course.session.finish.session, signals, requests⟩ := by
  intro machine signals
  have told : signals = course.signals ++ (_ ++ _ ++ _) :=
    congrArg _ course.session.finish_signals
  have rate : latest Signal.rate? signals = some (Sound.rate machine.pitch : Int) := by
    rw [told, ← List.append_assoc, ← List.append_assoc,
      latest_append_of_silent _ (by simp [Signal.rate?]),
      latest_append_of_silent _ (forall_mem_news rfl)]
    exact latest_append_news inTouch.rate rfl
  have pattern : latest Signal.pattern? signals = some machine.pattern := by
    rw [told, ← List.append_assoc, ← List.append_assoc,
      latest_append_of_silent _ (by simp [Signal.pattern?])]
    refine latest_append_news ?_ rfl
    rw [latest_append_of_silent _ (forall_mem_news rfl)]
    exact inTouch.pattern
  obtain ⟨start, ending⟩ : ∃ start, signals = start ++
      [.sound (.buzzer machine.beeping), .frame machine.screen.colours] :=
    ⟨_, told.trans (List.append_assoc ..).symm⟩
  refine ⟨rate, pattern, ?_, rate, pattern, ?_⟩
  · rw [ending, latest_append]
    rfl
  · rw [ending, latest_append]
    exact nofun

/-- However a frame ends, what the session remembers is what it told last. -/
theorem InTouch.take (inTouch : course.InTouch) (turn : Turn) : (course.take turn).InTouch := by
  cases turn with
  | resume now => exact ⟨inTouch.rate, inTouch.pattern, inTouch.fresh⟩
  | frame now input =>
      rw [Course.take]
      rcases course.session.quiet_frame now input with ⟨-, quiet⟩ | ⟨later, earlier, quiet, framed⟩
      · exact inTouch.quiet quiet _
      · rw [framed, Progress.signals, List.map_append, ← List.append_assoc]
        exact ((inTouch.quiet quiet []).finish _).2.2.2

theorem InTouch.run (inTouch : course.InTouch) (turns : List Turn) :
    (course.run turns).InTouch := by
  induction turns generalizing course with
  | nil => exact inTouch
  | cons turn rest induction => exact induction (inTouch.take turn)

/-- After every completed frame the sound device was told last what the machine has now: its rate,
its pattern and whether it beeps.  The frame tells the rate exactly when it is not the one told
last, then the pattern exactly when it is not the one told last, and the buzzer after both; before
the first picture neither has been told. -/
theorem sound_in_step {processor : Processor} {program : Array UInt8} {ticks : Int}
    {opening : Session × List Signal}
    (started : Session.start processor program ticks = .ok opening) (turns : List Turn)
    (now : Float) (input : Input)
    (completed : (((start opening).run turns).session.frame now input).result = .ok true) :
    let before := (start opening).run turns
    let after := before.take (.frame now input)
    let machine := after.session.processor.machine
    (latest Signal.rate? after.signals = some (Sound.rate machine.pitch : Int) ∧
      latest Signal.pattern? after.signals = some machine.pattern ∧
      latest Signal.buzzer? after.signals = some machine.beeping) ∧
    (∃ earlier, (∀ signal ∈ earlier, signal.rate? = none ∧ signal.pattern? = none) ∧
      after.signals = before.signals ++ earlier ++
        news (latest Signal.rate? before.signals) (Sound.rate machine.pitch : Int)
          (.sound (.rate (Sound.rate machine.pitch))) ++
        news (latest Signal.pattern? before.signals) machine.pattern
          (.sound (.pattern machine.pattern)) ++
        [.sound (.buzzer machine.beeping), .frame machine.screen.colours]) ∧
    (latest Signal.picture? before.signals = none →
      latest Signal.rate? before.signals = none ∧
        latest Signal.pattern? before.signals = none) := by
  intro before after machine
  have inTouch : before.InTouch := (inTouch_start started).run turns
  have fresh : latest Signal.picture? before.signals = none →
      latest Signal.rate? before.signals = none ∧ latest Signal.pattern? before.signals = none := by
    intro silent
    obtain ⟨rate, pattern⟩ := inTouch.fresh silent
    rw [inTouch.rate, inTouch.pattern, rate, pattern]
    exact ⟨rfl, rfl⟩
  rcases before.session.quiet_frame now input with ⟨other, -⟩ | ⟨later, earlier, quiet, framed⟩
  · exact absurd completed other
  have after_eq : after = ⟨later.finish.session,
      before.signals ++ earlier.map Sent.signal ++ later.finish.signals, after.requests⟩ := by
    simp only [after, take, framed, Progress.signals, List.map_append, List.append_assoc]
  have settled := (inTouch.quiet quiet []).finish after.requests
  have session_eq : later.finish.session = after.session := by rw [after_eq]
  have signals_eq :
      before.signals ++ earlier.map Sent.signal ++ later.finish.signals = after.signals := by
    rw [after_eq]
  have told := later.finish_signals
  rw [session_eq] at told
  dsimp only at settled
  rw [session_eq, signals_eq] at settled
  refine ⟨⟨settled.1, settled.2.1, settled.2.2.1⟩, ⟨earlier.map Sent.signal, ?_, ?_⟩, fresh⟩
  · exact fun signal member => ⟨(quiet.signals signal member).1, (quiet.signals signal member).2.1⟩
  · rw [← signals_eq, told, quiet.rate, quiet.pattern, inTouch.rate, inTouch.pattern]
    simp only [List.append_assoc]
    rfl

/-- A program that sets the pitch from V0 and then spins.  The first frame takes its only step, and
after a wait the second one spins, with the machine kept and put back and the sound unmuted. -/
theorem sound_in_step_of_muted :
    ∃ opening, Session.start (.powerOn .xoChip (.standard .xoChip) false [])
        #[0xF0, 0x3A, 0x12, 0x02] 1 = .ok opening ∧
      let first : Input := ⟨[.toggleMute], Vector.replicate 16 true⟩
      let second : Input := ⟨[.saveState, .loadState, .toggleMute], Vector.replicate 16 false⟩
      let before := (start opening).run [.frame 0 first, .resume 1]
      (opening.1.frame 0 first).result = .ok true ∧
        latest Signal.rate? before.signals = some 1587 ∧
        (before.session.frame 0 second).result = .ok true ∧
        latest Signal.rate? (before.take (.frame 0 second)).signals = some 1587 := by
  have fits : Machine.programStart + (#[0xF0, 0x3A, 0x12, 0x02] : Array UInt8).size ≤
    Arch.xoChip.memorySize := by decide
  have sized := (Machine.wellFormed_powerOn .xoChip (.standard .xoChip)).memory
  obtain ⟨opening, started, processor_eq, wellFormed, fresh⟩ :=
    Session.exists_start .xoChip (.standard .xoChip) false [] fits 1
  refine ⟨opening, started, ?_⟩
  intro first second before
  have arch : opening.1.processor.arch = .xoChip := by rw [processor_eq]; rfl
  have memory : opening.1.processor.machine.memory =
      (Machine.powerOn .xoChip (.standard .xoChip)).memory.patch Machine.programStart
        #[0xF0, 0x3A, 0x12, 0x02] := by
    rw [processor_eq]
    rfl
  have pc : opening.1.processor.machine.pc = Machine.programStart := by rw [processor_eq]; rfl
  have zero : opening.1.processor.machine.v.read 0 = 0 := by rw [processor_eq]; rfl
  -- The first frame.
  let entered := (opening.1.holdKeys first.held).processor
  have keyed : entered.machine.WellFormed entered.arch entered.dialect := { wellFormed with }
  have facing : entered.facing? = some (.setPitch 0) :=
    @Processor.facing?_of_patch entered _ _ 0 _ ⟨0xF03A⟩ _ sized memory pc (by decide) fits rfl
      (by rw [show entered.arch = _ from arch]; rfl)
  obtain ⟨succeeds, machine_eq⟩ := Processor.step_of_accepted keyed true facing rfl
  obtain ⟨arch', dialect', stepped⟩ := Processor.wellFormed_step keyed true
  have once : (opening.1.prepared 0 first).ticks.toNat = 1 := by
    obtain ⟨_, _, _, opened⟩ := opening.1.exists_reportPerformance_eq 0
    rw [Session.prepared, opened, fresh]
    rfl
  have ran : (entered.steps 1 true #[]).result = .ok () ∧
      (entered.steps 1 true #[]).processor = (entered.step true).processor := by
    rw [Processor.steps, succeeds]
    exact ⟨rfl, rfl⟩
  obtain ⟨completed, after⟩ := @Session.frame_of_steps opening.1 0 first (by decide)
    (fun _ => ⟨rfl, rfl⟩) (by rw [once]; exact ran.1)
  rw [once, show (Session.holdKeys _ _).processor = entered from rfl, ran.2] at after
  have next : (entered.step true).processor.machine.pc = 0x202 := by
    rw [machine_eq]
    exact congrArg (· + 2) pc
  have spins : before.session.processor.Spins := by
    show (opening.1.frame 0 first).session.processor.Spins
    rw [after]
    refine Processor.Spins.tick ⟨by rwa [arch', dialect'], 0x202, next, ?_⟩
    exact @Processor.facing?_of_patch _ _ _ 2 _ ⟨0x1202⟩ _ sized (by rw [machine_eq]; exact memory)
      next (by decide) fits rfl (by rw [arch', show entered.arch = _ from arch]; rfl)
  have pitch : before.session.processor.machine.pitch = 0 := by
    show (opening.1.frame 0 first).session.processor.machine.pitch = 0
    rw [after, Processor.tick, machine_eq]
    exact zero
  -- The second one.
  obtain ⟨completed', -, _, _, _, _, _, _, machine_eq'⟩ :=
    @Session.frame_of_spins _ spins 0 (by decide) second fun _ => ⟨rfl, rfl⟩
  have pitch' : (before.take (.frame 0 second)).session.processor.machine.pitch = 0 := by
    show (before.session.frame 0 second).session.processor.machine.pitch = 0
    rw [machine_eq']
    exact pitch
  have hertz {value : UInt8} (lowest : value = 0) : some (Sound.rate value : Int) = some 1587 := by
    rw [lowest]
    decide +kernel
  have told := (sound_in_step started [] 0 first completed).1.1
  have told' := (sound_in_step started _ 0 second completed').1.1
  exact ⟨completed, told.trans (hertz pitch), completed', told'.trans (hertz pitch')⟩

end Course

end Chip8
