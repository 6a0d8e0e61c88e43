import Chip8.Console
import Chip8.Proofs.Spinning
import Chip8.Session.Play

/-!
# Time and the program

A clock decides when a performance is reported, when the next frame is due and how long is waited
for it.  Nothing else depends on it: two stages on which the user does the same show the same
frames, whatever their clocks show and whether or not they hold frames back, as long as every wait
ends.
-/

namespace Chip8

/-- The signal is not a report of the performance. -/
def Signal.isTimeless : Signal → Bool
  | .performance _ _ => false
  | _ => true

namespace Session

/-- The session without what it knows of time. -/
def untimed (session : Session) : Session :=
  { session with nextFrame := 0, nextReport := 0, frames := 0, instructions := 0 }

theorem eq_of_untimed {left right : Session} (same : left.untimed = right.untimed) :
    ∃ nextFrame nextReport frames instructions,
      right = { left with nextFrame, nextReport, frames, instructions } := by
  cases left
  cases right
  cases same
  exact ⟨_, _, _, _, rfl⟩

end Session

/-- What is sent without what the session knows of time, unless it is a report of the
performance. -/
def Sent.timeless? (sent : Sent) : Option Sent :=
  if sent.signal.isTimeless then some ⟨sent.signal, sent.session.untimed⟩ else none

theorem Sent.filter_signals (sent : List Sent) :
    (sent.map Sent.signal).filter Signal.isTimeless =
      (sent.filterMap Sent.timeless?).map Sent.signal := by
  induction sent with
  | nil => rfl
  | cons entry rest induction =>
      rw [List.map_cons, List.filter_cons, List.filterMap_cons, timeless?]
      split
      · rw [induction, List.map_cons]
      · exact induction

/-- The parts of a frame differ at most in what they know and tell of time. -/
structure Progress.Alike {α : Type} (left right : Progress α) : Prop where
  /-- The session afterwards. -/
  session : left.session.untimed = right.session.untimed
  /-- What is sent to the devices. -/
  sent : left.sent.filterMap Sent.timeless? = right.sent.filterMap Sent.timeless?
  /-- The result, or what stopped the part. -/
  result : left.result = right.result

theorem Progress.Alike.signals {α : Type} {left right : Progress α} (alike : left.Alike right) :
    left.signals.filter Signal.isTimeless = right.signals.filter Signal.isTimeless := by
  rw [Progress.signals, Progress.signals, Sent.filter_signals, Sent.filter_signals, alike.sent]

theorem Progress.Alike.andThen {α β : Type} {left right : Progress α}
    (alike : left.Alike right) {next next' : α → Session → Progress β}
    (rest : ∀ value {session session' : Session}, session.untimed = session'.untimed →
      (next value session).Alike (next' value session')) :
    (left.andThen next).Alike (right.andThen next') := by
  obtain ⟨session, sent, result⟩ := alike
  rw [Progress.andThen, Progress.andThen, result]
  rcases right.result with stop | value
  · exact ⟨session, sent, rfl⟩
  · have others := rest value session
    refine ⟨others.session, ?_, others.result⟩
    simp only [List.filterMap_append, sent, others.sent]

namespace Session

variable {left right : Session} (same : left.untimed = right.untimed)

include same

theorem alike_apply (action : HostAction) : (left.apply action).Alike (right.apply action) := by
  obtain ⟨_, _, _, _, rfl⟩ := eq_of_untimed same
  cases action with
  | reset =>
      simp only [apply, restart]
      rcases left.processor.reset.load left.program with fault | processor <;> exact ⟨rfl, rfl, rfl⟩
  | loadState =>
      simp only [apply]
      rcases saved : left.saved with _ | machine
      · exact ⟨by simp only [untimed, saved], rfl, rfl⟩
      · exact ⟨rfl, rfl, rfl⟩
  | toggleMute =>
      refine ⟨rfl, ?_, rfl⟩
      simp only [apply, List.filterMap_map]
      rfl
  | _ => exact ⟨rfl, rfl, rfl⟩

theorem alike_applyAll (actions : List HostAction) :
    (applyAll actions left).Alike (applyAll actions right) := by
  induction actions generalizing left right with
  | nil => exact ⟨same, rfl, rfl⟩
  | cons action rest induction =>
      by_cases quits : action = .quit
      · subst quits
        exact ⟨same, rfl, rfl⟩
      · rw [applyAll_cons quits, applyAll_cons quits]
        exact (alike_apply same action).andThen fun _ _ _ => induction

theorem alike_execute (held : Vector Bool 16) :
    (left.holdKeys held).execute.Alike (right.holdKeys held).execute := by
  obtain ⟨_, _, _, _, rfl⟩ := eq_of_untimed same
  refine ⟨rfl, ?_, rfl⟩
  simp only [execute, List.filterMap_map]
  rfl

theorem alike_finish : left.finish.Alike right.finish := by
  obtain ⟨_, _, _, _, rfl⟩ := eq_of_untimed same
  refine ⟨rfl, ?_, rfl⟩
  simp only [finish_sent, news]
  split <;> split <;> rfl

theorem alike_reportPerformance {now now' : Float} (finite : now.isInf = false)
    (finite' : now'.isInf = false) :
    (left.reportPerformance now).Alike (right.reportPerformance now') := by
  have silent {session meanwhile : Session} {report : List Sent}
      (told : ∀ entry ∈ report, entry.signal = .performance session.frames session.instructions ∧
        entry.session = meanwhile) :
      report.filterMap Sent.timeless? = [] := by
    refine List.filterMap_eq_nil_iff.mpr fun entry member => ?_
    rw [Sent.timeless?, (told entry member).1]
    rfl
  rcases left.reportPerformance_cases now with
    ⟨-, infinite, -⟩ | ⟨_, _, _, report, reported, told⟩
  · exact absurd (finite.symm.trans infinite) Bool.false_ne_true
  rcases right.reportPerformance_cases now' with
    ⟨-, infinite, -⟩ | ⟨_, _, _, report', reported', told'⟩
  · exact absurd (finite'.symm.trans infinite) Bool.false_ne_true
  rw [reported, reported']
  exact ⟨same, (silent told).trans (silent told').symm, rfl⟩

/-- At finite times, frames with the same input differ at most in what they know and tell of
time. -/
theorem alike_frame {now now' : Float} (finite : now.isInf = false)
    (finite' : now'.isInf = false) (input : Input) :
    (left.frame now input).Alike (right.frame now' input) := by
  refine (alike_reportPerformance same finite finite').andThen fun _ _ _ opened => ?_
  refine (alike_applyAll opened input.actions).andThen fun goesOn session' _ asked => ?_
  cases goesOn with
  | false => exact ⟨asked, rfl, rfl⟩
  | true =>
      rw [if_pos rfl, if_pos rfl]
      have finished : ((session'.holdKeys input.held).execute.andThen fun _ => finish).Alike _ :=
        (alike_execute asked input.held).andThen fun _ _ _ executed => alike_finish executed
      exact finished.andThen fun _ _ _ done => ⟨done, rfl, rfl⟩

end Session

/-! ## Devices -/

theorem null_notMem_repr (number : Nat) : Char.ofNat 0 ∉ number.repr.toList := by
  intro member
  rw [Nat.repr, String.toList_ofList] at member
  exact absurd (Nat.isDigit_of_mem_toDigits (by decide) (by decide) member) (by decide)

theorem null_notMem_performanceTitle (frames : Nat) (instructions : Int) :
    Char.ofNat 0 ∉ (performanceTitle frames instructions).toList := by
  have executed : Char.ofNat 0 ∉ (toString instructions).toList := by
    cases instructions with
    | ofNat count => exact null_notMem_repr count
    | negSucc count =>
        change _ ∉ ("-" ++ count.succ.repr).toList
        rw [String.toList_append, List.mem_append, not_or]
        exact ⟨by decide, null_notMem_repr count.succ⟩
  simp only [performanceTitle, String.toList_append, List.mem_append, not_or]
  exact ⟨⟨⟨⟨⟨by decide, by decide⟩, null_notMem_repr frames⟩, by decide⟩, executed⟩, by decide⟩

namespace Window

/-- The window with another title. -/
def withTitle (window : Window) (title : String) : Window := { window with title }

variable (window : Window) (title : String)

theorem resize_withTitle (width height : Int) :
    (window.withTitle title).resize width height =
      ((window.resize width height).1.withTitle title, (window.resize width height).2) := by
  simp only [resize, withTitle]
  split
  · rfl
  · split
    · rfl
    · split <;> rfl

theorem take_withTitle (frame : Frame) :
    (window.withTitle title).take frame =
      ((window.take frame).1.withTitle title, (window.take frame).2) := by
  simp only [take, withTitle]
  split
  · rfl
  · split <;> rfl

theorem refresh_withTitle :
    (window.withTitle title).refresh =
      (window.refresh.1.withTitle title, window.refresh.2) := by
  have shown (surface : Raster) (size : Int × Int) :
      (window.withTitle title).shownOn surface size = window.shownOn surface size := rfl
  simp only [refresh, shown]
  simp only [withTitle]
  split
  · split <;> rfl
  · rfl

end Window

namespace Display

/-- The display without a title. -/
def untitled : Display → Display
  | .headless viewer => .headless viewer
  | .windowed window => .windowed (window.withTitle "")

theorem resize_untitled (display : Display) (width height : Int) :
    display.untitled.resize width height =
      ((display.resize width height).1.untitled, (display.resize width height).2) := by
  cases display with
  | headless viewer => rfl
  | windowed window => simp only [untitled, resize, Window.resize_withTitle]

theorem present_untitled (display : Display) (frame : Frame) :
    display.untitled.present frame =
      ((display.present frame).1.untitled, (display.present frame).2) := by
  cases display with
  | headless viewer => rfl
  | windowed window =>
      simp only [untitled, present, Window.take_withTitle]
      rcases window.take frame with ⟨taken, _ | error⟩
      · simp only [Window.refresh_withTitle]
      · rfl

end Display

namespace Console

/-- The devices without the title of the window. -/
def untitled (console : Console) : Console := { console with display := console.display.untitled }

theorem react_performance (console : Console) (frames : Nat) (instructions : Int) :
    (console.react (.performance frames instructions)).1.untitled = console.untitled ∧
      (console.react (.performance frames instructions)).2 = none := by
  rcases console with ⟨lines, viewer | window, mixer, calls⟩
  · exact ⟨rfl, rfl⟩
  · have accepted : (performanceTitle frames instructions).contains (Char.ofNat 0) = false := by
      rw [String.contains_char_eq]
      exact decide_eq_false (null_notMem_performanceTitle frames instructions)
    simp only [react, withDisplay, Display.entitle, Window.entitle, accepted]
    exact ⟨rfl, rfl⟩

/-- No device looks at the title. -/
theorem react_untitled (console : Console) {signal : Signal} (timeless : signal.isTimeless) :
    console.untitled.react signal =
      ((console.react signal).1.untitled, (console.react signal).2) := by
  cases signal with
  | performance frames instructions => exact absurd timeless Bool.false_ne_true
  | line text => rfl
  | resolution width height =>
      simp only [react, withDisplay, untitled, Display.resize_untitled]
  | nextPalette | previousPalette =>
      rcases console with ⟨lines, viewer | window, mixer, calls⟩ <;> rfl
  | sound command => rcases console with ⟨lines, display, _ | mixer, calls⟩ <;> rfl
  | frame colours => simp only [react, withDisplay, untitled, Display.present_untitled]

/-- What is told of time makes no difference but for the title. -/
theorem convey_untitled (sent : List Sent) (console : Console) :
    convey react (sent.filterMap Sent.timeless?) console.untitled =
      ((convey react sent console).1.untitled,
        (convey react sent console).2.map (Prod.map Session.untimed id)) := by
  induction sent generalizing console with
  | nil => rfl
  | cons entry rest induction =>
      obtain ⟨signal, session⟩ := entry
      rw [List.filterMap_cons, Sent.timeless?]
      cases timeless : signal.isTimeless with
      | false =>
          obtain ⟨frames, instructions, rfl⟩ : ∃ frames instructions,
              signal = .performance frames instructions := by
            cases signal with
            | performance frames instructions => exact ⟨frames, instructions, rfl⟩
            | _ => cases timeless
          obtain ⟨same, accepted⟩ := console.react_performance frames instructions
          rcases reacted : console.react (.performance frames instructions) with ⟨later, error⟩
          rw [reacted] at same accepted
          cases accepted
          rw [if_neg Bool.false_ne_true, ← same, induction, convey, reacted]
      | true =>
          rw [if_pos rfl, convey, convey, react_untitled console timeless]
          dsimp only
          rcases console.react signal with ⟨later, _ | error⟩
          · exact induction later
          · rfl

end Console

/-! ## Stages -/

/-- The performances differ at most in what they know and show of time. -/
structure Performance.Alike (left right : Performance Console) : Prop where
  /-- The session. -/
  session : left.session.untimed = right.session.untimed
  /-- The devices. -/
  devices : left.devices.untitled = right.devices.untitled

namespace Performance.Alike

variable {first second third : Performance Console}

theorem symm (alike : first.Alike second) : second.Alike first :=
  ⟨alike.session.symm, alike.devices.symm⟩

theorem trans (left : first.Alike second) (right : second.Alike third) : first.Alike third :=
  ⟨left.session.trans right.session, left.devices.trans right.devices⟩

end Performance.Alike

/-! ## The time of the next frame -/

/-- A frame leaves the time of the next one alone, whatever it sends. -/
theorem Session.nextFrame_frame (session : Session) (now : Float) (input : Input) :
    (session.frame now input).session.nextFrame = session.nextFrame ∧
      ∀ entry ∈ (session.frame now input).sent, entry.session.nextFrame = session.nextFrame := by
  have opening : (session.reportPerformance now).session.nextFrame = session.nextFrame ∧
      ∀ entry ∈ (session.reportPerformance now).sent,
        entry.session.nextFrame = session.nextFrame := by
    rcases session.reportPerformance_cases now with
      ⟨-, -, reported⟩ | ⟨_, _, _, _, reported, told⟩
    · rw [reported]
      exact ⟨rfl, List.forall_mem_nil _⟩
    · rw [reported]
      exact ⟨rfl, fun entry member => by rw [(told entry member).2]⟩
  have along {after : Session} {others : List Sent}
      (aside : (session.reportPerformance now).session.Aside after others) :
      after.nextFrame = session.nextFrame ∧
        ∀ entry ∈ (session.reportPerformance now).sent ++ others,
          entry.session.nextFrame = session.nextFrame :=
    ⟨aside.after.nextFrame.trans opening.1, List.forall_mem_append.mpr
      ⟨opening.2, fun entry member => (aside.sent entry member).2.nextFrame.trans opening.1⟩⟩
  rcases session.frame_aside now input with ⟨-, others, aside, sent⟩ | ⟨others, aside, framed⟩
  · rw [sent]
    exact along aside
  · rw [framed]
    obtain ⟨kept, before⟩ := along aside
    refine ⟨kept, List.forall_mem_append.mpr ⟨before, fun entry member => ?_⟩⟩
    obtain ⟨-, _, _, _, same⟩ := exists_of_mem_finish_sent _ entry member
    rw [same]
    exact kept

theorem exists_mem_of_convey {δ ε : Type} {react : δ → Signal → δ × Option ε} {sent : List Sent}
    {devices devices' : δ} {session : Session} {error : ε}
    (failed : convey react sent devices = (devices', some (session, error))) :
    ∃ entry ∈ sent, entry.session = session := by
  induction sent generalizing devices with
  | nil => cases failed
  | cons entry rest induction =>
      rw [convey] at failed
      split at failed
      · cases failed
        exact ⟨entry, List.mem_cons_self, rfl⟩
      · obtain ⟨later, member, same⟩ := induction failed
        exact ⟨later, List.mem_cons_of_mem _ member, same⟩

/-- However a frame ends, the next one is due when it was. -/
theorem Performance.nextFrame_frame {δ ε : Type} (react : δ → Signal → δ × Option ε) (now : Float)
    (input : Input) (performance : Performance δ) :
    (performance.frame react now input).1.session.nextFrame = performance.session.nextFrame := by
  have steady := performance.session.nextFrame_frame now input
  rw [Performance.frame]
  rcases failed : convey react (performance.session.frame now input).sent performance.devices with
    ⟨devices, _ | ⟨session, error⟩⟩
  · exact steady.1
  · obtain ⟨entry, member, rfl⟩ := exists_mem_of_convey failed
    exact steady.2 entry member

/-- A frame, without what is known and shown of time. -/
structure Shot where
  /-- Whether the session goes on, or what stopped it. -/
  result : Except Stop Bool
  /-- What the session told the devices. -/
  signals : List Signal
  /-- The session afterwards. -/
  session : Session
  /-- The devices afterwards. -/
  console : Console
  /-- How the frame ended the session, if it did. -/
  ending : Option (Ending Console.Error)

namespace Stage

/-- The frame that is played next. -/
def shot (stage : Stage) (input : Input) (performance : Performance Console) : Shot :=
  let progress := performance.session.frame (stage.clock performance.readings) input
  let (after, ending) := stage.frame Console.react input performance
  { result := progress.result
    signals := progress.signals.filter Signal.isTimeless
    session := after.session.untimed
    console := after.devices.untitled
    ending }

/-- The frames that are played, at most `count` of them and beginning with the one numbered
`number`. -/
def shots (stage : Stage) : Nat → Nat → Performance Console → List Shot
  | 0, _, _ => []
  | count + 1, number, performance =>
      stage.shot (stage.input number) performance ::
        match stage.frame Console.react (stage.input number) performance with
        | (_, some _) => []
        | (after, none) =>
            match stage.hold after with
            | none => []
            | some later => shots stage count (number + 1) later

/-- Every wait for one of `count` frames ends. -/
def Flows (stage : Stage) : Nat → Nat → Performance Console → Prop
  | 0, _, _ => True
  | count + 1, number, performance =>
      let (after, ending) := stage.frame Console.react (stage.input number) performance
      ending = none → ∃ later, stage.hold after = some later ∧ Flows stage count (number + 1) later

variable {first second : Stage} {left right : Performance Console}

theorem alike_frame (alike : left.Alike right) (input : Input)
    (finite : (first.clock left.readings).isInf = false)
    (finite' : (second.clock right.readings).isInf = false) :
    (first.frame Console.react input left).1.Alike (second.frame Console.react input right).1 ∧
      first.shot input left = second.shot input right := by
  have framed := Session.alike_frame alike.session finite finite' input
  simp only [shot, Stage.frame, Performance.frame, framed.signals, framed.result]
  have conveyed := left.devices.convey_untitled
    (left.session.frame (first.clock left.readings) input).sent
  rw [framed.sent, alike.devices, right.devices.convey_untitled] at conveyed
  generalize convey Console.react _ left.devices = conveyance at conveyed ⊢
  generalize convey Console.react _ right.devices = conveyance' at conveyed ⊢
  obtain ⟨devices, failure⟩ := conveyance
  obtain ⟨devices', failure'⟩ := conveyance'
  obtain ⟨untitled, failing⟩ := Prod.mk.inj conveyed
  rcases failure with _ | ⟨session, error⟩ <;> rcases failure' with _ | ⟨session', error'⟩
  · exact ⟨⟨framed.session, untitled.symm⟩, by simp only [framed.session, untitled]⟩
  · cases failing
  · cases failing
  · obtain ⟨untimed, rfl⟩ := Prod.mk.inj (Option.some.inj failing)
    exact ⟨⟨untimed.symm, untitled.symm⟩, by simp only [untimed, untitled, id]⟩

theorem alike_hold {later : Performance Console} (held : first.hold left = some later) :
    later.Alike left := by
  rw [hold] at held
  split at held
  · rw [Option.map_eq_some_iff] at held
    obtain ⟨⟨session, readings⟩, waited, rfl⟩ := held
    rw [Session.wait, Option.map_eq_some_iff] at waited
    obtain ⟨reached, -, resumed⟩ := waited
    cases resumed
    exact ⟨rfl, rfl⟩
  · cases held
    exact ⟨rfl, rfl⟩

theorem flows_of_uncapped {stage : Stage} (uncapped : stage.capped = false) (count number : Nat)
    (performance : Performance Console) : stage.Flows count number performance := by
  induction count generalizing number performance with
  | zero => trivial
  | succ count induction =>
      refine fun _ => ⟨(stage.frame Console.react (stage.input number) performance).1, ?_,
        induction _ _⟩
      rw [hold, uncapped]
      rfl

theorem exists_hold_of_due {stage : Stage} {performance : Performance Console}
    (patient : 0 < stage.patience)
    (due : ¬ stage.clock performance.readings < performance.session.nextFrame) :
    ∃ later, stage.hold performance = some later := by
  rw [hold]
  split
  · obtain ⟨patience, patient⟩ := Nat.exists_eq_add_one_of_ne_zero (Nat.ne_of_gt patient)
    rw [Session.wait, patient, Clock.reach?, if_neg due]
    exact ⟨_, rfl⟩
  · exact ⟨_, rfl⟩

theorem frame_quit (stage : Stage) (performance : Performance Console) :
    (stage.frame Console.react .quit performance).2 ≠ none := by
  have ended := performance.session.frame_ended (stage.clock performance.readings) .quit
  simp only [frame, Performance.frame]
  generalize performance.session.frame (stage.clock performance.readings) .quit = progress
    at ended ⊢
  rcases convey Console.react progress.sent performance.devices with ⟨devices, _ | error⟩
  · cases ended with
    | stopped _ applied | finished _ applied => cases applied
    | endless | refused | quit => exact nofun
  · exact nofun

end Stage

end Chip8
