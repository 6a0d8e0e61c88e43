import Chip8.HostAction
import Chip8.Processor
import Chip8.Sound.Mixer

/-!
# Sessions

A session drives a processor one frame at a time: it applies the user's requests, hands the keys
over, executes a number of instructions, counts the timers down and tells the devices what to show
and play.  Time reaches the session only as clock readings, and none of them reaches the program.

Devices may fail at any signal, and the frame ends there.  So each signal is sent together with the
session as it stands at that point.
-/

namespace Chip8

/-- What the user does before a frame. -/
structure Input where
  /-- Requests to the host, in order. -/
  actions : List HostAction
  /-- Which keys of the machine are held. -/
  held : Vector Bool 16

namespace Input

/-- Nothing is held and nothing is asked for. -/
def idle : Input := ⟨[], Vector.replicate 16 false⟩

/-- The user ends the session. -/
def quit : Input := ⟨[.quit], Vector.replicate 16 false⟩

end Input

/-- What a session tells its devices. -/
inductive Signal where
  /-- A line of live debugging. -/
  | line (text : String)
  /-- The size of the screen. -/
  | resolution (width height : Int)
  /-- Frames and instructions since the last such report. -/
  | performance (frames : Nat) (instructions : Int)
  /-- Select the palette after the current one. -/
  | nextPalette
  /-- Select the palette before the current one. -/
  | previousPalette
  /-- A request to the sound device. -/
  | sound (command : Sound.Command)
  /-- A picture to show. -/
  | frame (colours : Frame)

/-- A running session. -/
structure Session where
  /-- The processor being driven. -/
  processor : Processor
  /-- The program, to load it again after a reset. -/
  program : Array UInt8
  /-- Instructions executed in each frame. -/
  ticks : Int
  /-- The machine that was kept last. -/
  saved : Option Machine
  /-- Whether sound is suppressed. -/
  muted : Bool
  /-- The rate that the sound device was last told. -/
  rate : Option Nat
  /-- The pattern that the sound device was last told. -/
  pattern : Option Registers
  /-- Earliest time of the next frame, in seconds. -/
  nextFrame : Float
  /-- Earliest time of the next performance report, in seconds. -/
  nextReport : Float
  /-- Frames since the last performance report. -/
  frames : Nat
  /-- Instructions in those frames. -/
  instructions : Int

/-- Why a session ends in the middle of a frame. -/
inductive Stop where
  /-- The machine refused. -/
  | fault (cause : Fault)
  /-- The user asked for something that no host knows. -/
  | unknownAction (name : String)
  /-- A performance report is due, and the time of the next one cannot be told because the clock
  does not show a finite time. -/
  | endlessTime
deriving DecidableEq, Repr

/-- A signal on its way to the devices. -/
structure Sent where
  /-- What the devices are told. -/
  signal : Signal
  /-- The session while the devices react, and what is left of it if they fail. -/
  session : Session

/-- What a part of a frame amounts to if no device fails. -/
structure Progress (α : Type) where
  /-- The session afterwards. -/
  session : Session
  /-- What was sent, in order. -/
  sent : List Sent
  /-- The result, or what stopped the part. -/
  result : Except Stop α

namespace Progress

/-- The signals that were sent, in order. -/
def signals {α : Type} (progress : Progress α) : List Signal := progress.sent.map Sent.signal

/-- Go on with a further part unless the first one was stopped. -/
def andThen {α β : Type} (progress : Progress α) (next : α → Session → Progress β) :
    Progress β :=
  match progress.result with
  | .error stop => ⟨progress.session, progress.sent, .error stop⟩
  | .ok value =>
      let others := next value progress.session
      { others with sent := progress.sent ++ others.sent }

end Progress

namespace Session

/-- Nominal length of a frame in seconds. -/
def frameInterval : Float := 1.0 / 60.0

/-- How far the instruction count of a frame changes on request, and its least value then. -/
def tickStep : Int := 5

/-- A session about to show its first frame. -/
def start (processor : Processor) (program : Array UInt8) (ticks : Int) :
    Except Fault (Session × List Signal) := do
  let processor ← processor.load program
  let screen := processor.machine.screen
  let session : Session :=
    { processor, program, ticks
      saved := none
      muted := false
      rate := none
      pattern := none
      nextFrame := 0
      nextReport := 0
      frames := 0
      instructions := 0 }
  return (session, [.resolution screen.width screen.height])

/-- The whole number of seconds in a time, the fraction dropped. -/
def wholeSeconds (time : Float) : Float := if time < 0 then time.ceil else time.floor

/-- Report the performance when a report is due, and begin a new count.  The next report is put off
before the devices are told of this one, and the count begins after that. -/
def reportPerformance (session : Session) (now : Float) : Progress Unit :=
  if session.nextReport ≤ now && now.isInf then
    ⟨session, [], .error .endlessTime⟩
  else if session.nextReport ≤ now then
    let session := { session with nextReport := wholeSeconds now + 1.0 }
    ⟨{ session with frames := 0, instructions := 0 },
      [⟨.performance session.frames session.instructions, session⟩], .ok ()⟩
  else
    ⟨session, [], .ok ()⟩

/-- Switch the machine off and on and load the program again. -/
def restart (session : Session) : Progress Unit :=
  let processor := session.processor.reset
  match processor.load session.program with
  | .ok processor => ⟨{ session with processor }, [], .ok ()⟩
  | .error fault => ⟨{ session with processor }, [], .error (.fault fault)⟩

/-- Apply a request other than the one to quit. -/
def apply (session : Session) : HostAction → Progress Unit
  | .quit => ⟨session, [], .ok ()⟩
  | .reset => session.restart
  | .saveState => ⟨{ session with saved := some session.processor.machine }, [], .ok ()⟩
  | .loadState =>
      match session.saved with
      | some machine =>
          ⟨{ session with processor := session.processor.restore machine }, [], .ok ()⟩
      | none => ⟨session, [], .ok ()⟩
  | .faster => ⟨{ session with ticks := session.ticks + tickStep }, [], .ok ()⟩
  | .slower => ⟨{ session with ticks := max tickStep (session.ticks - tickStep) }, [], .ok ()⟩
  | .nextPalette => ⟨session, [⟨.nextPalette, session⟩], .ok ()⟩
  | .previousPalette => ⟨session, [⟨.previousPalette, session⟩], .ok ()⟩
  | .toggleMute =>
      let toggled := { session with muted := !session.muted }
      ⟨toggled, (Sound.toggleMute session.muted).map (⟨.sound ·, toggled⟩), .ok ()⟩
  | .unknown name => ⟨session, [], .error (.unknownAction name)⟩

/-- Apply requests in order up to one to quit.  The result tells whether the session goes on. -/
def applyAll : List HostAction → Session → Progress Bool
  | [], session => ⟨session, [], .ok true⟩
  | .quit :: _, session => ⟨session, [], .ok false⟩
  | action :: rest, session => (session.apply action).andThen fun _ => applyAll rest

/-- Hand the host's keys over to the machine. -/
def holdKeys (session : Session) (held : Vector Bool 16) : Session :=
  { session with
    processor := { session.processor with
      machine := { session.processor.machine with keys := held } } }

/-- Execute the instructions of a frame.  Their lines are printed at once: printing does not fail,
so that no instruction is left out on their account. -/
def execute (session : Session) : Progress Unit :=
  let outcome := session.processor.steps session.ticks.toNat true #[]
  let session := { session with processor := outcome.processor }
  ⟨session, outcome.lines.map (⟨.line ·, session⟩), outcome.result.mapError .fault⟩

/-- Tell the sound device what has changed, and whether the buzzer sounds.  A rate and a pattern are
remembered before the device is told of them. -/
def updateSound (session : Session) : Progress Unit :=
  let machine := session.processor.machine
  let rate := Sound.rate machine.pitch
  let pattern := machine.pattern
  let tuned := { session with rate := some rate }
  let updated := { tuned with pattern := some pattern }
  ⟨updated,
    (if session.rate = some rate then [] else [⟨.sound (.rate rate), tuned⟩])
      ++ (if session.pattern = some pattern then []
        else [⟨.sound (.pattern pattern), updated⟩])
      ++ [⟨.sound (.buzzer machine.beeping), updated⟩],
    .ok ()⟩

/-- Count the timers down, update the devices and then count the frame. -/
def finish (session : Session) : Progress Unit :=
  let session := { session with processor := session.processor.tick }
  session.updateSound.andThen fun _ session =>
    ⟨{ session with
        frames := session.frames + 1
        instructions := session.instructions + session.ticks },
      [⟨.frame session.processor.machine.screen.colours, session⟩], .ok ()⟩

/-- One frame, if no device fails.  The result tells whether the session goes on. -/
def frame (session : Session) (now : Float) (input : Input) : Progress Bool :=
  (session.reportPerformance now).andThen fun _ session =>
    (applyAll input.actions session).andThen fun goesOn session =>
      if goesOn then
        ((session.holdKeys input.held).execute.andThen fun _ => finish).andThen fun _ session =>
          ⟨session, [], .ok true⟩
      else
        ⟨session, [], .ok false⟩

/-- After waiting until `now`, settle when the next frame is due. -/
def resume (session : Session) (now : Float) : Session :=
  let earliest := now - frameInterval
  let base := if session.nextFrame < earliest then earliest else session.nextFrame
  { session with nextFrame := base + frameInterval }

end Session

end Chip8
