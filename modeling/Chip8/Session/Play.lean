import Chip8.Session

/-!
# Playing a session

A session is played frame after frame on devices, with a clock that says what each reading of the
time yields.  Waiting for a frame reads the clock until the time has come.
-/

namespace Chip8

/-- What each successive reading of the time yields, in seconds. -/
abbrev Clock := Nat → Float

namespace Clock

/-- Number of readings after one that is not before `time`, within `patience` further readings. -/
def reach? (clock : Clock) (time : Float) : Nat → Nat → Option Nat
  | 0, _ => none
  | patience + 1, readings =>
      if clock readings < time then
        reach? clock time patience (readings + 1)
      else
        some (readings + 1)

end Clock

/-- How playing a session ended. -/
inductive Ending (ε : Type) where
  /-- The user quit. -/
  | quit
  /-- The session was stopped in the middle of a frame. -/
  | stopped (stop : Stop)
  /-- A device failed. -/
  | device (error : ε)
  /-- The frames to be played or the patience to wait for one ran out. -/
  | unfinished

/-- A session being played on devices. -/
structure Performance (δ : Type) where
  /-- The session. -/
  session : Session
  /-- How often the clock has been read. -/
  readings : Nat
  /-- The devices. -/
  devices : δ

/-- Pass signals to devices in order, up to the first at which they fail. -/
def deliver {δ ε : Type} (react : δ → Signal → δ × Option ε) : List Signal → δ → δ × Option ε
  | [], devices => (devices, none)
  | signal :: rest, devices =>
      match react devices signal with
      | (devices, some error) => (devices, some error)
      | (devices, none) => deliver react rest devices

/-- Pass on what a session has sent, up to the first signal at which the devices fail.  What is left
of the session then is told with the error. -/
def convey {δ ε : Type} (react : δ → Signal → δ × Option ε) :
    List Sent → δ → δ × Option (Session × ε)
  | [], devices => (devices, none)
  | sent :: rest, devices =>
      match react devices sent.signal with
      | (devices, some error) => (devices, some (sent.session, error))
      | (devices, none) => convey react rest devices

namespace Performance

/-- Play one frame.  The result tells how it ended the session, if it did. -/
def frame {δ ε : Type} (react : δ → Signal → δ × Option ε) (now : Float) (input : Input)
    (performance : Performance δ) : Performance δ × Option (Ending ε) :=
  let progress := performance.session.frame now input
  let readings := performance.readings + 1
  match convey react progress.sent performance.devices with
  | (devices, some (session, error)) => (⟨session, readings, devices⟩, some (.device error))
  | (devices, none) =>
      (⟨progress.session, readings, devices⟩,
        match progress.result with
        | .error stop => some (.stopped stop)
        | .ok false => some .quit
        | .ok true => none)

end Performance

namespace Session

/-- Wait for the next frame, unless `patience` runs out. -/
def wait (session : Session) (clock : Clock) (patience readings : Nat) : Option (Session × Nat) :=
  (clock.reach? session.nextFrame patience readings).map fun readings =>
    (session.resume (clock readings), readings + 1)

end Session

/-- The conditions under which a session is played. -/
structure Stage where
  /-- The clock. -/
  clock : Clock
  /-- Whether frames are held back until they are due. -/
  capped : Bool
  /-- How often the clock is read at most while waiting for a frame. -/
  patience : Nat
  /-- What the user does before each frame. -/
  input : Nat → Input

namespace Stage

/-- Play one frame at the time that the clock shows. -/
def frame {δ ε : Type} (stage : Stage) (react : δ → Signal → δ × Option ε) (input : Input)
    (performance : Performance δ) : Performance δ × Option (Ending ε) :=
  performance.frame react (stage.clock performance.readings) input

/-- Wait until the next frame is due if frames are held back, unless the patience runs out. -/
def hold {δ : Type} (stage : Stage) (performance : Performance δ) : Option (Performance δ) :=
  if stage.capped then
    (performance.session.wait stage.clock stage.patience performance.readings).map
      fun (session, readings) => { performance with session, readings }
  else
    some performance

/-- Play at most `count` frames, beginning with the one numbered `number`. -/
def play {δ ε : Type} (stage : Stage) (react : δ → Signal → δ × Option ε) :
    Nat → Nat → Performance δ → Performance δ × Ending ε
  | 0, _, performance => (performance, .unfinished)
  | count + 1, number, performance =>
      match stage.frame react (stage.input number) performance with
      | (performance, some ending) => (performance, ending)
      | (performance, none) =>
          match stage.hold performance with
          | none => (performance, .unfinished)
          | some performance => play stage react count (number + 1) performance

end Stage

end Chip8
