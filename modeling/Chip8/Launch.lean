import Chip8.CommandLine.Options
import Chip8.Console
import Chip8.Keypad.Keyboard
import Chip8.Session.Play

/-!
# Launching

From the options of the user to a session on devices, and from its end to the texts that report it.
A program is prepared in a fixed order, so that of several faults in the options the first one in
that order is reported.
-/

namespace Chip8

/-- What the host holds for a launch. -/
structure Host where
  /-- The window system, if there is one. -/
  windowing : Option WindowSystem
  /-- The program, if its file can be read. -/
  program : Option (Array UInt8)
  /-- Content of the palette file, if it can be read. -/
  paletteFile : Option ByteArray
  /-- Random bytes. -/
  dice : List UInt8

namespace Launch

/-- Why a launch ends without a report of the machine. -/
inductive Error where
  /-- A window is asked for and none is available. -/
  | noWindowing
  /-- No architecture has this name. -/
  | unknownArch (name : String)
  /-- A text that should name a file cannot. -/
  | noPath (text : String)
  /-- The program cannot be read. -/
  | missingProgram
  /-- The palettes are not usable. -/
  | palettes (error : Palette.Collection.Error)
  /-- A parameter has no value, and one is needed. -/
  | noValue (parameter : CommandLine.Parameter)
  /-- The keymap is not usable. -/
  | keymap (error : Keymap.Error)
  /-- A device failed. -/
  | device (error : Console.Error)
  /-- The session stopped for a cause that is not reported as the end of a program. -/
  | stopped (stop : Stop)
  /-- The frames that were allowed ran out. -/
  | unfinished
deriving DecidableEq, Repr

/-- The wording shown when windows are not available. -/
def noWindowingText : String :=
  "PyGame does not appear to be installed.  Install it, or use the 'null' renderer."

/-- Name of the renderer that opens a window. -/
def windowRenderer : String := "pygame"

/-- Whether a window is asked for, which it is also by default. -/
def wantsWindow (options : CommandLine.Options) : Bool :=
  match options.renderer with
  | .absent | .blank => true
  | .given name => name == "" || name == windowRenderer

/-- A session about to start, with its devices. -/
structure Prepared where
  /-- The processor, not loaded yet. -/
  processor : Processor
  /-- The program. -/
  program : Array UInt8
  /-- Instructions in each frame. -/
  ticks : Int
  /-- Whether frames wait for their time. -/
  capped : Bool
  /-- The keys that count. -/
  keymap : Keymap
  /-- The devices. -/
  console : Console
  /-- What stops the session once it is loaded and the devices know the size of the screen. -/
  obstacle : Option Error

/-- The value entered for a parameter that needs one. -/
def demand {α : Type} (parameter : CommandLine.Parameter) (entry : CommandLine.Entry α) :
    Except Error α :=
  entry.value?.elim (.error (.noValue parameter)) .ok

/-- Refuse a text that cannot name a file, which is one that holds a null character. -/
def checkPath (text : String) : Except Error Unit :=
  if text.toList.contains '\x00' then .error (.noPath text) else .ok ()

/-- The window system that shows the session, if a window is asked for. -/
def windowing (options : CommandLine.Options) (host : Host) :
    Except Error (Option WindowSystem) :=
  if wantsWindow options then host.windowing.elim (.error .noWindowing) fun system => .ok system
  else .ok none

/-- The display that the options ask for, in a window if there is a system that shows it. -/
def display (options : CommandLine.Options) (host : Host) (system : Option WindowSystem) :
    Except Error Display := do
  let scale := options.scale.value?.getD (if system.isSome then Window.standardScale else 1)
  let palette := options.palette.value?.map String.toList
  let file ← match options.config with
    | .absent => pure none
    | .blank => throw (.noValue .config)
    | .given path => do
      checkPath path
      pure (some host.paletteFile)
  let viewer ← (Viewer.create scale palette file).mapError .palettes
  if options.palette.isBlank then
    throw (.noValue .palette)
  return system.elim (.headless viewer) fun system => .windowed (.ofViewer system viewer)

/-- What stops a session as soon as its numbers are needed: the scale when the window is opened,
and the instruction count in the first frame. -/
def obstacle (options : CommandLine.Options) : Option Error :=
  if wantsWindow options && options.scale.isBlank then some (.noValue .scale)
  else if options.ticks.isBlank then some (.noValue .ticks)
  else none

/-- The devices of a session, with the sound device opened if there is one. -/
def console (display : Display) (audible : Bool) : Console where
  lines := #[Product.banner]
  display
  mixer := if audible then some .idle else none
  calls := if audible then Sound.Mixer.openCalls.toArray else #[]

/-- Settle what the options leave open. -/
def prepare (options : CommandLine.Options) (host : Host) : Except Error Prepared := do
  let system ← windowing options host
  let name ← demand .arch options.arch
  let arch ← (Arch.ofName? name).elim (.error (.unknownArch name)) .ok
  let dialect := Dialect.ofOverrides arch fun point => (options.overrides point).decision?
  checkPath options.filename
  let program ← host.program.elim (.error .missingProgram) .ok
  let display ← display options host system
  let keymapText ← demand .keymap options.keymap
  let keymap ← (Keymap.parse keymapText.toList).mapError .keymap
  return {
    processor := .powerOn arch dialect options.debug host.dice
    program
    ticks := options.ticks.value?.getD arch.ticksPerFrame
    capped := !options.uncapped
    keymap
    console := console display (system.isSome && options.mute.decision? != some true)
    obstacle := obstacle options }

/-- What a launch leaves behind. -/
structure Report where
  /-- Texts printed, in order; one of them may have several lines. -/
  lines : List String
  /-- Calls made to the audio system. -/
  calls : List Sound.Call
  /-- Why it ended without a report of the machine, if it did. -/
  error : Option Error

/-- The text that reports why a machine stopped, or the fault itself if programs do not cause it. -/
def halted (processor : Processor) : Fault → Except Fault String
  | .unsupported report => .ok report.text
  | fault => do
      if !fault.isReported then
        throw fault
      return "Emulation halted: " ++ fault.message ++ "\n\n"
        ++ (← processor.report Processor.unknownText)

/-- Close the devices and say how it ended. -/
def conclude (console : Console) (error : Option Error) : Report :=
  let console := console.close
  ⟨console.lines.toList, console.calls.toList, error⟩

/-- Report what stopped a session. -/
def concludeStop (processor : Processor) (console : Console) (stop : Stop) : Report :=
  match stop with
  | .fault fault =>
      match halted processor fault with
      | .ok text => conclude (console.print text) none
      | .error fault => conclude console (some (.stopped (.fault fault)))
  | .unknownAction _ | .endlessTime => conclude console (some (.stopped stop))

/-- Say how playing a session ended. -/
def concludePlay (performance : Performance Console) : Ending Console.Error → Report
  | .quit => conclude performance.devices none
  | .stopped stop => concludeStop performance.session.processor performance.devices stop
  | .device error => conclude performance.devices (some (.device error))
  | .unfinished => conclude performance.devices (some .unfinished)

namespace Prepared

/-- Load the program and tell the devices the size of the screen.  A launch that fails here is
reported. -/
def start (prepared : Prepared) : Except Report (Performance Console) :=
  match Session.start prepared.processor prepared.program prepared.ticks with
  | .error fault => .error (concludeStop prepared.processor prepared.console (.fault fault))
  | .ok (session, signals) =>
      match deliver Console.react signals prepared.console with
      | (console, some error) => .error (conclude console (some (.device error)))
      | (console, none) =>
          match prepared.obstacle with
          | some error => .error (conclude console (some error))
          | none => .ok ⟨session, 0, console⟩

/-- Play the session, for at most `count` frames. -/
def play (prepared : Prepared) (stage : Stage) (count : Nat) : Report :=
  match prepared.start with
  | .error report => report
  | .ok performance =>
      let (performance, ending) := stage.play Console.react count 0 performance
      concludePlay performance ending

end Prepared

/-- Launch the interpreter and play at most `count` frames by the given clock, with what the user
does before each frame. -/
def run (options : CommandLine.Options) (host : Host) (clock : Clock) (patience count : Nat)
    (input : Nat → Input) : Report :=
  match prepare options host with
  | .error error => ⟨[Product.banner], [], some error⟩
  | .ok prepared => prepared.play ⟨clock, prepared.capped, patience, input⟩ count

end Launch

end Chip8
