import Chip8.CommandLine.Parse
import Chip8.Launch

/-!
# The program

Reads the command line and the files it names, then plays the session by the real clock until the
machine stops.  There is no window system here, so a session has to be asked for without one.
-/

namespace Chip8.Main

open CommandLine

/-- The time in seconds. -/
def now : IO Float := return Float.ofNat (← IO.monoNanosNow) / 1000000000.0

/-- Print what a console has gathered. -/
def flush (console : Console) : IO Console := do
  for line in console.lines do
    IO.println line
  return { console with lines := #[] }

/-- The content of a file, if it can be read. -/
def content? (path : String) : IO (Option ByteArray) :=
  try
    return some (← IO.FS.readBinFile path)
  catch _ =>
    return none

/-- Give a session new random bytes, one for each instruction of a frame. -/
def roll (session : Session) : IO Session := do
  let mut dice := []
  for _ in [0:session.ticks.toNat] do
    dice := UInt8.ofNat (← IO.rand 0 255) :: dice
  return { session with processor := { session.processor with dice } }

/-- Wait until a time has come. -/
def sleepUntil (time : Float) : IO Unit := do
  let rest := time - (← now)
  if 0 < rest then
    IO.sleep (rest * 1000).toUInt32

/-- Play frames until the session ends, and report how it ended. -/
partial def loop (capped : Bool) (performance : Performance Console) : IO Launch.Report := do
  let session ← roll performance.session
  let (performance, ending) :=
    { performance with session }.frame Console.react (← now) .idle
  let devices ← flush performance.devices
  match ending with
  | some ending => return Launch.concludePlay { performance with devices } ending
  | none =>
      if capped then
        sleepUntil performance.session.nextFrame
        loop capped { performance with session := performance.session.resume (← now), devices }
      else
        loop capped { performance with devices }

/-- Play a prepared session to its end. -/
def play (prepared : Launch.Prepared) : IO Launch.Report := do
  let console ← flush prepared.console
  match { prepared with console }.start with
  | .error report => return report
  | .ok performance => loop prepared.capped performance

/-- The text that tells why nothing was launched or what went wrong. -/
def describe : Launch.Error → String
  | .noWindowing => Launch.noWindowingText
  | .unknownArch name => "Unknown architecture: " ++ name
  | .missingProgram => "The program cannot be read."
  | .noPath _ => "No file has a name with a null character."
  | .palettes error => error.message
  | .noValue parameter => "There is no value for " ++ parameter.title ++ "."
  | .keymap error => error.message
  | .device _ => "A device failed."
  | .stopped (.fault cause) => cause.message
  | .stopped (.unknownAction name) => "Unknown request: " ++ name
  | .stopped .endlessTime => "The clock does not show a finite time."
  | .unfinished => "The session was not played to its end."

/-- How the command line is used. -/
def usage : String :=
  "usage: [options] filename\n" ++
    "\n".intercalate (Parameter.all.map fun parameter => "  " ++ ", ".intercalate parameter.names)

/-- Launch a session and tell how it ended. -/
def execute (options : Options) : IO UInt32 := do
  let program ← content? options.filename
  let paletteFile ← match options.config with
    | .given path => content? path
    | .absent | .blank => pure none
  let host : Host :=
    { windowing := none, program := program.map ByteArray.data, paletteFile, dice := [] }
  match Launch.prepare options host with
  | .error error =>
      IO.println Product.banner
      IO.eprintln (describe error)
      return 1
  | .ok prepared =>
      let report ← play prepared
      for text in report.lines do
        IO.println text
      match report.error with
      | none => return 0
      | some error =>
          IO.eprintln (describe error)
          return 1

end Chip8.Main

/-- Read the command line and do what it asks for. -/
def main (arguments : List String) : IO UInt32 := do
  match Chip8.CommandLine.parse arguments with
  | .error error =>
      IO.eprintln Chip8.Main.usage
      IO.eprintln ("error: " ++ error.message)
      return 2
  | .ok .help =>
      IO.println Chip8.Main.usage
      return 0
  | .ok (.execute options) => Chip8.Main.execute options
