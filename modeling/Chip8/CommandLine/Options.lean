import Chip8.CommandLine.Entry
import Chip8.Dialect
import Chip8.Keypad.Keymap

/-!
# Options

What the user settles when starting the interpreter, and the parameters by which the command line
settles it.
-/

namespace Chip8.CommandLine

/-- Everything the user settles at the start. -/
structure Options where
  /-- The program to execute. -/
  filename : String
  /-- Name of the architecture. -/
  arch : Entry String
  /-- Instructions in each frame; the architecture decides unless it is named. -/
  ticks : Entry Int
  /-- Whether frames follow each other without waiting. -/
  uncapped : Bool
  /-- Name of the rendering, input and sound systems. -/
  renderer : Entry String
  /-- Window pixels for each screen pixel. -/
  scale : Entry Int
  /-- Whether the sound is muted. -/
  mute : Entry Bool
  /-- The keymap as text. -/
  keymap : Entry String
  /-- An additional palette as text. -/
  palette : Entry String
  /-- A file that names palettes. -/
  config : Entry String
  /-- Decisions on single traits. -/
  overrides : Trait → Entry Bool
  /-- Whether every instruction is announced. -/
  debug : Bool

namespace Options

/-- The options for a program when nothing else is settled. -/
def standard (filename : String) : Options where
  filename
  arch := .given Arch.chip8.name
  ticks := .absent
  uncapped := false
  renderer := .absent
  scale := .absent
  mute := .given false
  keymap := .given Keymap.standardText
  palette := .absent
  config := .absent
  overrides := fun _ => .absent
  debug := false

end Options

/-- A parameter of the command line. -/
inductive Parameter where
  | help
  | arch
  | ticks
  | uncapped
  | renderer
  | scale
  | mute
  | keymap
  | palette
  | config
  | dialect (point : Trait)
  | debug
deriving DecidableEq, Repr

/-- What a parameter takes. -/
inductive Argument where
  /-- Nothing: the parameter is a mere flag. -/
  | none
  /-- A text, possibly one of a few. -/
  | text (choices : Option (List String))
  /-- A whole number, possibly one of a few. -/
  | number (choices : Option (List Int))
deriving DecidableEq, Repr

namespace Parameter

/-- Every parameter, in the order in which they are declared. -/
def all : List Parameter :=
  [.help, .arch, .ticks, .uncapped, .renderer, .scale, .mute, .keymap, .palette, .config]
    ++ Trait.all.map .dialect ++ [.debug]

/-- The names of a parameter; a short one comes first. -/
def names : Parameter → List String
  | .help => ["-h", "--help"]
  | .arch => ["-a", "--arch"]
  | .ticks => ["-t", "--ticks_per_frame"]
  | .uncapped => ["-u", "--uncapped"]
  | .renderer => ["-r", "--renderer"]
  | .scale => ["-s", "--scale"]
  | .mute => ["-m", "--mute"]
  | .keymap => ["-k", "--keymap"]
  | .palette => ["-p", "--palette"]
  | .config => ["-c", "--config"]
  | .dialect point => ["--" ++ point.key ++ "_quirks"]
  | .debug => ["-d", "--debug"]

/-- What a parameter takes. -/
def argument : Parameter → Argument
  | .help | .uncapped | .debug => .none
  | .arch => .text (some (Arch.all.map Arch.name))
  | .renderer => .text (some ["pygame", "null"])
  | .keymap | .palette | .config => .text none
  | .ticks | .scale => .number none
  | .mute | .dialect _ => .number (some [0, 1])

/-- All names with the parameters they belong to, in order. -/
def byName : List (String × Parameter) :=
  all.flatMap fun parameter => parameter.names.map fun name => (name, parameter)

/-- How messages refer to a parameter. -/
def title (parameter : Parameter) : String := "/".intercalate parameter.names

end Parameter

namespace Options

/-- Raise a flag. -/
def raise (options : Options) : Parameter → Options
  | .uncapped => { options with uncapped := true }
  | .debug => { options with debug := true }
  | _ => options

/-- Enter a text, or nothing, for a parameter. -/
def enterText (options : Options) (entry : Entry String) : Parameter → Options
  | .arch => { options with arch := entry }
  | .renderer => { options with renderer := entry }
  | .keymap => { options with keymap := entry }
  | .palette => { options with palette := entry }
  | .config => { options with config := entry }
  | _ => options

/-- Enter a number, or nothing, for a parameter. -/
def enterNumber (options : Options) (entry : Entry Int) : Parameter → Options
  | .ticks => { options with ticks := entry }
  | .scale => { options with scale := entry }
  | .mute => { options with mute := entry.map (· != 0) }
  | .dialect point =>
      { options with
        overrides := fun other =>
          if other = point then entry.map (· != 0) else options.overrides other }
  | _ => options

end Options

end Chip8.CommandLine
