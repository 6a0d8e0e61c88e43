import Chip8.Display.Window
import Chip8.Session

/-!
# Consoles

The devices on which a session is played: a display, perhaps a mixer, and the printed lines.  A
console reacts to the signals of a session.
-/

namespace Chip8

/-- Where pictures go. -/
inductive Display where
  /-- Nowhere. -/
  | headless (viewer : Viewer)
  /-- To a window. -/
  | windowed (window : Window)

namespace Display

/-- Change what every display keeps. -/
def adjust (change : Viewer → Viewer) : Display → Display
  | .headless viewer => .headless (change viewer)
  | .windowed window => .windowed { window with viewer := change window.viewer }

/-- Expect pictures of the given size. -/
def resize (width height : Int) : Display → Display × Option Window.Error
  | .headless viewer => (.headless (viewer.resize width height), none)
  | .windowed window =>
      let (window, error) := window.resize width height
      (.windowed window, error)

/-- Show a picture. -/
def present (frame : Frame) : Display → Display × Option Window.Error
  | .headless viewer => (.headless (viewer.take frame), none)
  | .windowed window =>
      match window.take frame with
      | (window, some error) => (.windowed window, some error)
      | (window, none) =>
          let (window, error) := window.refresh
          (.windowed window, error)

/-- Put a text into the title. -/
def entitle (title : String) : Display → Display × Option Window.Error
  | .headless viewer => (.headless viewer, none)
  | .windowed window =>
      let (window, error) := window.entitle title
      (.windowed window, error)

end Display

/-- The title that reports a performance. -/
def performanceTitle (frames : Nat) (instructions : Int) : String :=
  Product.name ++ " - " ++ toString frames ++ " FPS, " ++ toString instructions ++ " OPS"

/-- The devices of a session. -/
structure Console where
  /-- Lines printed so far. -/
  lines : Array String
  /-- The display. -/
  display : Display
  /-- The sound device, unless the session is silent. -/
  mixer : Option Sound.Mixer
  /-- Calls made to the audio system so far. -/
  calls : Array Sound.Call

namespace Console

/-- Why a device fails. -/
inductive Error where
  /-- The window refused. -/
  | window (error : Window.Error)
  /-- The wave could not be made. -/
  | wave (error : Sound.WaveError)
deriving DecidableEq, Repr

/-- Print a line. -/
def print (console : Console) (line : String) : Console :=
  { console with lines := console.lines.push line }

/-- Pass a request to the sound device. -/
def sound (console : Console) (command : Sound.Command) : Console × Option Error :=
  match console.mixer with
  | none => (console, none)
  | some mixer =>
      let reaction := mixer.obey command
      ({ console with
          mixer := some reaction.mixer
          calls := console.calls ++ reaction.calls },
        reaction.error.map .wave)

/-- Replace the display. -/
def withDisplay (console : Console) (result : Display × Option Window.Error) :
    Console × Option Error :=
  ({ console with display := result.1 }, result.2.map .window)

/-- React to a signal of a session. -/
def react (console : Console) : Signal → Console × Option Error
  | .line text => (console.print text, none)
  | .resolution width height => console.withDisplay (console.display.resize width height)
  | .performance frames instructions =>
      console.withDisplay (console.display.entitle (performanceTitle frames instructions))
  | .nextPalette => console.withDisplay (console.display.adjust Viewer.next, none)
  | .previousPalette => console.withDisplay (console.display.adjust Viewer.previous, none)
  | .sound command => console.sound command
  | .frame colours => console.withDisplay (console.display.present colours)

/-- Close the sound device. -/
def close (console : Console) : Console :=
  { console with
    calls := console.calls ++ (console.mixer.elim [] Sound.Mixer.closeCalls) }

end Console

end Chip8
