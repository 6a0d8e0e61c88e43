/-!
# Host actions

What a user can ask of the host while a program runs, apart from pressing the keys of the machine.
-/

namespace Chip8

/-- A request to the host. -/
inductive HostAction where
  /-- End the session. -/
  | quit
  /-- Switch the machine off and on and load the program again. -/
  | reset
  /-- Keep the state of the machine. -/
  | saveState
  /-- Go back to the state that was kept last. -/
  | loadState
  /-- Execute more instructions in each frame. -/
  | faster
  /-- Execute fewer instructions in each frame. -/
  | slower
  /-- Select the palette after the current one. -/
  | nextPalette
  /-- Select the palette before the current one. -/
  | previousPalette
  /-- Mute or unmute the sound. -/
  | toggleMute
  /-- A request that no host knows. -/
  | unknown (name : String)
deriving DecidableEq, Repr

namespace HostAction

/-- Every request that a host knows. -/
def all : List HostAction :=
  [.quit, .reset, .saveState, .loadState, .faster, .slower, .nextPalette, .previousPalette,
    .toggleMute]

/-- The name of a request. -/
def name : HostAction → String
  | .quit => "quit"
  | .reset => "reset"
  | .saveState => "save_state"
  | .loadState => "load_state"
  | .faster => "faster"
  | .slower => "slower"
  | .nextPalette => "next_palette"
  | .previousPalette => "previous_palette"
  | .toggleMute => "toggle_mute"
  | .unknown name => name

/-- The request with a given name. -/
def ofName (text : String) : HostAction :=
  (all.find? fun action => action.name == text).getD (.unknown text)

end HostAction

end Chip8
