import Chip8.HostAction
import Chip8.Keypad.Keymap

/-!
# Keyboard

The host's keyboard events and what they come to: keys of the machine being held, and requests to
the host.  A code that the keymap assigns never counts as a request.
-/

namespace Chip8

/-- Something that happens at the host's keyboard or window. -/
inductive KeyEvent where
  /-- A key goes down. -/
  | down (code : Int)
  /-- A key goes up. -/
  | up (code : Int)
  /-- The window is closed. -/
  | close
  /-- Anything else. -/
  | other
deriving DecidableEq, Repr

namespace HostAction

/-- Codes of the keys that stand for requests: Escape, Backspace, F5, F9, the arrows and M. -/
def hotkeys : List (Int × HostAction) := [
  (27, .quit),
  (8, .reset),
  (1073741886, .saveState),
  (1073741890, .loadState),
  (1073741906, .faster),
  (1073741905, .slower),
  (1073741903, .nextPalette),
  (1073741904, .previousPalette),
  (109, .toggleMute)]

end HostAction

/-- The keyboard as a keypad. -/
structure Keyboard where
  /-- Codes of the keys. -/
  keymap : Keymap
  /-- Which keys are held. -/
  held : Vector Bool 16
deriving DecidableEq, Repr

namespace Keyboard

/-- A keyboard with no key held. -/
def idle (keymap : Keymap) : Keyboard := ⟨keymap, Vector.replicate 16 false⟩

/-- React to an event, with the request that it stands for, if any. -/
def react (keyboard : Keyboard) : KeyEvent → Keyboard × Option HostAction
  | .down code =>
      match keyboard.keymap.keyOf? code with
      | some key => ({ keyboard with held := keyboard.held.set key true key.isLt }, none)
      | none => (keyboard, HostAction.hotkeys.lookup code)
  | .up code =>
      match keyboard.keymap.keyOf? code with
      | some key => ({ keyboard with held := keyboard.held.set key false key.isLt }, none)
      | none => (keyboard, none)
  | .close => (keyboard, some .quit)
  | .other => (keyboard, none)

/-- React to events in order, with the requests that they stand for. -/
def reactAll : List KeyEvent → Keyboard → Keyboard × List HostAction
  | [], keyboard => (keyboard, [])
  | event :: rest, keyboard =>
      let (keyboard, action) := keyboard.react event
      let (keyboard, actions) := reactAll rest keyboard
      (keyboard, action.toList ++ actions)

end Keyboard

end Chip8
