import Chip8.Fault

/-!
# Window systems

What a window asks of the system that shows it.  The system is a parameter of every window: what it
opens, accepts and shows is up to it.
-/

namespace Chip8

/-- Why a window, or the system that shows it, refuses. -/
inductive Window.Error where
  /-- The palette in use has a colour of more than 24 bits or below zero. -/
  | colour
  /-- There is no buffer that a picture could be written to or taken from. -/
  | noBuffer
  /-- The picture does not have the size of the screen, or there are no such sizes. -/
  | pictureSize
  /-- The window cannot have this size. -/
  | windowSize
  /-- The size of the window is too long a number. -/
  | longSize
  /-- A side of the picture or a place in the window is too long a number. -/
  | longNumber
  /-- There cannot be a buffer for a picture of this size. -/
  | buffer (cause : Fault)
  /-- The title holds a null character. -/
  | title
  /-- The window is not open. -/
  | notOpen
  /-- A place outside the window. -/
  | outside
deriving DecidableEq, Repr

/-- A rectangle of coloured pixels. -/
structure Raster where
  /-- Pixels in a row. -/
  width : Nat
  /-- Number of rows. -/
  height : Nat
  /-- Red, green and blue of the pixel in a column and a row. -/
  colour : Nat → Nat → List UInt8

/-- What a system that shows windows does. -/
structure WindowSystem where
  /-- Open a window of the given width and height, in place of the one that is open. -/
  setMode : Option Raster → Int × Int → Except Window.Error Raster
  /-- Take the red, green and blue bytes of a buffer for a picture of the given width and height. -/
  fromBuffer : Option (Array UInt8) → Int × Int → Except Window.Error Raster
  /-- Stretch a picture to the given width and height. -/
  stretch : Raster → Int × Int → Except Window.Error Raster
  /-- Copy a picture onto a window, upper left corner on upper left corner. -/
  blit : Raster → Raster → Raster
  /-- Red, green and blue at a place of a window. -/
  colourAt : Raster → Int → Int → Except Window.Error (List UInt8)

end Chip8
