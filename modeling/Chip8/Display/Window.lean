import Chip8.Display.Viewer
import Chip8.Display.WindowSystem
import Chip8.Product

/-!
# Windows

A window shows pictures in the colours of the palette in use.  A picture is first written into a
buffer of red, green and blue bytes at the size of the screen, and showing it has the window system
stretch the buffer to the size of the window.
-/

namespace Chip8

namespace Palette

/-- Red, green and blue of a colour, if it is one of 24 bits. -/
def components? (colour : Int) : Option (List UInt8) :=
  if 0 ≤ colour ∧ colour ≤ 0xFFFFFF then
    let number := colour.toNat
    some [.ofNat (number / 0x10000), .ofNat (number / 0x100 % 0x100), .ofNat (number % 0x100)]
  else
    none

end Palette

/-- A display that draws in a window. -/
structure Window where
  /-- The system that shows the window. -/
  system : WindowSystem
  /-- What every display keeps. -/
  viewer : Viewer
  /-- The title of the window. -/
  title : String
  /-- Width and height of the window, once a resolution is known. -/
  size : Option (Int × Int)
  /-- What the window shows, once it is open. -/
  surface : Option Raster
  /-- Red, green and blue bytes of the picture, once a resolution is known. -/
  buffer : Option (Array UInt8)

namespace Window

/-- Window pixels for each screen pixel unless another number is asked for. -/
def standardScale : Int := 8

/-- A window around a viewer, not open yet. -/
def ofViewer (system : WindowSystem) (viewer : Viewer) : Window where
  system
  viewer
  title := Product.name
  size := none
  surface := none
  buffer := none

/-- Put a text into the title. -/
def entitle (title : String) (window : Window) : Window × Option Error :=
  if title.contains (Char.ofNat 0) then (window, some .title)
  else ({ window with title }, none)

/-- Screens of at most this width get twice the scale. -/
def narrow : Int := 64

/-- The size of a window for a screen of the given size. -/
def scaledSize (scale width height : Int) : Int × Int :=
  let scale := scale * (if width ≤ narrow then 2 else 1)
  (width * scale, height * scale)

/-- Expect pictures of the given size, and open the window in a size that fits. -/
def resize (width height : Int) (window : Window) : Window × Option Error :=
  let window := { window with viewer := window.viewer.resize width height }
  if width = 0 ∨ height = 0 then
    (window, none)
  else
    let size := scaledSize window.viewer.scale width height
    let window := { window with size := some size }
    match window.system.setMode window.surface size with
    | .error error => (window, some error)
    | .ok surface =>
        let window := { window with surface := some surface }
        if width * height < 0 then
          (window, some (.buffer .negativeCount))
        else
          let count := (width * height * 3).toNat
          ({ window with buffer := some (Array.replicate count 0) }, none)

/-- The bytes of a picture in the colours of a palette. -/
def paint (colours : Vector (List UInt8) 4) (frame : Frame) : Array UInt8 :=
  frame.flatMap fun index => colours[index % 4].toArray

/-- Red, green and blue of the four colours of a palette, if they have 24 bits. -/
def colours? (palette : Palette) : Option (Vector (List UInt8) 4) :=
  palette.mapM Palette.components?

/-- Write a picture over the start of the buffer; the buffer grows if it is too short. -/
def take (frame : Frame) (window : Window) : Window × Option Error :=
  let window := { window with viewer := window.viewer.take frame }
  match colours? window.viewer.palette with
  | none => (window, some .colour)
  | some colours =>
      match window.buffer with
      | none => (window, if frame.isEmpty then none else some .noBuffer)
      | some buffer =>
          let painted := paint colours frame
          ({ window with buffer := some (painted ++ buffer.extract painted.size buffer.size) },
            none)

/-- What a window shows once the buffer is stretched to the given size. -/
def shownOn (window : Window) (surface : Raster) (size : Int × Int) : Except Error Raster := do
  let picture ← window.system.fromBuffer window.buffer (window.viewer.width, window.viewer.height)
  let stretched ← window.system.stretch picture size
  return window.system.blit stretched surface

/-- Show the buffer.  Nothing happens before the first picture or while the window is not open. -/
def refresh (window : Window) : Window × Option Error :=
  match window.viewer.frame, window.surface, window.size with
  | some _, some surface, some size =>
      match window.shownOn surface size with
      | .ok surface => ({ window with surface := some surface }, none)
      | .error error => (window, some error)
  | _, _, _ => (window, none)

/-- Red, green and blue at a place of the window. -/
def pixel (x y : Int) (window : Window) : Except Error (List UInt8) := do
  let surface ← window.surface.elim (.error .notOpen) .ok
  window.system.colourAt surface x y

end Window

end Chip8
