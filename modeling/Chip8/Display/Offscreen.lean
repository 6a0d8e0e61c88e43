import Chip8.Display.WindowSystem

/-!
# Windows that nobody sees

A window system that keeps its windows in memory, where they can be looked at pixel by pixel.  Sides
are numbers of 32 bits, a stretched picture takes the nearest pixel, and new windows are black.
-/

namespace Chip8.WindowSystem.Offscreen

open Window

/-- A side of a window, which is a number of 32 bits.  Longer numbers wrap, up to 64 bits. -/
def side (length : Int) : Except Error Int :=
  if -0x8000000000000000 ≤ length ∧ length < 0x8000000000000000 then
    .ok (length.bmod 0x100000000)
  else
    .error .longSize

/-- Whether a number has at most 32 bits. -/
def isShort (number : Int) : Bool := -0x80000000 ≤ number && number < 0x80000000

/-- The longest side with which a window can be opened.  A window that is open may become larger. -/
def longestSide : Int := 16384

/-- Width and height of the desktop. -/
def desktop : Nat × Nat := (1024, 768)

/-- Black pixels. -/
def black (width height : Nat) : Raster := ⟨width, height, fun _ _ => [0, 0, 0]⟩

/-- A black window of the given size.  It covers the desktop if it would have no area at all.  If
only one side is zero, a new window gets one pixel there, and an open one keeps its size. -/
def setMode (window : Option Raster) (size : Int × Int) : Except Error Raster := do
  let width ← side size.1
  let height ← side size.2
  if width < 0 ∨ height < 0 then
    throw .windowSize
  if window.isNone ∧ (longestSide < width ∨ longestSide < height) then
    throw .windowSize
  if width = 0 ∧ height = 0 then
    return black desktop.1 desktop.2
  else if width = 0 ∨ height = 0 then
    return window.elim (black (max width 1).toNat (max height 1).toNat) fun raster =>
      black raster.width raster.height
  else
    return black width.toNat height.toNat

/-- The picture in a buffer, which has to hold three bytes for each pixel and nothing else. -/
def fromBuffer (buffer : Option (Array UInt8)) (size : Int × Int) : Except Error Raster := do
  if !(isShort size.1 && isShort size.2) then
    throw .longNumber
  if size.1 < 1 ∨ size.2 < 1 then
    throw .pictureSize
  let bytes ← buffer.elim (.error .noBuffer) .ok
  if (bytes.size : Int) ≠ size.1 * size.2 * 3 then
    throw .pictureSize
  let width := size.1.toNat
  return ⟨width, size.2.toNat, fun column row =>
    (List.range 3).map fun part => bytes.getD ((row * width + column) * 3 + part) 0⟩

/-- A picture in another size, each pixel that of the picture that it lies in. -/
def stretch (picture : Raster) (size : Int × Int) : Except Error Raster := do
  let width ← side size.1
  let height ← side size.2
  if width < 0 ∨ height < 0 then
    throw .pictureSize
  return ⟨width.toNat, height.toNat, fun column row =>
    picture.colour (column * picture.width / width.toNat) (row * picture.height / height.toNat)⟩

/-- A window with a picture on it, and what it showed before beside the picture. -/
def blit (picture window : Raster) : Raster :=
  if window.width ≤ picture.width ∧ window.height ≤ picture.height then
    { window with colour := picture.colour }
  else
    { window with
      colour := fun column row =>
        if column < picture.width ∧ row < picture.height then picture.colour column row
        else window.colour column row }

/-- The colour at a place, which has to lie inside. -/
def colourAt (raster : Raster) (x y : Int) : Except Error (List UInt8) :=
  if !(isShort x && isShort y) then
    .error .longNumber
  else if 0 ≤ x ∧ x < raster.width ∧ 0 ≤ y ∧ y < raster.height then
    .ok (raster.colour x.toNat y.toNat)
  else
    .error .outside

end Offscreen

/-- The window system that keeps its windows in memory. -/
def offscreen : WindowSystem where
  setMode := Offscreen.setMode
  fromBuffer := Offscreen.fromBuffer
  stretch := Offscreen.stretch
  blit := Offscreen.blit
  colourAt := Offscreen.colourAt

end Chip8.WindowSystem
