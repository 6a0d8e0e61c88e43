import Chip8.Palette.Collection
import Chip8.Screen

/-!
# Viewers

What every display keeps, whether or not it draws: the palettes to choose from, the resolution and
the last picture it was given.
-/

namespace Chip8

/-- A display that draws nothing. -/
structure Viewer where
  /-- Window pixels for each screen pixel. -/
  scale : Int
  /-- The palettes to choose from. -/
  palettes : List Palette
  /-- The palette in use. -/
  selected : Fin palettes.length
  /-- Width of the pictures. -/
  width : Int
  /-- Height of the pictures. -/
  height : Int
  /-- The last picture given. -/
  frame : Option Frame

namespace Viewer

/-- The palettes of a file, or the standard ones without a file. -/
def available : Option (Option ByteArray) → Except Palette.Collection.Error (List Palette)
  | none => .ok Palette.standard
  | some content => Palette.Collection.ofFile content

/-- A viewer with the palettes of a file, or the standard ones without a file.  The user's own
palette comes before them.  The first palette is in use. -/
def create (scale : Int) (palette : Option (List Char)) (file : Option (Option ByteArray)) :
    Except Palette.Collection.Error Viewer := do
  let others ← available file
  let own ← match palette with
    | none => pure []
    | some text => (Palette.parse text).map ([·]) |>.mapError .palette
  match own ++ others with
  | [] => throw .noPalettes
  | first :: rest =>
      return {
        scale
        palettes := first :: rest
        selected := ⟨0, Nat.zero_lt_succ _⟩
        width := 0
        height := 0
        frame := none }

/-- The palette in use. -/
def palette (viewer : Viewer) : Palette := viewer.palettes[viewer.selected]

/-- Use the palette at a place counted around the list. -/
def select (viewer : Viewer) (place : Nat) : Viewer :=
  { viewer with selected := ⟨place % viewer.palettes.length, Nat.mod_lt _ viewer.selected.pos⟩ }

/-- Use the palette after the current one; the first one follows the last. -/
def next (viewer : Viewer) : Viewer := viewer.select (viewer.selected + 1)

/-- Use the palette before the current one; the last one precedes the first. -/
def previous (viewer : Viewer) : Viewer :=
  viewer.select (viewer.selected + (viewer.palettes.length - 1))

/-- Expect pictures of the given size. -/
def resize (width height : Int) (viewer : Viewer) : Viewer := { viewer with width, height }

/-- Take a picture. -/
def take (frame : Frame) (viewer : Viewer) : Viewer := { viewer with frame := some frame }

end Viewer

end Chip8
