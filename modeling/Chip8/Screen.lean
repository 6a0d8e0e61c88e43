import Chip8.Store

/-!
# Screen

A screen is a stack of equally large planes of lit and unlit cells.  A plane mask selects the
planes that clearing and scrolling affect.  In low resolution every logical pixel covers a block of
2x2 cells; the planes themselves always have the physical size.
-/

namespace Chip8

/-- One display plane, row by row. -/
abbrev Plane := Store Bool

/-- Colour indices of all pixels, row by row. -/
abbrev Frame := Array Nat

/-- A direction in which the screen scrolls. -/
inductive Direction where
  | up
  | down
  | left
  | right
deriving DecidableEq, Repr

/-- What flipping a logical pixel met. -/
inductive Contact where
  /-- No cell of the pixel was lit before. -/
  | free
  /-- Some cell of the pixel was lit before. -/
  | collided
  /-- The pixel lies beyond the right or bottom edge and was left alone. -/
  | clipped
deriving DecidableEq, Repr

namespace Plane

/-- Flip the cells at the given positions in turn.  The result tells whether one was lit when its
turn came; a position outside the plane ends the work there. -/
def flipCells : List Int → Bool → Plane → Plane × Except Fault Bool
  | [], lit, plane => (plane, .ok lit)
  | position :: rest, lit, plane =>
      match Slice.index? plane.cells.size position with
      | none => (plane, .error .noSuchPixel)
      | some place =>
          let lit := lit || plane.cells.getD place false
          flipCells rest lit { plane with cells := plane.cells.modify place not }

/-- How far scrolling by a number of rows or columns moves the cells of a plane.  More of them than
the plane has do not count. -/
def shift (width height : Int) (direction : Direction) (count : Int) : Int :=
  match direction with
  | .up => -(min count height * width)
  | .down => min count height * width
  | .left => -min count width
  | .right => min count width

/-- The strips that cells are scrolled away from: where each starts and how long it is.  For columns
there is one in each row, where cells of the neighbouring row have come to lie. -/
def strips (width height size : Int) (direction : Direction) (count : Int) : List (Int × Int) :=
  match direction with
  | .up =>
      let length := min count height * width
      [(size - length, length)]
  | .down => [(0, min count height * width)]
  | .left =>
      let columns := min count width
      (List.range height.toNat).map fun (row : Nat) => (width * (row + 1) - columns, columns)
  | .right =>
      let columns := min count width
      (List.range height.toNat).map fun (row : Nat) => (width * row, columns)

/-- Move the cells of a plane, then blank the strips that they moved away from, one after the other.
A negative count of rows or columns moves them the other way and blanks nothing. -/
def scroll (width height : Int) (direction : Direction) (count : Int) (plane : Plane) :
    Except Fault Plane :=
  (strips width height plane.size direction count).foldlM
    (fun plane (start, length) => plane.fill start length false)
    (plane.move (shift width height direction count))

end Plane

/-- The display as the machine sees it. -/
structure Screen where
  /-- Physical width in cells. -/
  width : Int
  /-- Physical height in cells. -/
  height : Int
  /-- Whether pixels past an edge come back at the opposite one. -/
  wraps : Bool
  /-- Whether a logical pixel covers 2x2 cells. -/
  lowRes : Bool
  /-- Selected planes, one bit each. -/
  mask : Nat
  /-- All planes, lowest bit of the mask first. -/
  planes : Array Plane
deriving DecidableEq, Repr

namespace Screen

/-- An unlit screen in high resolution with its first plane selected. -/
def blank (width height : Int) (planes : Nat) (wraps : Bool) : Screen where
  width
  height
  wraps
  lowRes := false
  mask := 1
  planes := Array.replicate planes (.filled (width * height).toNat false)

/-- The screen that a request asks for.  Both sides may be negative, as long as the area is not. -/
def make (width height planes : Int) (wraps : Bool) : Except Fault Screen := do
  if 0 < planes then
    discard <| Store.allocate (width * height)
  if planes < 0 then
    throw .negativePlanes
  if planes = 0 then
    throw .noPlanes
  return blank width height planes.toNat wraps

/-- Cells along one side of a logical pixel. -/
def scale (screen : Screen) : Nat := if screen.lowRes then 2 else 1

/-- Width in logical pixels. -/
def logicalWidth (screen : Screen) : Int := screen.width / screen.scale

/-- Height in logical pixels. -/
def logicalHeight (screen : Screen) : Int := screen.height / screen.scale

/-- Numbers of the selected planes, lowest first. -/
def selected (screen : Screen) : List Nat :=
  (List.range screen.planes.size).filter screen.mask.testBit

/-- Select planes by a mask; the mask must name existing planes only. -/
def select (screen : Screen) (mask : Int) : Except Fault Screen :=
  if 0 ≤ mask ∧ mask < (1 <<< screen.planes.size : Nat) then
    .ok { screen with mask := mask.toNat }
  else
    .error .noSuchPlanes

/-- Apply a change to every selected plane. -/
def mapSelected (screen : Screen) (change : Plane → Plane) : Screen :=
  { screen with
    planes := screen.planes.mapIdx fun number plane =>
      if screen.mask.testBit number then change plane else plane }

/-- Blank the selected planes. -/
def clear (screen : Screen) : Screen := screen.mapSelected (·.clear false)

/-- Blank every plane. -/
def clearAll (screen : Screen) : Screen :=
  { screen with planes := screen.planes.map (·.clear false) }

/-- The plane of a number; one that does not exist has no cells. -/
def plane (screen : Screen) (number : Nat) : Plane := screen.planes.getD number (.filled 0 false)

/-- Replace a plane, if it exists. -/
def withPlane (screen : Screen) (number : Nat) (plane : Plane) : Screen :=
  { screen with planes := screen.planes.setIfInBounds number plane }

/-- Scroll the selected planes by physical rows or columns, one after the other.  Planes of one size
are refused alike, and a plane that is refused was not moved before, for the strip that cannot be
blanked is then longer than the plane: a scroll that is refused leaves the screen as it was. -/
def scroll (screen : Screen) (direction : Direction) (count : Int) : Except Fault Screen :=
  screen.selected.foldlM
    (fun screen number => do
      let plane ← (screen.plane number).scroll screen.width screen.height direction count
      return screen.withPlane number plane)
    screen

/-- Unlit, in high resolution, first plane selected. -/
def reset (screen : Screen) : Screen :=
  { screen.clearAll with mask := 1, lowRes := false }

/-- Positions of the cells that a logical pixel covers, row by row. -/
def cells (screen : Screen) (x y : Int) : List Int :=
  let scale := screen.scale
  (List.range scale).flatMap fun (row : Nat) =>
    (List.range scale).map fun (column : Nat) =>
      (y * scale + row) * screen.width + (x * scale + column)

/-- Flip cells of one plane. -/
def flipCells (screen : Screen) (number : Nat) (positions : List Int) :
    Screen × Except Fault Bool :=
  let plane := screen.plane number
  let screen := { screen with planes := screen.planes.setIfInBounds number (.filled 0 false) }
  let (plane, lit) := plane.flipCells positions false
  ({ screen with planes := screen.planes.setIfInBounds number plane }, lit)

/-- The logical pixel that coordinates name, if it is not clipped.  When the screen wraps,
coordinates are taken modulo the logical size; otherwise what lies past the right or bottom edge is
clipped. -/
def locate (screen : Screen) (x y : Int) : Except Fault (Option (Int × Int)) :=
  let width := screen.logicalWidth
  let height := screen.logicalHeight
  if screen.wraps then
    if width = 0 ∨ height = 0 then .error .emptyScreen
    else .ok (some (x.fmod width, y.fmod height))
  else if width ≤ x ∨ height ≤ y then
    .ok none
  else
    .ok (some (x, y))

/-- Flip one logical pixel of a plane. -/
def flip (screen : Screen) (number : Nat) (x y : Int) : Screen × Except Fault Contact :=
  match screen.locate x y with
  | .error fault => (screen, .error fault)
  | .ok none => (screen, .ok .clipped)
  | .ok (some (x, y)) =>
      let positions := screen.cells x y
      let (screen, lit) := screen.flipCells number positions
      (screen, lit.map fun lit => if lit then .collided else .free)

/-- Cells of a plane, if it exists. -/
def plane? (screen : Screen) (number : Int) : Option Plane :=
  (Slice.index? screen.planes.size number).bind fun place => screen.planes[place]?

/-- Whether a plane shows a lit cell at a place.  Behind the first plane, cells without an address
do not count. -/
def isLit (screen : Screen) (place number : Nat) : Bool :=
  let plane := screen.plane number
  (number == 0 || place < plane.size) && plane.cells.getD place false

/-- Colour index of each cell of the first plane: the mask of the planes in which it is lit. -/
def colours (screen : Screen) : Frame :=
  Array.ofFn (n := (screen.plane 0).cells.size) fun place =>
    screen.planes.size.fold (fun number _ colour =>
      if screen.isLit place number then colour + 1 <<< number else colour) 0

end Screen

end Chip8
