import Chip8.Machine

/-!
# Sprites

A sprite is read from memory at I, one picture for each selected plane, and every set bit flips a
logical pixel.  Its start always wraps around the screen; whether the rest does is up to the screen.
-/

namespace Chip8

/-- The size of a sprite. -/
structure SpriteSize where
  /-- Number of rows. -/
  rows : Nat
  /-- Bytes in a row. -/
  rowBytes : Nat
deriving DecidableEq, Repr

namespace SpriteSize

/-- The size that a drawing instruction asks for.  Zero rows mean a tall sprite on the later
architectures, which is also wide except on Super-CHIP in low resolution. -/
def ofRows (arch : Arch) (highRes : Bool) (rows : Digit) : SpriteSize :=
  if rows = 0 ∧ arch.includes .superChip then
    ⟨16, if arch = .superChip ∧ !highRes then 1 else 2⟩
  else
    ⟨rows, 1⟩

/-- Bytes in one picture. -/
def bytes (size : SpriteSize) : Nat := size.rows * size.rowBytes

/-- Pixels in a row. -/
def width (size : SpriteSize) : Nat := 8 * size.rowBytes

end SpriteSize

namespace Screen

/-- Draw one row of a picture: flip a pixel for each set bit, the most significant one leftmost.
The result tells whether the row collided, where clipped pixels count if asked for. -/
def drawRow (countClipped : Bool) (number : Nat) (left top : Int) (width bits : Nat)
    (screen : Screen) : Except Fault (Screen × Bool) :=
  (List.range width).foldlM (fun (screen, collided) column =>
    if bits.testBit (width - 1 - column) then
      match screen.flip number (left + column) top with
      | (_, .error fault) => .error fault
      | (screen, .ok .collided) => .ok (screen, true)
      | (screen, .ok .clipped) => .ok (screen, collided || countClipped)
      | (screen, .ok .free) => .ok (screen, collided)
    else
      .ok (screen, collided)) (screen, false)

/-- Draw one picture on a plane and count the rows that collided. -/
def drawPicture (countClipped : Bool) (size : SpriteSize) (picture : Array UInt8) (number : Nat)
    (left top : Int) (screen : Screen) : Except Fault (Screen × Nat) :=
  (List.range size.rows).foldlM (fun (screen, count) row => do
    let bits := Memory.bigEndian
      (picture.extract (row * size.rowBytes) ((row + 1) * size.rowBytes))
    let (screen, collided) ←
      screen.drawRow countClipped number left (top + row) size.width bits
    return (screen, if collided then count + 1 else count)) (screen, 0)

/-- Draw consecutive pictures on the given planes and count the rows that collided. -/
def drawPictures (countClipped : Bool) (size : SpriteSize) (left top : Int) :
    List Nat → Array UInt8 → Screen → Except Fault (Screen × Nat)
  | [], _, screen => .ok (screen, 0)
  | number :: rest, pictures, screen => do
      let (screen, count) ← screen.drawPicture countClipped size
        (pictures.extract 0 size.bytes) number left top
      let (screen, more) ← drawPictures countClipped size left top rest
        (pictures.extract size.bytes pictures.size) screen
      return (screen, count + more)

end Screen

namespace Machine

/-- The byte of a number, if there is one. -/
def asByte (number : Nat) : Except Fault UInt8 :=
  if number ≤ 0xFF then .ok (.ofNat number) else .error .notAByte

/-- Draw the sprite at I with its corner at (Vx, Vy).  All pictures are fetched before the screen
is touched.  VF tells whether a row collided, or on Super-CHIP in high resolution how many did. -/
def draw (arch : Arch) (dialect : Dialect) (machine : Machine) (x y rows : Digit) :
    Except Fault Machine := do
  let screen := machine.screen
  if screen.logicalWidth = 0 ∨ screen.logicalHeight = 0 then
    throw .emptyScreen
  let size := SpriteSize.ofRows arch machine.highRes rows
  let left := Int.fmod (machine.v.read x).toNat screen.logicalWidth
  let top := Int.fmod (machine.v.read y).toNat screen.logicalHeight
  let total := size.bytes * screen.selected.length
  let pictures ← if total = 0 then pure #[] else machine.memory.readBlock machine.index total
  let (screen, count) ← screen.drawPictures (dialect .clipCollision) size left top
    screen.selected pictures
  let report := if arch = .superChip ∧ machine.highRes then count else min count 1
  return { machine with screen, v := machine.v.write 15 (← asByte report) }

end Machine

end Chip8
