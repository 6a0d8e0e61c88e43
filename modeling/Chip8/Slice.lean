/-!
# Slices

Positions in a sequence that may be counted from either end, the cutting and replacing of
contiguous parts, and the sliding of a whole sequence.
-/

namespace Chip8.Slice

/-- The place that a position names: a negative one counts from the end. -/
def index? (length : Nat) (position : Int) : Option Nat :=
  if 0 ≤ position then
    if position < length then some position.toNat else none
  else if 0 ≤ position + length then
    some (position + length).toNat
  else
    none

/-- A bound of a slice: a negative one counts from the end, and either end stops it. -/
def bound (length : Nat) (position : Int) : Nat :=
  if position < 0 then (position + length).toNat else min position.toNat length

/-- The part from `start` up to but not including `stop`. -/
def read {α : Type} (cells : Array α) (start stop : Int) : Array α :=
  cells.extract (bound cells.size start) (bound cells.size stop)

/-- Set consecutive cells from a place onwards; what falls past the end is dropped. -/
def overwrite {α : Type} (cells : Array α) (place : Nat) : List α → Array α
  | [] => cells
  | value :: rest => overwrite (cells.setIfInBounds place value) (place + 1) rest

/-- Replace the part from `start` up to `stop` by a block, which may have another length. -/
def replace {α : Type} (cells : Array α) (start stop : Int) (block : Array α) : Array α :=
  let first := bound cells.size start
  let last := max first (bound cells.size stop)
  if last = first + block.size then
    overwrite cells first block.toList
  else
    cells.extract 0 first ++ block ++ cells.extract last cells.size

/-- Move every cell by a distance, towards the end if it is positive.  Cells that nothing moves
into keep their value, and a distance of the whole length or more moves nothing. -/
def slide {α : Type} (cells : Array α) (distance : Int) : Array α :=
  let count := distance.natAbs
  if cells.size ≤ count then
    cells
  else if distance < 0 then
    cells.extract count cells.size ++ cells.extract (cells.size - count) cells.size
  else
    cells.extract 0 count ++ cells.extract 0 (cells.size - count)

end Chip8.Slice
