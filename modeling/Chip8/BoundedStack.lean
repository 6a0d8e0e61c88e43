import Chip8.Store

/-!
# Bounded stacks

A stack with a fixed number of slots.  Slots above the topmost used entry keep what was stored in
them until they are used again; slots that were never used hold zero.
-/

namespace Chip8

/-- A stack with a fixed number of slots. -/
structure BoundedStack (α : Type) where
  /-- All slots, bottom first. -/
  slots : Array α
  /-- Number of slots in use. -/
  depth : Nat
deriving DecidableEq, Repr

namespace BoundedStack

variable {α : Type} [Zero α]

/-- An empty stack with the given number of slots. -/
def empty (capacity : Nat) : BoundedStack α := ⟨Array.replicate capacity 0, 0⟩

/-- An empty stack with the number of slots asked for, which is none if it is negative. -/
def make (capacity : Int) : Except Fault (BoundedStack α) :=
  if -0x8000000000000000 ≤ capacity ∧ capacity < 0 then
    .ok (empty 0)
  else
    (Store.allocate capacity).map empty

/-- Put an item on top. -/
def push (stack : BoundedStack α) (item : α) : Except Fault (BoundedStack α) :=
  if stack.depth < stack.slots.size then
    .ok ⟨stack.slots.setIfInBounds stack.depth item, stack.depth + 1⟩
  else
    .error .stackOverflow

/-- Put items on top, the first of them lowest, up to the first that does not fit. -/
def pushAll : List α → BoundedStack α → BoundedStack α × Except Fault Unit
  | [], stack => (stack, .ok ())
  | item :: rest, stack =>
      match stack.push item with
      | .ok stack => pushAll rest stack
      | .error fault => (stack, .error fault)

/-- Take the topmost item. -/
def pop (stack : BoundedStack α) : Except Fault (α × BoundedStack α) :=
  match stack.depth with
  | 0 => .error .stackUnderflow
  | depth + 1 => .ok (stack.slots.getD depth 0, { stack with depth })

/-- An empty stack of the same capacity. -/
def clear (stack : BoundedStack α) : BoundedStack α := empty stack.slots.size

/-- The items in use, oldest first. -/
def toList (stack : BoundedStack α) : List α := stack.slots.toList.take stack.depth

end BoundedStack

end Chip8
