import Chip8.Fault
import Chip8.Slice

/-!
# Stores

Stores of cells whose accesses are checked.  A block is checked by its last address alone; where a
block starts before address zero, its start counts from the end as in any slice.  A block that is
stored there may leave more cells than there are addresses.  The host is taken to have room for
every block, however long.
-/

namespace Chip8

/-- A store of cells. -/
structure Store (α : Type) where
  /-- The stored cells. -/
  cells : Array α
  /-- Number of addresses that may be accessed. -/
  size : Nat
deriving DecidableEq, Repr

namespace Store

/-- The number of cells that a request asks for.  Refused are numbers of more than 64 bits, which no
index reaches, and negative ones. -/
def allocate (count : Int) : Except Fault Nat :=
  if count < -0x8000000000000000 ∨ 0x8000000000000000 ≤ count then .error .countTooLong
  else if count < 0 then .error .negativeCount
  else .ok count.toNat

variable {α : Type}

/-- A store with the same value in every cell. -/
def filled (size : Nat) (value : α) : Store α := ⟨Array.replicate size value, size⟩

/-- A store of the size asked for, with the same value in every cell. -/
def make (size : Int) (value : α) : Except Fault (Store α) := do
  return filled (← allocate size) value

/-- Refuse an address outside the store. -/
def check (store : Store α) (address : Int) : Except Fault Unit :=
  if 0 ≤ address ∧ address < store.size then .ok () else .error (.outOfBounds address)

/-- The cell at an address. -/
def read [Inhabited α] (store : Store α) (address : Int) : Except Fault α := do
  store.check address
  return store.cells.getD address.toNat default

/-- The block of `count` cells from an address. -/
def readBlock (store : Store α) (address count : Int) : Except Fault (Array α) := do
  store.check (address + count - 1)
  return Slice.read store.cells address (address + count)

/-- Store a cell. -/
def write (store : Store α) (address : Int) (value : α) : Except Fault (Store α) := do
  store.check address
  return { store with cells := store.cells.setIfInBounds address.toNat value }

/-- Store a block from an address onwards. -/
def writeBlock (store : Store α) (address : Int) (block : Array α) : Except Fault (Store α) := do
  store.check (address + block.size - 1)
  return { store with cells := Slice.replace store.cells address (address + block.size) block }

/-- Move the whole content by a distance; what is moved away from keeps its value. -/
def move (store : Store α) (distance : Int) : Store α :=
  if store.size ≤ distance.natAbs then
    store
  else
    { store with cells := Slice.slide store.cells distance }

/-- Set `count` cells from an address to a value; nothing is done unless `count` is positive. -/
def fill (store : Store α) (address count : Int) (value : α) : Except Fault (Store α) :=
  if count ≤ 0 then
    .ok store
  else do
    store.check (address + count - 1)
    return { store with
      cells := Slice.replace store.cells address (address + count)
        (Array.replicate count.toNat value) }

/-- Store a block that is known to fit. -/
def patch (store : Store α) (place : Nat) (block : Array α) : Store α :=
  { store with cells := Slice.overwrite store.cells place block.toList }

/-- Set every cell that has an address to a value. -/
def clear (store : Store α) (value : α) : Store α :=
  store.patch 0 (Array.replicate store.size value)

end Store

end Chip8
