import Mathlib.Data.List.Basic
import Chip8.Memory
import Chip8.Proofs.Slice

/-!
# Stores of a fixed size

A store is sized when it has as many cells as addresses.  On a sized store every checked operation
has one of two outcomes: the plain effect if the whole block lies inside, and otherwise a refusal
that names the last address of the block.  No operation changes the size.
-/

namespace Chip8

namespace Store

/-- The store has exactly `size` cells and as many addresses. -/
structure Sized {α : Type} (store : Store α) (size : Nat) : Prop where
  /-- Number of cells. -/
  cells : store.cells.size = size
  /-- Number of addresses. -/
  addresses : store.size = size

variable {α : Type} {store : Store α} {size : Nat}

theorem sized_filled (size : Nat) (value : α) : (filled size value).Sized size :=
  ⟨by simp [filled], rfl⟩

/-- Stores of one size are told apart by their cells. -/
theorem Sized.eq_of_getElem? {other : Store α} (sized : store.Sized size)
    (sized' : other.Sized size) (same : ∀ place : Nat, store.cells[place]? = other.cells[place]?) :
    store = other := by
  rcases store with ⟨cells, addresses⟩
  rcases other with ⟨cells', addresses'⟩
  obtain rfl : cells = cells' := Array.ext_getElem? same
  obtain rfl : addresses = addresses' := sized.addresses.trans sized'.addresses.symm
  rfl

theorem check_of_inside {address : Int} (nonneg : 0 ≤ address) (inside : address < store.size) :
    store.check address = .ok () := by
  simp [check, nonneg, inside]

theorem check_of_outside {address : Int} (outside : (store.size : Int) ≤ address) :
    store.check address = .error (.outOfBounds address) := by
  have refused : ¬ (0 ≤ address ∧ address < store.size) := by omega
  simp [check, refused]

/-! ## Single cells -/

theorem read_of_inside [Inhabited α] {address : Int} (nonneg : 0 ≤ address)
    (inside : address < store.size) :
    store.read address = .ok (store.cells.getD address.toNat default) := by
  rw [read, check_of_inside nonneg inside]
  rfl

theorem write_of_inside {address : Int} (nonneg : 0 ≤ address) (inside : address < store.size)
    (value : α) : store.write address value = .ok (store.patch address.toNat #[value]) := by
  rw [write, check_of_inside nonneg inside]
  rfl

/-! ## Blocks -/

theorem readBlock_of_inside (sized : store.Sized size) {address count : Int}
    (nonneg : 0 ≤ address) (positive : 0 < count) (inside : address + count ≤ size) :
    store.readBlock address count =
      .ok (store.cells.extract address.toNat (address + count).toNat) := by
  have addresses := sized.addresses
  have cells := sized.cells
  rw [readBlock, check_of_inside (by omega) (by omega),
    Slice.read_of_inside nonneg (by omega) (by omega)]
  rfl

theorem readBlock_of_outside (sized : store.Sized size) {address count : Int}
    (outside : (size : Int) < address + count) :
    store.readBlock address count = .error (.outOfBounds (address + count - 1)) := by
  have addresses := sized.addresses
  rw [readBlock, check_of_outside (by omega)]
  rfl

theorem writeBlock_of_inside (sized : store.Sized size) {address : Int} {block : Array α}
    (nonneg : 0 ≤ address) (positive : 0 < address + block.size)
    (inside : address + block.size ≤ size) :
    store.writeBlock address block = .ok (store.patch address.toNat block) := by
  have addresses := sized.addresses
  have cells := sized.cells
  rw [writeBlock, check_of_inside (by omega) (by omega),
    Slice.replace_of_inside nonneg (by omega)]
  rfl

theorem writeBlock_of_outside (sized : store.Sized size) {address : Int} {block : Array α}
    (outside : (size : Int) < address + block.size) :
    store.writeBlock address block = .error (.outOfBounds (address + block.size - 1)) := by
  have addresses := sized.addresses
  rw [writeBlock, check_of_outside (by omega)]
  rfl

theorem Sized.patch (sized : store.Sized size) (place : Nat) (block : Array α) :
    (store.patch place block).Sized size :=
  ⟨by simp [Store.patch, sized.cells], sized.addresses⟩

theorem getElem?_patch_outside (place : Nat) (block : Array α) {index : Nat}
    (outside : index < place ∨ place + block.size ≤ index) :
    (store.patch place block).cells[index]? = store.cells[index]? :=
  Slice.getElem?_overwrite_outside _ (by simpa using outside)

theorem getElem?_patch_inside {place index : Nat} {block : Array α} (after : place ≤ index)
    (covered : index < place + block.size) (inside : index < store.cells.size) :
    (store.patch place block).cells[index]? = block[index - place]? := by
  have covered : index < place + block.toList.length := by simpa using covered
  simpa [Store.patch] using Slice.getElem?_overwrite_inside store.cells after covered inside

/-- A part of a block that was stored is read back. -/
theorem readBlock_patch (sized : store.Sized size) {place offset count : Nat} {block : Array α}
    (positive : 0 < count) (short : offset + count ≤ block.size)
    (inside : place + block.size ≤ size) :
    (store.patch place block).readBlock (place + offset : Nat) count =
      .ok (block.extract offset (offset + count)) := by
  have cells := sized.cells
  have patched := (sized.patch place block).cells
  rw [readBlock_of_inside (sized.patch place block) (by omega) (by omega) (by omega)]
  congr 1
  apply Array.ext_getElem?
  intro index
  rw [Array.getElem?_extract, Array.getElem?_extract, patched]
  by_cases covered : index < count
  · rw [if_pos (by omega), if_pos (by omega),
      getElem?_patch_inside (by omega) (by omega) (by omega)]
    congr 1
    omega
  · rw [if_neg (by omega), if_neg (by omega)]

/-! ## Whole stores -/

theorem Sized.clear (sized : store.Sized size) (value : α) : (store.clear value).Sized size :=
  sized.patch 0 _

theorem getElem?_clear (sized : store.Sized size) (value : α) {index : Nat}
    (inside : index < size) : (store.clear value).cells[index]? = some value := by
  have addresses := sized.addresses
  have cells := sized.cells
  have covered : index < 0 + (Array.replicate store.size value).size := by simp [addresses, inside]
  rw [Store.clear, getElem?_patch_inside (Nat.zero_le _) covered (by omega)]
  simp [addresses, inside]

theorem Sized.move (sized : store.Sized size) (distance : Int) :
    (store.move distance).Sized size := by
  rw [Store.move]
  split
  · exact sized
  · exact ⟨by simp [sized.cells], sized.addresses⟩

/-- Filling is refused exactly if the last cell to be filled has no address. -/
theorem fill_cases (store : Store α) (address count : Int) (value : α) :
    ((count ≤ 0 ∨ 0 ≤ address + count - 1 ∧ address + count - 1 < store.size) ∧
      ∃ filled, store.fill address count value = .ok filled ∧ filled.size = store.size) ∨
    (0 < count ∧ ¬ (0 ≤ address + count - 1 ∧ address + count - 1 < store.size)) ∧
      store.fill address count value = .error (.outOfBounds (address + count - 1)) := by
  rw [fill]
  by_cases none : count ≤ 0
  · rw [if_pos none]
    exact .inl ⟨.inl none, store, rfl, rfl⟩
  · rw [if_neg none, check]
    by_cases inside : 0 ≤ address + count - 1 ∧ address + count - 1 < store.size
    · rw [if_pos inside]
      exact .inl ⟨.inr inside, _, rfl, rfl⟩
    · rw [if_neg inside]
      exact .inr ⟨⟨by omega, inside⟩, rfl⟩

/-- Setting cells that lie inside is storing a block there, also if there are none to be set. -/
theorem fill_of_inside (sized : store.Sized size) {start count : Int} (nonneg : 0 ≤ start)
    (inside : start + count ≤ size) (value : α) :
    store.fill start count value =
      .ok (store.patch start.toNat (Array.replicate count.toNat value)) := by
  rw [fill]
  by_cases nothing : count ≤ 0
  · rw [if_pos nothing, Int.toNat_of_nonpos nothing]
    rfl
  · have cells := sized.cells
    have addresses := sized.addresses
    have length : start + count =
        start + ((Array.replicate count.toNat value).size : Int) := by
      simp
      omega
    rw [if_neg nothing, check_of_inside (by omega) (by omega), length,
      Slice.replace_of_inside nonneg (by omega)]
    rfl

/-- A request for cells is granted unless their number is negative or beyond every index. -/
theorem allocate_eq_ok_iff {count : Int} {size : Nat} :
    allocate count = .ok size ↔ count = size ∧ count < 0x8000000000000000 := by
  rw [allocate]
  split_ifs
  · exact iff_of_false nofun (by omega)
  · exact iff_of_false nofun (by omega)
  · rw [Except.ok.injEq]
    omega

end Store

namespace Memory

/-- Two bytes spell a number of sixteen bits. -/
theorem bigEndian_lt {block : Array UInt8} (two : block.size = 2) :
    bigEndian block < 0x10000 := by
  rcases block with ⟨bytes⟩
  obtain ⟨high, low, rfl⟩ := List.length_eq_two.mp two
  have high_lt := high.toNat_lt
  have low_lt := low.toNat_lt
  simp [bigEndian]
  omega

end Memory

end Chip8
