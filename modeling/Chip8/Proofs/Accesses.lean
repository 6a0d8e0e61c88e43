import Chip8.Memory
import Chip8.Proofs.Store

/-!
# Checked accesses

Bytes and blocks of bytes are read, stored and zeroed, and the whole content is moved and cleared,
in any order and with any addresses.  An access goes ahead if its last address lies in memory, and
is refused otherwise.  Where its first address does so too, exactly the bytes in between are read or
replaced.  An access that starts before address zero and ends in memory overhangs: the check does
not see that, and what happens is what slices do.  It reads fewer bytes than were asked for, or
makes the content longer than the memory.  Without such accesses the content keeps its length.
-/

namespace Chip8

/-! ## Stores with enough cells -/

namespace Store

/-- The store has `size` addresses, and a cell for each of them at least. -/
structure Backed {α : Type} (store : Store α) (size : Nat) : Prop where
  /-- Number of addresses. -/
  addresses : store.size = size
  /-- Number of cells. -/
  cells : size ≤ store.cells.size

variable {α : Type} {store : Store α} {size : Nat}

theorem Sized.backed (sized : store.Sized size) : store.Backed size :=
  ⟨sized.addresses, Nat.le_of_eq sized.cells.symm⟩

namespace Backed

variable (backed : store.Backed size)

include backed

theorem withCells {cells : Array α} (enough : store.cells.size ≤ cells.size) :
    { store with cells }.Backed size :=
  ⟨backed.addresses, Nat.le_trans backed.cells enough⟩

theorem check_of_inside {address : Int} (nonneg : 0 ≤ address) (inside : address < size) :
    store.check address = .ok () :=
  Store.check_of_inside nonneg (backed.addresses.symm ▸ inside)

theorem check_of_outside {address : Int} (outside : address < 0 ∨ size ≤ address) :
    store.check address = .error (.outOfBounds address) := by
  have addresses := backed.addresses
  rw [check, if_neg (by omega)]

/-- Replacing a part in memory by as many cells is storing the block there. -/
theorem patch_eq {start : Int} {block : Array α} (nonneg : 0 ≤ start)
    (inside : start + block.size ≤ size) :
    store.patch start.toNat block =
      { store with cells := Slice.replace store.cells start (start + block.size) block } := by
  have cells := backed.cells
  rw [Slice.replace_of_inside nonneg (by omega)]
  rfl

end Backed

end Store

namespace Memory

/-! ## Accesses -/

/-- What may be asked of a memory. -/
inductive Access where
  /-- Read a byte. -/
  | read (address : Int)
  /-- Read a block. -/
  | readBlock (address count : Int)
  /-- Store a byte. -/
  | write (address : Int) (byte : UInt8)
  /-- Store a block. -/
  | writeBlock (address : Int) (block : Array UInt8)
  /-- Set a block to zeros. -/
  | zero (address count : Int)
  /-- Move the whole content. -/
  | move (distance : Int)
  /-- Set everything to zeros. -/
  | clear

namespace Access

/-- The first address of the bytes that are read or replaced, and their number. -/
def range? (size : Nat) : Access → Option (Int × Int)
  | .read address | .write address _ => some (address, 1)
  | .readBlock address count | .zero address count => some (address, count)
  | .writeBlock address block => some (address, block.size)
  | .clear => some (0, size)
  | .move _ => none

/-- The bytes that are put there, if there are any. -/
def stored? (size : Nat) : Access → Option (Array UInt8)
  | .read _ | .readBlock _ _ | .move _ => none
  | .write _ byte => some #[byte]
  | .writeBlock _ block => some block
  | .zero _ count => some (Array.replicate count.toNat 0)
  | .clear => some (Array.replicate size 0)

/-- The access ends in memory, but starts before address zero. -/
def Overhangs (size : Nat) (access : Access) : Prop :=
  ∃ start count, access.range? size = some (start, count) ∧
    start < 0 ∧ 0 < start + count ∧ start + count ≤ size

/-- What comes of an access to `count` bytes from `start` on: the memory afterwards and the
result. -/
structure Checked (size : Nat) (access : Access) (start count : Int) (memory after : Memory)
    (result : Except Fault (Array UInt8)) : Prop where
  /-- It succeeds exactly if its last address lies in memory. -/
  ok_iff : (∃ bytes, result = .ok bytes) ↔ 1 ≤ start + count ∧ start + count ≤ size
  /-- Unless it overhangs, that is to say that all its addresses lie in memory. -/
  ok_iff_inside : ¬ access.Overhangs size →
    ((∃ bytes, result = .ok bytes) ↔ 0 ≤ start ∧ start + count ≤ size)
  /-- If it is refused, nothing changes, and the fault names the last address. -/
  refused : ∀ fault, result = .error fault →
    after = memory ∧ fault = .outOfBounds (start + count - 1)
  /-- Reading changes nothing and gives exactly the bytes, but fewer if it overhangs. -/
  fetched : access.stored? size = none → ∀ bytes, result = .ok bytes → after = memory ∧
    (0 ≤ start → (bytes.size : Int) = count ∧
      bytes = memory.cells.extract start.toNat (start + count).toNat) ∧
    (start < 0 → (bytes.size : Int) < count)
  /-- Storing replaces exactly the bytes, but makes the content longer if it overhangs. -/
  stored : ∀ block, access.stored? size = some block → ∀ bytes, result = .ok bytes →
    block.size = count ∧ after.size = memory.size ∧
    (0 ≤ start → after.cells.size = memory.cells.size ∧
      ∀ place : Nat, after.cells[place]? =
        if start ≤ place ∧ place < start + count then block[place - start.toNat]?
        else memory.cells[place]?) ∧
    (start < 0 → memory.cells.size < after.cells.size)

/-- An access that ends in memory without overhang lies in memory. -/
theorem inside_iff {size : Nat} {access : Access} {start count : Int}
    (range : access.range? size = some (start, count)) (positive : 1 ≤ count)
    (flush : ¬ access.Overhangs size) :
    1 ≤ start + count ∧ start + count ≤ size ↔ 0 ≤ start ∧ start + count ≤ size := by
  constructor
  · rintro ⟨behind, last⟩
    refine ⟨Int.not_lt.mp fun before => flush ?_, last⟩
    exact ⟨start, count, range, before, behind, last⟩
  · rintro ⟨nonneg, last⟩
    exact ⟨by omega, last⟩

end Access

/-- Go over to the memory that comes out, if there is one. -/
def adopt (memory : Memory) : Except Fault Memory → Memory × Except Fault (Array UInt8)
  | .ok after => (after, .ok #[])
  | .error fault => (memory, .error fault)

/-- Do what is asked for; the bytes that were read are the result. -/
def serve (memory : Memory) : Access → Memory × Except Fault (Array UInt8)
  | .read address => (memory, (memory.read address).map fun byte => #[byte])
  | .readBlock address count => (memory, memory.readBlock address count)
  | .write address byte => memory.adopt (memory.writeNumber address byte.toNat)
  | .writeBlock address block => memory.adopt (memory.writeBlock address block)
  | .zero address count => memory.adopt (memory.fill address count 0)
  | .move distance => (memory.move distance, .ok #[])
  | .clear => (Store.clear memory 0, .ok #[])

/-- The memory after accesses in order, refused ones among them. -/
def serveAll (accesses : List Access) (memory : Memory) : Memory :=
  accesses.foldl (fun memory access => (memory.serve access).1) memory

variable {memory : Memory} {size : Nat} {access : Access} {start count : Int}
  {block : Array UInt8}

theorem writeNumber_byte (memory : Memory) (address : Int) (byte : UInt8) :
    memory.writeNumber address byte.toNat = memory.write address byte := by
  have narrow := byte.toNat_lt
  have fits : ¬ ((byte.toNat : Int) < 0 ∨ 0xFF < (byte.toNat : Int)) := by omega
  rw [writeNumber, if_neg fits, Int.toNat_natCast, UInt8.ofNat_toNat]
  rcases checked : memory.check address with fault | _
  · rw [Store.write, checked]
    rfl
  · rfl

/-! ## One access -/

section Serve

variable (backed : memory.Backed size)

include backed

theorem serve_of_outside (range : access.range? size = some (start, count)) (positive : 1 ≤ count)
    (outside : ¬ (1 ≤ start + count ∧ start + count ≤ size)) :
    memory.serve access = (memory, .error (.outOfBounds (start + count - 1))) := by
  have refused : memory.check (start + count - 1) = .error (.outOfBounds (start + count - 1)) :=
    backed.check_of_outside (by omega)
  cases access with
  | read address =>
      cases range
      rw [Int.add_sub_cancel] at refused ⊢
      rw [serve, Store.read, refused]
      rfl
  | readBlock address count =>
      cases range
      rw [serve, Store.readBlock, refused]
      rfl
  | write address byte =>
      cases range
      rw [Int.add_sub_cancel] at refused ⊢
      rw [serve, writeNumber, refused]
      rfl
  | writeBlock address block =>
      cases range
      rw [serve, Store.writeBlock, refused]
      rfl
  | zero address count =>
      cases range
      rw [serve, Store.fill, if_neg (by omega), refused]
      rfl
  | move distance => cases range
  | clear =>
      cases range
      omega

/-- Reading is cutting out a slice. -/
theorem serve_of_fetch (range : access.range? size = some (start, count))
    (fetch : access.stored? size = none) (last : 1 ≤ start + count ∧ start + count ≤ size) :
    memory.serve access = (memory, .ok (Slice.read memory.cells start (start + count))) := by
  have accepted : memory.check (start + count - 1) = .ok () :=
    backed.check_of_inside (by omega) (by omega)
  have cells := backed.cells
  cases access with
  | read address =>
      cases range
      rw [Int.add_sub_cancel] at accepted
      rw [serve, Store.read, accepted, Slice.read_one (by omega) (by omega)]
      rfl
  | readBlock address count =>
      cases range
      rw [serve, Store.readBlock, accepted]
      rfl
  | write | writeBlock | zero | clear => cases fetch
  | move distance => cases range

/-- Storing is replacing a slice. -/
theorem serve_of_store (range : access.range? size = some (start, count))
    (store : access.stored? size = some block) (positive : 1 ≤ count)
    (last : 1 ≤ start + count ∧ start + count ≤ size) :
    block.size = count ∧ memory.serve access =
      ({ memory with cells := Slice.replace memory.cells start (start + block.size) block },
        .ok #[]) := by
  have accepted : memory.check (start + count - 1) = .ok () :=
    backed.check_of_inside (by omega) (by omega)
  cases access with
  | read | readBlock | move => cases store
  | write address byte =>
      cases range
      cases store
      rw [Int.add_sub_cancel] at accepted
      have written : memory.write start byte = .ok (memory.patch start.toNat #[byte]) := by
        rw [Store.write, accepted]
        rfl
      rw [serve, writeNumber_byte, written, ← backed.patch_eq (by omega) last.2]
      exact ⟨rfl, rfl⟩
  | writeBlock address block =>
      cases range
      cases store
      rw [serve, Store.writeBlock, accepted]
      exact ⟨rfl, rfl⟩
  | zero address count =>
      cases range
      cases store
      have length : ((Array.replicate count.toNat (0 : UInt8)).size : Int) = count := by
        rw [Array.size_replicate]
        omega
      rw [serve, Store.fill, if_neg (by omega), accepted, length]
      exact ⟨rfl, rfl⟩
  | clear =>
      cases range
      cases store
      have length : ((Array.replicate size (0 : UInt8)).size : Int) = size := by
        rw [Array.size_replicate]
      have cleared : Store.clear memory (0 : UInt8) =
          Store.patch memory (Int.toNat 0) (Array.replicate size 0) := by
        rw [Store.clear, backed.addresses]
        rfl
      refine ⟨length, ?_⟩
      rw [serve, cleared, backed.patch_eq (Int.le_refl 0) (by omega)]

theorem serve_eq_ok_iff (range : access.range? size = some (start, count)) (positive : 1 ≤ count) :
    (∃ bytes, (memory.serve access).2 = .ok bytes) ↔
      1 ≤ start + count ∧ start + count ≤ size := by
  by_cases last : 1 ≤ start + count ∧ start + count ≤ size
  · refine iff_of_true ?_ last
    rcases stored : access.stored? size with _ | block
    · exact ⟨_, congrArg Prod.snd (serve_of_fetch backed range stored last)⟩
    · obtain ⟨-, served⟩ := serve_of_store backed range stored positive last
      exact ⟨_, congrArg Prod.snd served⟩
  · rw [serve_of_outside backed range positive last]
    exact iff_of_false nofun last

/-- An access to bytes goes ahead as a whole or not at all. -/
theorem checked_serve (range : access.range? size = some (start, count)) (positive : 1 ≤ count) :
    access.Checked size start count memory (memory.serve access).1 (memory.serve access).2 := by
  have cells := backed.cells
  have ok_iff := serve_eq_ok_iff backed range positive
  refine ⟨ok_iff, fun flush => ?_, fun fault failed => ?_, fun fetch bytes read => ?_,
    fun block store bytes written => ?_⟩
  · rw [ok_iff, Access.inside_iff range positive flush]
  · have outside : ¬ (1 ≤ start + count ∧ start + count ≤ size) := fun last => by
      obtain ⟨bytes, served⟩ := ok_iff.mpr last
      rw [served] at failed
      cases failed
    rw [serve_of_outside backed range positive outside] at failed ⊢
    exact ⟨rfl, (Except.error.inj failed).symm⟩
  · have last := ok_iff.mp ⟨bytes, read⟩
    have served := serve_of_fetch backed range fetch last
    rw [served] at read ⊢
    obtain rfl := Except.ok.inj read
    refine ⟨rfl, fun nonneg => ?_, fun before => ?_⟩
    · rw [Slice.read_of_inside nonneg (by omega) (by omega)]
      refine ⟨?_, rfl⟩
      rw [Array.size_extract]
      omega
    · have short : ((Slice.read memory.cells start (start + count)).size : Int) <
          start + count - start := Slice.size_read_lt_of_overhang before last.1
      omega
  · have last := ok_iff.mp ⟨bytes, written⟩
    obtain ⟨length, served⟩ := serve_of_store backed range store positive last
    rw [served]
    refine ⟨length, rfl, fun nonneg => ?_, fun before => ?_⟩
    · rw [Slice.replace_of_inside nonneg (by omega)]
      refine ⟨Slice.size_overwrite .., fun place => ?_⟩
      split_ifs with covered
      · rw [Slice.getElem?_overwrite_inside _ (by omega) (by simp; omega) (by omega),
          Array.getElem?_toList]
      · exact Slice.getElem?_overwrite_outside _ (by simp; omega)
    · exact Slice.lt_size_replace_of_overhang before (by omega) (by omega)

/-- Where no bytes are asked for, nothing changes. -/
theorem serve_of_nothing (range : access.range? size = some (start, count)) (nothing : count ≤ 0) :
    (memory.serve access).1 = memory := by
  cases access with
  | read | readBlock => rfl
  | write =>
      cases range
      omega
  | writeBlock address block =>
      cases range
      obtain rfl : block = #[] := Array.size_eq_zero_iff.mp (by omega)
      have same : Slice.replace memory.cells start (start + (#[] : Array UInt8).size) #[] =
          memory.cells := by
        simp [Slice.replace, Slice.overwrite]
      rw [serve, Store.writeBlock]
      rcases memory.check (start + (#[] : Array UInt8).size - 1) with fault | _
      · rfl
      · change { memory with cells := Slice.replace memory.cells _ _ _ } = memory
        rw [same]
  | zero address count =>
      cases range
      rw [serve, Store.fill, if_pos nothing]
      rfl
  | move distance => cases range
  | clear =>
      cases range
      obtain rfl : size = 0 := by omega
      rw [serve, Store.clear, backed.addresses]
      rfl

/-- Every address keeps its cell, and the number of cells stays unless the access overhangs. -/
theorem serve_keeps (access : Access) :
    (memory.serve access).1.Backed size ∧
      ((memory.serve access).1.cells.size = memory.cells.size ∨ access.Overhangs size) := by
  rcases range : access.range? size with _ | ⟨start, count⟩
  · cases access with
    | move distance =>
        rw [serve, Store.move]
        split
        · exact ⟨backed, Or.inl rfl⟩
        · exact ⟨backed.withCells (Nat.le_of_eq (Slice.size_slide ..).symm),
            Or.inl (Slice.size_slide ..)⟩
    | read | readBlock | write | writeBlock | zero | clear => cases range
  · have unchanged (same : (memory.serve access).1 = memory) :
        (memory.serve access).1.Backed size ∧
          ((memory.serve access).1.cells.size = memory.cells.size ∨ access.Overhangs size) := by
      rw [same]
      exact ⟨backed, Or.inl rfl⟩
    by_cases positive : 1 ≤ count
    · by_cases last : 1 ≤ start + count ∧ start + count ≤ size
      · rcases stored : access.stored? size with _ | block
        · exact unchanged (congrArg Prod.fst (serve_of_fetch backed range stored last))
        · obtain ⟨length, served⟩ := serve_of_store backed range stored positive last
          rw [served]
          refine ⟨backed.withCells (Slice.le_size_replace ..), ?_⟩
          rcases Int.lt_or_le start 0 with before | nonneg
          · exact Or.inr ⟨start, count, range, before, last⟩
          · have cells := backed.cells
            rw [Slice.replace_of_inside nonneg (by omega)]
            exact Or.inl (Slice.size_overwrite ..)
      · exact unchanged (congrArg Prod.fst (serve_of_outside backed range positive last))
    · exact unchanged (serve_of_nothing backed range (by omega))

end Serve

/-! ## Runs -/

theorem serveAll_keeps (backed : memory.Backed size) (accesses : List Access) :
    (serveAll accesses memory).Backed size ∧
      ((∀ access ∈ accesses, ¬ access.Overhangs size) →
        (serveAll accesses memory).cells.size = memory.cells.size) := by
  induction accesses generalizing memory with
  | nil => exact ⟨backed, fun _ => rfl⟩
  | cons access rest induction =>
      obtain ⟨next, kept⟩ := serve_keeps backed access
      obtain ⟨last, later⟩ := induction next
      refine ⟨last, fun inside => ?_⟩
      obtain ⟨first, others⟩ := List.forall_mem_cons.mp inside
      exact (later others).trans (kept.resolve_right first)

end Memory

end Chip8
