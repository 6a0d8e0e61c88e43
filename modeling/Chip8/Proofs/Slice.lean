import Chip8.Slice

/-!
# Parts that slices name

A slice whose bounds lie inside the sequence is the plain part between them, and replacing such a
part by a block of the same length writes the block cell by cell.  Cells are compared through
`getElem?`, which also fixes the length.  A slice that starts before the first cell is shorter than
its bounds say, and replacing it makes the sequence longer.
-/

namespace Chip8.Slice

variable {α : Type}

theorem index?_of_inside {length : Nat} {position : Int} (nonneg : 0 ≤ position)
    (inside : position < length) : index? length position = some position.toNat := by
  simp [index?, nonneg, inside]

theorem bound_of_inside {length : Nat} {position : Int} (nonneg : 0 ≤ position)
    (inside : position ≤ length) : bound length position = position.toNat := by
  have not_neg : ¬ position < 0 := by omega
  simp only [bound, not_neg, if_false]
  omega

theorem bound_le (length : Nat) (position : Int) : bound length position ≤ length := by
  rw [bound]
  split <;> omega

/-- Reading between two bounds that lie inside cuts out exactly the cells between them. -/
theorem read_of_inside {cells : Array α} {start stop : Int} (nonneg : 0 ≤ start)
    (ordered : start ≤ stop) (inside : stop ≤ cells.size) :
    read cells start stop = cells.extract start.toNat stop.toNat := by
  rw [read, bound_of_inside nonneg (by omega), bound_of_inside (by omega) inside]

theorem read_one [Inhabited α] {cells : Array α} {position : Int} (nonneg : 0 ≤ position)
    (inside : position < cells.size) :
    read cells position (position + 1) = #[cells.getD position.toNat default] := by
  have found : position.toNat < cells.size := by omega
  have next : (position + 1).toNat = position.toNat + 1 := by omega
  have before : cells.extract position.toNat position.toNat = #[] :=
    Array.extract_eq_empty_iff.mpr (Nat.min_le_left _ _)
  rw [read_of_inside nonneg (by omega) (by omega), next, Array.extract_succ_right (by omega) found,
    before, Array.getD, dif_pos found]
  rfl

@[simp]
theorem size_overwrite (cells : Array α) (place : Nat) (block : List α) :
    (overwrite cells place block).size = cells.size := by
  induction block generalizing cells place with
  | nil => rfl
  | cons value rest induction => simp [overwrite, induction]

/-- Before the place and past the block, overwriting leaves every cell alone. -/
theorem getElem?_overwrite_outside (cells : Array α) {place index : Nat} {block : List α}
    (outside : index < place ∨ place + block.length ≤ index) :
    (overwrite cells place block)[index]? = cells[index]? := by
  induction block generalizing cells place with
  | nil => rfl
  | cons value rest induction =>
      simp only [List.length_cons] at outside
      have elsewhere : place ≠ index := by omega
      rw [overwrite, induction _ (by omega), Array.getElem?_setIfInBounds]
      simp [elsewhere]

/-- From the place onwards, overwriting puts the block as far as there are cells. -/
theorem getElem?_overwrite_inside (cells : Array α) {place index : Nat} {block : List α}
    (after : place ≤ index) (covered : index < place + block.length)
    (inside : index < cells.size) :
    (overwrite cells place block)[index]? = block[index - place]? := by
  induction block generalizing cells place with
  | nil =>
      simp only [List.length_nil] at covered
      omega
  | cons value rest induction =>
      simp only [List.length_cons] at covered
      rw [overwrite]
      by_cases first : place = index
      · subst first
        rw [getElem?_overwrite_outside _ (Or.inl (Nat.lt_succ_self place)),
          Array.getElem?_setIfInBounds]
        simp [inside]
      · rw [induction _ (by omega) (by omega) (by simpa using inside)]
        obtain ⟨offset, rfl⟩ : ∃ offset, index = place + (offset + 1) :=
          ⟨index - place - 1, by omega⟩
        simp [show place + (offset + 1) - (place + 1) = offset by omega]

/-- Replacing a part that lies inside by as many cells overwrites it. -/
theorem replace_of_inside {cells block : Array α} {start : Int} (nonneg : 0 ≤ start)
    (inside : start + block.size ≤ cells.size) :
    replace cells start (start + block.size) block =
      overwrite cells start.toNat block.toList := by
  have first : bound cells.size start = start.toNat := bound_of_inside nonneg (by omega)
  have last : bound cells.size (start + block.size) = start.toNat + block.size := by
    rw [bound_of_inside (by omega) inside]
    omega
  rw [replace, first, last]
  simp

/-- The length after a part is replaced: that of the block and of what lies on both sides. -/
theorem size_replace (cells block : Array α) (start stop : Int) :
    (replace cells start stop block).size =
      bound cells.size start + block.size +
        (cells.size - max (bound cells.size start) (bound cells.size stop)) := by
  have first : bound cells.size start ≤ cells.size := bound_le cells.size start
  have last : bound cells.size stop ≤ cells.size := bound_le cells.size stop
  simp only [replace]
  split
  · rw [size_overwrite]
    omega
  · simp only [Array.size_append, Array.size_extract]
    omega

/-- A part that is named by its start and replaced by as many cells may have fewer of them. -/
theorem le_size_replace (cells block : Array α) (start : Int) :
    cells.size ≤ (replace cells start (start + block.size) block).size := by
  rw [size_replace]
  simp only [bound]
  split <;> split <;> omega

/-- A part that starts before the first cell and stops behind it is shorter than its bounds say. -/
theorem lt_size_replace_of_overhang {cells block : Array α} {start : Int} (before : start < 0)
    (behind : 0 < start + block.size) (inside : start + block.size ≤ cells.size) :
    cells.size < (replace cells start (start + block.size) block).size := by
  have not_neg : ¬ start + block.size < 0 := by omega
  rw [size_replace, bound, bound, if_pos before, if_neg not_neg]
  omega

theorem size_read_lt_of_overhang {cells : Array α} {start stop : Int} (before : start < 0)
    (behind : 0 < stop) : ((read cells start stop).size : Int) < stop - start := by
  have not_neg : ¬ stop < 0 := by omega
  rw [read, Array.size_extract, bound, bound, if_pos before, if_neg not_neg]
  omega

@[simp]
theorem size_slide (cells : Array α) (distance : Int) :
    (slide cells distance).size = cells.size := by
  simp only [slide]
  split
  · rfl
  · split
    · simp only [Array.size_append, Array.size_extract]
      omega
    · simp only [Array.size_append, Array.size_extract]
      omega

end Chip8.Slice
