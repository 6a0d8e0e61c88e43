import Mathlib.Data.List.Nodup
import Chip8.Proofs.Screen

/-!
# Flipping pixels

Flipping cells of a plane one after the other toggles the region they form, and the cells of a
logical pixel form the block of cells whose coordinates fall into it.  So flipping a pixel of a
shaped screen is either nothing, when the pixel is clipped, or one toggle of such a block.
-/

namespace Chip8

namespace Plane

/-- Change every cell whose place lies in a region. -/
def toggle (plane : Plane) (region : Nat → Bool) : Plane :=
  { plane with cells := plane.cells.mapIdx fun place lit => lit ^^ region place }

theorem sized_toggle {plane : Plane} {size : Nat} (sized : plane.Sized size)
    (region : Nat → Bool) : (plane.toggle region).Sized size :=
  ⟨by simp [toggle, sized.cells], sized.addresses⟩

theorem lit_toggle {plane : Plane} (region : Nat → Bool) {place : Nat}
    (inside : place < plane.cells.size) :
    (plane.toggle region).lit place = (plane.lit place ^^ region place) := by
  simp [lit, toggle, inside]

/-- Toggling a region after one more cell outside it toggles both. -/
private theorem toggle_modify {plane : Plane} {region : Nat → Bool} {place : Nat}
    (fresh : region place = false) :
    toggle { plane with cells := plane.cells.modify place not } region =
      plane.toggle fun other => decide (other = place) || region other := by
  rcases plane with ⟨cells, size⟩
  simp only [toggle]
  congr 1
  apply Array.ext
  · simp
  · intro other _ _
    by_cases same : place = other
    · subst same
      simp [fresh, Array.getElem_modify]
    · simp [Array.getElem_modify, same, Ne.symm same]

private theorem lit_modify {plane : Plane} {place other : Nat} (apart : other ≠ place) :
    lit { plane with cells := plane.cells.modify place not } other = plane.lit other := by
  simp [lit_eq, Array.getElem?_modify, Ne.symm apart]

/-- Flipping distinct cells toggles the region that they form, and meets a lit cell if one of them
was lit before. -/
theorem flipCells_eq_toggle {positions : List Int} {plane : Plane} (hit : Bool)
    (inside : ∀ position ∈ positions, 0 ≤ position ∧ position < plane.cells.size)
    (distinct : positions.Nodup) :
    plane.flipCells positions hit =
      (plane.toggle fun place => decide ((place : Int) ∈ positions),
        .ok (hit || positions.any fun position => plane.lit position.toNat)) := by
  induction positions generalizing plane hit with
  | nil =>
      have same : plane.toggle (fun _ => false) = plane := by
        rcases plane with ⟨cells, size⟩
        simp only [toggle, Bool.xor_false]
        congr 1
        exact Array.ext (by simp) (by simp)
      simp [flipCells, same]
  | cons position rest induction =>
      obtain ⟨nonneg, before_end⟩ := inside position List.mem_cons_self
      obtain ⟨place, rfl⟩ := Int.eq_ofNat_of_zero_le nonneg
      obtain ⟨fresh, distinct_rest⟩ := List.nodup_cons.mp distinct
      have inside_rest : ∀ position ∈ rest, 0 ≤ position ∧
          position < (plane.cells.modify place not).size := by
        intro other member
        simpa using inside other (List.mem_cons_of_mem _ member)
      -- The first flip changes none of the later cells: they are met as they were at the start.
      have others : (rest.any fun position =>
            lit { plane with cells := plane.cells.modify place not } position.toNat) =
          rest.any fun position => plane.lit position.toNat := by
        rw [Bool.eq_iff_iff, List.any_eq_true, List.any_eq_true]
        refine exists_congr fun other => and_congr_right fun member => ?_
        rw [lit_modify]
        intro same
        have nonneg_other := (inside other (List.mem_cons_of_mem _ member)).1
        exact fresh (by rwa [← same, Int.toNat_of_nonneg nonneg_other])
      rw [flipCells, Slice.index?_of_inside nonneg before_end]
      simp only [Int.toNat_natCast]
      rw [induction _ inside_rest distinct_rest, toggle_modify (by simpa using fresh), others]
      simp [lit, Bool.or_assoc]

end Plane

namespace Screen

/-- Whether the cell at a place belongs to the logical pixel at (x, y). -/
def covers (width scale x y place : Nat) : Bool :=
  place % width / scale = x ∧ place / width / scale = y

/-- Toggle a region of one plane. -/
def toggle (screen : Screen) (number : Nat) (region : Nat → Bool) : Screen :=
  { screen with
    planes := screen.planes.setIfInBounds number ((screen.plane number).toggle region) }

variable {screen : Screen} {width height count : Nat}

theorem plane_toggle (screen : Screen) {number : Nat} (region : Nat → Bool)
    (inside : number < screen.planes.size) (other : Nat) :
    (screen.toggle number region).plane other =
      if other = number then (screen.plane number).toggle region else screen.plane other := by
  simp only [plane_eq, toggle, Array.getElem?_setIfInBounds]
  by_cases same : number = other
  · subst same
    simp [inside]
  · simp [same, Ne.symm same]

/-- Toggling a selected plane repaints the screen. -/
theorem repainted_toggle {number : Nat} (region : Nat → Bool)
    (selected : number ∈ screen.selected) : Repainted screen (screen.toggle number region) := by
  obtain ⟨existing, chosen⟩ := List.mem_filter.mp selected
  have inside : number < screen.planes.size := List.mem_range.mp existing
  refine ⟨rfl, rfl, rfl, rfl, rfl, by simp [toggle], ?_, ?_⟩
  · intro other size sized
    rw [plane_toggle screen region inside]
    split
    case isTrue same =>
      subst same
      exact Plane.sized_toggle sized region
    case isFalse => exact sized
  · intro other unselected
    have apart : other ≠ number := by
      rintro rfl
      rw [chosen] at unselected
      cases unselected
    rw [plane_toggle screen region inside, if_neg apart]

theorem scale_pos (screen : Screen) : 0 < screen.scale := by
  rw [scale]
  split <;> decide

private theorem mem_cells {x y position : Int} :
    position ∈ screen.cells x y ↔ ∃ row < screen.scale, ∃ column < screen.scale,
      (y * screen.scale + row) * screen.width + (x * screen.scale + column) = position := by
  simp [cells]

/-- A place in a row of blocks: which block and where in it. -/
theorem block_position (block : Nat) {scale offset : Nat} (inside : offset < scale) :
    (block * scale + offset) / scale = block ∧ (block * scale + offset) % scale = offset := by
  rw [Nat.mul_comm]
  exact ⟨by rw [Nat.mul_add_div (by omega), Nat.div_eq_of_lt inside, Nat.add_zero],
    by rw [Nat.mul_add_mod, Nat.mod_eq_of_lt inside]⟩

/-- The cells of a pixel that fits into its row are those that it covers. -/
theorem mem_cells_iff_covers (wide : screen.width = width) {x y place : Nat}
    (fits : (x + 1) * screen.scale ≤ width) :
    (place : Int) ∈ screen.cells x y ↔ covers width screen.scale x y place := by
  have positive := screen.scale_pos
  have expand : (x + 1) * screen.scale = x * screen.scale + screen.scale := by ring
  simp only [mem_cells, covers, wide, decide_eq_true_eq]
  constructor
  · rintro ⟨row, row_lt, column, column_lt, spelled⟩
    obtain rfl : (y * screen.scale + row) * width + (x * screen.scale + column) = place := by
      exact_mod_cast spelled
    have column_position := block_position x column_lt
    have row_position := block_position y row_lt
    have place_position := block_position (y * screen.scale + row)
      (by omega : x * screen.scale + column < width)
    rw [place_position.1, place_position.2]
    exact ⟨column_position.1, row_position.1⟩
  · rintro ⟨rfl, rfl⟩
    refine ⟨place / width % screen.scale, Nat.mod_lt _ positive,
      place % width % screen.scale, Nat.mod_lt _ positive, ?_⟩
    have row_eq := Nat.div_add_mod' (place / width) screen.scale
    have column_eq := Nat.div_add_mod' (place % width) screen.scale
    have place_eq := Nat.div_add_mod' place width
    norm_cast
    rw [row_eq, column_eq, place_eq]

private theorem cells_inside (wide : screen.width = width) {x y : Nat} {position : Int}
    (fits_x : (x + 1) * screen.scale ≤ width) (fits_y : (y + 1) * screen.scale ≤ height)
    (member : position ∈ screen.cells x y) : 0 ≤ position ∧ position < (width * height : Nat) := by
  have expand_x : (x + 1) * screen.scale = x * screen.scale + screen.scale := by ring
  have expand_y : (y + 1) * screen.scale = y * screen.scale + screen.scale := by ring
  rw [mem_cells, wide] at member
  obtain ⟨row, row_lt, column, column_lt, spelled⟩ := member
  obtain rfl : (((y * screen.scale + row) * width + (x * screen.scale + column) : Nat) : Int) =
      position := by exact_mod_cast spelled
  have rows : (y * screen.scale + row + 1) * width ≤ height * width :=
    Nat.mul_le_mul_right width (by omega)
  have next_row : (y * screen.scale + row + 1) * width =
      (y * screen.scale + row) * width + width := by ring
  have area : height * width = width * height := Nat.mul_comm _ _
  omega

private theorem cells_nodup (wide : screen.width = width) {x y : Nat}
    (fits : (x + 1) * screen.scale ≤ width) : (screen.cells x y).Nodup := by
  cases low : screen.lowRes with
  | false => simp [cells, scale, low]
  | true =>
      have next_row : ((y : Int) * 2 + 1) * width = y * 2 * width + width := by ring
      rw [scale, low, if_pos rfl] at fits
      simp [cells, scale, low, wide, List.range_succ]
      omega

/-- Flipping a pixel that lies on the screen toggles its cells, and the contact tells whether one
of them was lit. -/
theorem Shaped.flip_of_located (shaped : screen.Shaped width height count) {number : Nat}
    (existing : number < count) {x y : Int} {column row : Nat}
    (located : screen.locate x y = .ok (some (column, row)))
    (fits_x : (column + 1) * screen.scale ≤ width) (fits_y : (row + 1) * screen.scale ≤ height) :
    ∃ contact,
      screen.flip number x y =
        (screen.toggle number (covers width screen.scale column row), .ok contact) ∧
      contact ≠ .clipped ∧
      (contact = .collided ↔
        ∃ place, covers width screen.scale column row place ∧ (screen.plane number).lit place) := by
  have sized := shaped.planes_sized number existing
  have inside : ∀ position ∈ screen.cells column row,
      0 ≤ position ∧ position < (screen.plane number).cells.size := by
    intro position member
    rw [sized.cells]
    exact cells_inside shaped.width_eq fits_x fits_y member
  have region : (fun place : Nat => decide ((place : Int) ∈ screen.cells column row)) =
      covers width screen.scale column row := by
    funext place
    rw [Bool.eq_iff_iff, decide_eq_true_eq, mem_cells_iff_covers shaped.width_eq fits_x]
  have flipped := Plane.flipCells_eq_toggle false inside (cells_nodup shaped.width_eq fits_x)
  rw [region, Bool.false_or] at flipped
  generalize hit : (screen.cells column row).any
    (fun position => (screen.plane number).lit position.toNat) = met at flipped
  refine ⟨if met then .collided else .free, ?_, ?_, ?_⟩
  · simp [flip, located, flipCells, flipped, toggle, Except.map]
  · split <;> simp
  · have lit_iff : met = true ↔ ∃ place, covers width screen.scale column row place ∧
        (screen.plane number).lit place := by
      rw [← hit, List.any_eq_true]
      constructor
      · rintro ⟨position, member, lit⟩
        obtain ⟨place, rfl⟩ := Int.eq_ofNat_of_zero_le (inside position member).1
        exact ⟨place, (mem_cells_iff_covers shaped.width_eq fits_x).mp member, lit⟩
      · rintro ⟨place, covered, lit⟩
        exact ⟨place, (mem_cells_iff_covers shaped.width_eq fits_x).mpr covered, lit⟩
    rw [← lit_iff]
    split <;> simp_all

/-- Coordinates name a pixel that lies on the screen, or one that is clipped.  Only a screen that
wraps has any to the left of it or above. -/
theorem Shaped.locate_cases (shaped : screen.Shaped width height count)
    (wide : screen.scale ≤ width) (high : screen.scale ≤ height) {x y : Int}
    (named : screen.wraps = true ∨ 0 ≤ x ∧ 0 ≤ y) :
    screen.locate x y = .ok none ∨
      ∃ column row : Nat, screen.locate x y = .ok (some (column, row)) ∧
        (column + 1) * screen.scale ≤ width ∧ (row + 1) * screen.scale ≤ height := by
  have positive := screen.scale_pos
  have logical_width : screen.logicalWidth = (width / screen.scale : Nat) := by
    rw [logicalWidth, shaped.width_eq, Int.natCast_ediv]
  have logical_height : screen.logicalHeight = (height / screen.scale : Nat) := by
    rw [logicalHeight, shaped.height_eq, Int.natCast_ediv]
  have width_pos : 0 < width / screen.scale := Nat.div_pos wide positive
  have height_pos : 0 < height / screen.scale := Nat.div_pos high positive
  have fits {side pixel : Nat} (inside : pixel < side / screen.scale) :
      (pixel + 1) * screen.scale ≤ side := (Nat.le_div_iff_mul_le positive).mp inside
  have wrapped {side : Nat} (side_pos : 0 < side) (position : Int) :
      ∃ pixel : Nat, position.fmod side = pixel ∧ pixel < side := by
    have side_pos : (0 : Int) < side := by omega
    have before := Int.fmod_lt_of_pos position side_pos
    obtain ⟨pixel, spelled⟩ := Int.eq_ofNat_of_zero_le (Int.fmod_nonneg_of_pos position side_pos)
    exact ⟨pixel, spelled, by omega⟩
  have not_empty : ¬ (((width / screen.scale : Nat) : Int) = 0 ∨
      ((height / screen.scale : Nat) : Int) = 0) := by omega
  simp only [locate, logical_width, logical_height]
  by_cases wraps : screen.wraps
  · right
    obtain ⟨column, column_eq, column_lt⟩ := wrapped width_pos x
    obtain ⟨row, row_eq, row_lt⟩ := wrapped height_pos y
    refine ⟨column, row, ?_, fits column_lt, fits row_lt⟩
    rw [if_pos wraps, if_neg not_empty, column_eq, row_eq]
  · obtain ⟨x_nonneg, y_nonneg⟩ := named.resolve_left wraps
    obtain ⟨column, rfl⟩ := Int.eq_ofNat_of_zero_le x_nonneg
    obtain ⟨row, rfl⟩ := Int.eq_ofNat_of_zero_le y_nonneg
    rw [if_neg wraps]
    split
    case isTrue => exact Or.inl rfl
    case isFalse on_screen =>
      exact Or.inr ⟨column, row, rfl, fits (by omega), fits (by omega)⟩

/-- Flipping a pixel of a selected plane never fails and only repaints the screen. -/
theorem Shaped.flip (shaped : screen.Shaped width height count)
    (wide : screen.scale ≤ width) (high : screen.scale ≤ height) {number : Nat}
    (selected : number ∈ screen.selected) {x y : Int} (x_nonneg : 0 ≤ x) (y_nonneg : 0 ≤ y) :
    ∃ after contact, screen.flip number x y = (after, .ok contact) ∧ Repainted screen after := by
  have existing := shaped.lt_of_selected selected
  rcases shaped.locate_cases wide high (Or.inr ⟨x_nonneg, y_nonneg⟩) with
    clipped | ⟨column, row, located, fits_x, fits_y⟩
  · refine ⟨screen, .clipped, ?_, .refl screen⟩
    rw [Screen.flip, clipped]
  · obtain ⟨contact, flipped, -, -⟩ := shaped.flip_of_located existing located fits_x fits_y
    exact ⟨_, contact, flipped, repainted_toggle _ selected⟩

end Screen

end Chip8
