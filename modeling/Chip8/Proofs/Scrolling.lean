import Mathlib.Algebra.Order.Ring.Int
import Mathlib.Data.Nat.Cast.Order.Ring
import Chip8.Proofs.Screen

/-!
# Scrolling

Scrolling a plane moves its whole content along and then blanks the strips that nothing moved into.
Cell by cell, each shows what lay a number of rows or columns away, and a cell for which that place
is beyond the edge is unlit.
-/

namespace Chip8

namespace Slice

variable {α : Type}

theorem getElem?_slide_back (cells : Array α) (count index : Nat) :
    (slide cells (-(count : Int)))[index]? =
      if index + count < cells.size then cells[index + count]? else cells[index]? := by
  have distance : (-(count : Int)).natAbs = count := by omega
  rw [slide, distance]
  by_cases all : cells.size ≤ count
  · rw [if_pos all, if_neg (by omega)]
  · rw [if_neg all]
    by_cases still : count = 0
    · subst still
      simp
    · have moves : -(count : Int) < 0 := by omega
      rw [if_pos moves, Array.getElem?_append, Array.size_extract, Nat.min_self]
      by_cases kept : index + count < cells.size
      · rw [if_pos (by omega), if_pos kept, Array.getElem?_extract, Nat.min_self,
          if_pos (by omega), Nat.add_comm]
      · rw [if_neg (by omega), if_neg kept, Array.getElem?_extract, Nat.min_self]
        by_cases inside : index < cells.size
        · rw [if_pos (by omega)]
          congr 1
          omega
        · rw [if_neg (by omega), Array.getElem?_eq_none (by omega)]

theorem getElem?_slide_forth (cells : Array α) (count : Nat) {index : Nat}
    (inside : index < cells.size) :
    (slide cells count)[index]? =
      if count ≤ index then cells[index - count]? else cells[index]? := by
  have not_back : ¬ (count : Int) < 0 := by omega
  rw [slide, Int.natAbs_natCast]
  by_cases all : cells.size ≤ count
  · rw [if_pos all, if_neg (by omega)]
  · rw [if_neg all, if_neg not_back, Array.getElem?_append, Array.size_extract]
    by_cases moved : count ≤ index
    · rw [if_neg (by omega), if_pos moved, Array.getElem?_extract, if_pos (by omega)]
      congr 1
      omega
    · rw [if_pos (by omega), if_neg moved, Array.getElem?_extract, if_pos (by omega),
        Nat.zero_add]

end Slice

namespace Plane

variable {plane : Plane} {width height size count : Nat} {direction : Direction}

/-! ## Moving and blanking -/

theorem cells_move (sized : plane.Sized size) (distance : Int) :
    (plane.move distance).cells = Slice.slide plane.cells distance := by
  rw [Store.move]
  split
  case isTrue far =>
    rw [Slice.slide, if_pos (by rw [sized.cells, ← sized.addresses]; exact far)]
  case isFalse => rfl

theorem lit_move_back (sized : plane.Sized size) {place : Nat} (inside : place + count < size) :
    lit (plane.move (-(count : Int))) place = plane.lit (place + count) := by
  rw [lit_eq, lit_eq, cells_move sized, Slice.getElem?_slide_back, sized.cells, if_pos inside]

theorem lit_move_forth (sized : plane.Sized size) {place : Nat} (inside : place < size)
    (behind : count ≤ place) : lit (plane.move count) place = plane.lit (place - count) := by
  have cells := sized.cells
  rw [lit_eq, lit_eq, cells_move sized, Slice.getElem?_slide_forth _ _ (by omega), if_pos behind]

/-- Whether a place lies in a strip. -/
def within (place : Nat) (strip : Int × Int) : Bool :=
  strip.1 ≤ place ∧ (place : Int) < strip.1 + strip.2

theorem lit_blanked (sized : plane.Sized size) {start length : Int} (nonneg : 0 ≤ start)
    (ends : start + length ≤ size) (place : Nat) :
    lit (plane.patch start.toNat (Array.replicate length.toNat false)) place =
      (!within place (start, length) && plane.lit place) := by
  have cells := sized.cells
  by_cases covered : start ≤ place ∧ (place : Int) < start + length
  · have hit : within place (start, length) = true := decide_eq_true covered
    rw [hit, lit_eq, Store.getElem?_patch_inside (by omega) (by simp; omega) (by omega)]
    rw [Array.getElem?_replicate, if_pos (by omega)]
    rfl
  · have missed : within place (start, length) = false := decide_eq_false covered
    rw [missed, Bool.not_false, Bool.true_and, lit_eq,
      Store.getElem?_patch_outside _ _ (by simp; omega), lit_eq]

/-- Blanking strips one after the other blanks the cells that lie in one of them. -/
theorem lit_all_blanked {strips : List (Int × Int)}
    (inside : ∀ strip ∈ strips, 0 ≤ strip.1 ∧ strip.1 + strip.2 ≤ size)
    (sized : plane.Sized size) (place : Nat) :
    lit (strips.foldl (fun plane (start, length) =>
        plane.patch start.toNat (Array.replicate length.toNat false)) plane) place =
      (!strips.any (within place) && plane.lit place) := by
  induction strips generalizing plane with
  | nil => rfl
  | cons strip rest induction =>
      obtain ⟨nonneg, ends⟩ := inside strip List.mem_cons_self
      have others : ∀ other ∈ rest, 0 ≤ other.1 ∧ other.1 + other.2 ≤ size :=
        fun other member => inside other (List.mem_cons_of_mem strip member)
      rw [List.foldl_cons, induction others (sized.patch _ _), lit_blanked sized nonneg ends,
        List.any_cons, Bool.not_or, Bool.and_assoc, Bool.and_left_comm]

/-! ## Cell by cell -/

/-- The column and row whose cell scrolling brings to column `x` and row `y`, if there is one. -/
def source? (width height : Nat) (direction : Direction) (count x y : Nat) : Option (Nat × Nat) :=
  match direction with
  | .up => if y + count < height then some (x, y + count) else none
  | .down => if count ≤ y then some (x, y - count) else none
  | .left => if x + count < width then some (x + count, y) else none
  | .right => if count ≤ x then some (x - count, y) else none

theorem rows_le_iff (rows y : Nat) {x : Nat} (x_lt : x < width) :
    rows * width ≤ y * width + x ↔ rows ≤ y := by
  constructor
  · intro after
    by_contra before
    have next : (y + 1) * width ≤ rows * width := Nat.mul_le_mul_right width (by omega)
    have expand : (y + 1) * width = y * width + width := by ring
    omega
  · intro after
    have whole : rows * width ≤ y * width := Nat.mul_le_mul_right width after
    omega

theorem place_lt {x y : Nat} (x_lt : x < width) (y_lt : y < height) :
    y * width + x < width * height := by
  have rows := (rows_le_iff height y x_lt).not.mpr (Nat.not_le.mpr y_lt)
  have area : height * width = width * height := Nat.mul_comm _ _
  omega

/-- Strips of equal length in all rows hold the cells of some columns. -/
theorem any_within_rows {offset length : Nat} (fits : offset + length ≤ width) {x y : Nat}
    (x_lt : x < width) (y_lt : y < height) :
    ((List.range height).map fun row : Nat =>
        ((width * row + offset : Int), (length : Int))).any (within (y * width + x)) =
      decide (offset ≤ x ∧ x < offset + length) := by
  rw [Bool.eq_iff_iff, List.any_eq_true, decide_eq_true_eq]
  have cast (row : Nat) : (width : Int) * row = (row * width : Nat) := by
    rw [Nat.cast_mul, Int.mul_comm]
  constructor
  · rintro ⟨strip, member, hit⟩
    obtain ⟨row, -, rfl⟩ := List.mem_map.mp member
    obtain ⟨after, before⟩ := of_decide_eq_true hit
    simp only [cast] at after before
    have next : (row + 1) * width = row * width + width := by ring
    have row_le : row ≤ y := (rows_le_iff row y x_lt).mp (by omega)
    have le_row : ¬ row + 1 ≤ y := (rows_le_iff (row + 1) y x_lt).not.mp (by omega)
    obtain rfl : row = y := by omega
    omega
  · rintro ⟨after, before⟩
    refine ⟨_, List.mem_map.mpr ⟨y, List.mem_range.mpr y_lt, rfl⟩, ?_⟩
    refine decide_eq_true ?_
    simp only [cast]
    omega

/-- The strips hold exactly the cells that nothing is brought to. -/
theorem within_strips {x y : Nat} (x_lt : x < width) (y_lt : y < height) :
    (strips width height (width * height : Nat) direction count).any (within (y * width + x)) =
      (source? width height direction count x y).isNone := by
  have inside := place_lt x_lt y_lt
  have length_cast : min (count : Int) height * width = (min count height * width : Nat) := by
    rw [Nat.cast_mul, Nat.cast_min]
  cases direction with
  | up =>
      have below := rows_le_iff (height - min count height) y x_lt
      have short : min count height * width ≤ height * width :=
        Nat.mul_le_mul_right width (Nat.min_le_right _ _)
      have area : height * width = width * height := Nat.mul_comm _ _
      rw [Nat.sub_mul] at below
      simp only [strips, List.any_cons, List.any_nil, Bool.or_false, within, source?, length_cast]
      split
      case isTrue => exact decide_eq_false (by omega)
      case isFalse => exact decide_eq_true (by omega)
  | down =>
      have above := rows_le_iff (min count height) y x_lt
      simp only [strips, List.any_cons, List.any_nil, Bool.or_false, within, source?, length_cast]
      split
      case isTrue => exact decide_eq_false (by omega)
      case isFalse => exact decide_eq_true (by omega)
  | left =>
      -- The strip at the end of a row is one that starts a number of columns into it.
      have fits : width - min count width + min count width ≤ width := by omega
      have start (row : Nat) : (width : Int) * (row + 1) - (min count width : Nat) =
          width * row + (width - min count width : Nat) := by
        rw [Int.mul_add, Int.mul_one]
        omega
      simp only [strips, Int.toNat_natCast, ← Nat.cast_min, start, source?]
      rw [any_within_rows fits x_lt y_lt]
      split
      case isTrue => exact decide_eq_false (by omega)
      case isFalse => exact decide_eq_true (by omega)
  | right =>
      have fits : 0 + min count width ≤ width := by omega
      have rows := any_within_rows fits x_lt y_lt
      simp only [Nat.cast_zero, Int.add_zero] at rows
      simp only [strips, Int.toNat_natCast, ← Nat.cast_min, source?]
      rw [rows]
      split
      case isTrue => exact decide_eq_false (by omega)
      case isFalse => exact decide_eq_true (by omega)

theorem lit_shifted (sized : plane.Sized (width * height)) {x y x' y' : Nat} (x_lt : x < width)
    (y_lt : y < height) (found : source? width height direction count x y = some (x', y')) :
    lit (plane.move (shift width height direction count)) (y * width + x) =
      plane.lit (y' * width + x') := by
  have inside := place_lt x_lt y_lt
  cases direction with
  | up =>
      obtain ⟨below, rfl, rfl⟩ : y + count < height ∧ x = x' ∧ y + count = y' := by
        simpa [source?] using found
      have distance : shift width height .up count = -((count * width : Nat) : Int) := by
        rw [shift, Int.min_eq_left (by omega), Nat.cast_mul]
      have target : y * width + x + count * width = (y + count) * width + x := by ring
      rw [distance, lit_move_back sized (by rw [target]; exact place_lt x_lt below), target]
  | down =>
      obtain ⟨above, rfl, rfl⟩ : count ≤ y ∧ x = x' ∧ y - count = y' := by
        simpa [source?] using found
      have distance : shift width height .down count = (count * width : Nat) := by
        rw [shift, Int.min_eq_left (by omega), Nat.cast_mul]
      have behind : count * width ≤ y * width + x := (rows_le_iff count y x_lt).mpr above
      have whole : count * width ≤ y * width := Nat.mul_le_mul_right width above
      rw [distance, lit_move_forth sized inside behind, Nat.sub_mul, Nat.sub_add_comm whole]
  | left =>
      obtain ⟨right, rfl, rfl⟩ : x + count < width ∧ x + count = x' ∧ y = y' := by
        simpa [source?] using found
      have distance : shift width height .left count = -(count : Int) := by
        rw [shift, Int.min_eq_left (by omega)]
      have target : y * width + x + count = y * width + (x + count) := Nat.add_assoc _ _ _
      rw [distance, lit_move_back sized (by rw [target]; exact place_lt right y_lt), target]
  | right =>
      obtain ⟨left, rfl, rfl⟩ : count ≤ x ∧ x - count = x' ∧ y = y' := by
        simpa [source?] using found
      have distance : shift width height .right count = count := by
        rw [shift, Int.min_eq_left (by omega)]
      rw [distance, lit_move_forth sized inside (by omega), Nat.add_sub_assoc left]

/-- What a plane shows after scrolling. -/
theorem lit_scrolled (sized : plane.Sized (width * height)) {x y : Nat} (x_lt : x < width)
    (y_lt : y < height) :
    (plane.scrolled width height direction count).lit (y * width + x) =
      match source? width height direction count x y with
      | none => false
      | some (x', y') => plane.lit (y' * width + x') := by
  rw [scrolled, lit_all_blanked (fun _ => strips_inside) (sized.move _),
    within_strips x_lt y_lt]
  rcases found : source? width height direction count x y with _ | ⟨x', y'⟩
  · rfl
  · rw [lit_shifted sized x_lt y_lt found]
    rfl

end Plane

/-! ## Refusals -/

namespace Plane

variable {plane : Plane} {width height count : Int} {direction : Direction} {fault : Fault}

/-- The last cell of a strip has no address among as many as given. -/
def Overshoots (size : Nat) (strip : Int × Int) : Prop :=
  0 < strip.2 ∧ ¬ (0 ≤ strip.1 + strip.2 - 1 ∧ strip.1 + strip.2 - 1 < size)

theorem blanking_refused_iff (strips : List (Int × Int)) (plane : Plane) :
    (∃ fault, strips.foldlM (fun plane (start, length) => plane.fill start length false) plane =
      .error fault) ↔ ∃ strip ∈ strips, Overshoots plane.size strip := by
  induction strips generalizing plane with
  | nil => simp [pure, Except.pure]
  | cons strip rest induction =>
      rw [List.foldlM_cons]
      simp only [List.mem_cons, exists_eq_or_imp]
      rcases plane.fill_cases strip.1 strip.2 false with
        ⟨accepted, filled, done, size⟩ | ⟨outside, failed⟩
      · rw [show plane.fill strip.1 strip.2 false = _ from done]
        refine (induction filled).trans ?_
        rw [size, or_iff_right]
        rintro ⟨positive, outside⟩
        exact accepted.elim (not_le.mpr positive) outside
      · rw [show plane.fill strip.1 strip.2 false = _ from failed]
        exact iff_of_true ⟨_, rfl⟩ (.inl outside)

/-- Whether a plane can be scrolled is up to its size. -/
theorem scroll_refused_iff :
    (∃ fault, plane.scroll width height direction count = .error fault) ↔
      ∃ strip ∈ strips width height plane.size direction count, Overshoots plane.size strip := by
  rw [scroll, blanking_refused_iff]
  rw [show (plane.move (shift width height direction count)).size = plane.size by
    rw [Store.move]; split <;> rfl]

/-- A row begins and ends inside a plane of the full size. -/
theorem row_inside {size row : Nat} (full : (size : Int) = width * height)
    (inside : row < height.toNat) : 0 ≤ width * row ∧ width * row + width ≤ size := by
  have width_nonneg : 0 ≤ width := nonneg_of_mul_nonneg_left (full ▸ Int.natCast_nonneg size)
    (by omega)
  have ends : width * (row + 1) ≤ width * height :=
    Int.mul_le_mul_of_nonneg_left (by omega) width_nonneg
  exact ⟨Int.mul_nonneg width_nonneg (Int.natCast_nonneg row), by rwa [full, ← mul_add_one]⟩

/-- Scrolling a plane of the full size is refused only for a distance that moves nothing: a strip to
be blanked is then longer than the plane. -/
theorem move_of_refused (full : (plane.size : Int) = width * height)
    (refused : plane.scroll width height direction count = .error fault) :
    plane.move (shift width height direction count) = plane := by
  obtain ⟨⟨start, length⟩, member, positive, outside⟩ := scroll_refused_iff.mp ⟨fault, refused⟩
  -- Whole rows are blanked at the edge, so only their number can be too large for the plane.
  suffices far : plane.size ≤ (shift width height direction count).natAbs by
    rw [Store.move, if_pos far]
  cases direction with
  | up =>
      obtain ⟨rfl, rfl⟩ : start = plane.size - min count height * width ∧
        length = min count height * width := by simpa [strips] using member
      omega
  | down =>
      obtain ⟨rfl, rfl⟩ : start = 0 ∧ length = min count height * width := by
        simpa [strips] using member
      rw [shift]
      omega
  | left =>
      simp only [strips, List.mem_map, List.mem_range, Prod.mk.injEq] at member
      obtain ⟨row, inside, rfl, rfl⟩ := member
      obtain ⟨begins, ends⟩ := row_inside full inside
      rw [mul_add_one] at outside
      omega
  | right =>
      simp only [strips, List.mem_map, List.mem_range, Prod.mk.injEq] at member
      obtain ⟨row, inside, rfl, rfl⟩ := member
      obtain ⟨begins, ends⟩ := row_inside full inside
      omega

end Plane

end Chip8
