import Chip8.Proofs.Scrolling
import Chip8.Proofs.Stamp

/-!
# Flipping one pixel

Coordinates name a pixel modulo the logical size of the screen, unless the screen does not wrap and
they lie past an edge.  Flipping changes the cells of this pixel, all of which lie on the screen,
and no others.  It tells whether one of them was lit, and flipping once more undoes it.
-/

namespace Chip8.Screen

variable {screen : Screen} {width height count number : Nat} {x y : Int}

/-- The coordinates lie past the right or bottom edge of a screen that does not wrap. -/
def Clips (screen : Screen) (x y : Int) : Prop :=
  screen.wraps = false ∧ (screen.logicalWidth ≤ x ∨ screen.logicalHeight ≤ y)

/-- The cell in a column and row of cells belongs to the pixel that coordinates name. -/
def Belongs (screen : Screen) (x y : Int) (px py : Nat) : Prop :=
  (px / screen.scale : Nat) = x % screen.logicalWidth ∧
    (py / screen.scale : Nat) = y % screen.logicalHeight
deriving Decidable

/-- The screens differ in nothing but one plane, where all cells of a pixel are flipped. -/
structure FlippedOnce (width height number : Nat) (x y : Int) (before after : Screen) : Prop where
  /-- Besides planes, everything is kept. -/
  frame : after = { before with planes := after.planes }
  /-- No plane is added or lost. -/
  count : after.planes.size = before.planes.size
  /-- Other planes are kept. -/
  others : ∀ other ≠ number, after.plane other = before.plane other
  /-- The plane keeps its size. -/
  sized : (after.plane number).Sized (width * height)
  /-- Cells of the pixel are flipped. -/
  flipped : ∀ px < width, ∀ py < height, before.Belongs x y px py →
    (after.plane number).lit (py * width + px) = !(before.plane number).lit (py * width + px)
  /-- Other cells are kept. -/
  kept : ∀ px < width, ∀ py < height, ¬ before.Belongs x y px py →
    (after.plane number).lit (py * width + px) = (before.plane number).lit (py * width + px)

/-! ## Which pixel is named -/

theorem locate_of_clips (clips : screen.Clips x y) : screen.locate x y = .ok none := by
  obtain ⟨wraps, past⟩ := clips
  rw [locate, wraps]
  exact if_pos past

theorem locate_of_not_clips (wide : 1 ≤ screen.logicalWidth) (high : 1 ≤ screen.logicalHeight)
    (named : screen.wraps = true ∨ 0 ≤ x ∧ 0 ≤ y) (inside : ¬ screen.Clips x y) :
    screen.locate x y = .ok (some (x % screen.logicalWidth, y % screen.logicalHeight)) := by
  rw [locate]
  split
  case isTrue wraps =>
    rw [if_neg (by omega), Int.fmod_eq_emod_of_nonneg x (by omega),
      Int.fmod_eq_emod_of_nonneg y (by omega)]
  case isFalse wraps =>
    obtain ⟨x_nonneg, y_nonneg⟩ := named.resolve_left wraps
    have before_edges : ¬ (screen.logicalWidth ≤ x ∨ screen.logicalHeight ≤ y) :=
      fun past => inside ⟨Bool.eq_false_iff.mpr wraps, past⟩
    rw [if_neg before_edges, Int.emod_eq_of_lt x_nonneg (by omega),
      Int.emod_eq_of_lt y_nonneg (by omega)]

/-- A pixel that is named lies on the screen with all its cells. -/
theorem Shaped.exists_located (shaped : screen.Shaped width height count)
    (wide : 1 ≤ screen.logicalWidth) (high : 1 ≤ screen.logicalHeight)
    (named : screen.wraps = true ∨ 0 ≤ x ∧ 0 ≤ y) (inside : ¬ screen.Clips x y) :
    ∃ column row : Nat, screen.locate x y = .ok (some (column, row)) ∧
      x % screen.logicalWidth = column ∧ y % screen.logicalHeight = row ∧
      (column + 1) * screen.scale ≤ width ∧ (row + 1) * screen.scale ≤ height := by
  have logical_width : screen.logicalWidth = (width / screen.scale : Nat) := by
    rw [logicalWidth, shaped.width_eq, Int.natCast_ediv]
  have logical_height : screen.logicalHeight = (height / screen.scale : Nat) := by
    rw [logicalHeight, shaped.height_eq, Int.natCast_ediv]
  have fits {side pixel : Nat} (before_end : pixel < side / screen.scale) :
      (pixel + 1) * screen.scale ≤ side :=
    (Nat.le_div_iff_mul_le screen.scale_pos).mp before_end
  obtain ⟨column, column_eq⟩ := Int.eq_ofNat_of_zero_le
    (Int.emod_nonneg x (by omega : screen.logicalWidth ≠ 0))
  obtain ⟨row, row_eq⟩ := Int.eq_ofNat_of_zero_le
    (Int.emod_nonneg y (by omega : screen.logicalHeight ≠ 0))
  have column_lt := Int.emod_lt_of_pos x (by omega : 0 < screen.logicalWidth)
  have row_lt := Int.emod_lt_of_pos y (by omega : 0 < screen.logicalHeight)
  have located := locate_of_not_clips wide high named inside
  rw [column_eq, row_eq] at located
  exact ⟨column, row, located, column_eq, row_eq, fits (by omega), fits (by omega)⟩

/-! ## What flipping does -/

section Located

variable {column row : Nat} (column_eq : x % screen.logicalWidth = column)
  (row_eq : y % screen.logicalHeight = row)

include column_eq row_eq

theorem belongs_iff {px py : Nat} :
    screen.Belongs x y px py ↔ px / screen.scale = column ∧ py / screen.scale = row := by
  rw [Belongs, column_eq, row_eq, Int.ofNat_inj, Int.ofNat_inj]

/-- In rows of cells that are counted through, the cells of a pixel are those that it covers. -/
theorem covers_iff_belongs {px py : Nat} (px_lt : px < width) :
    covers width screen.scale column row (py * width + px) = true ↔ screen.Belongs x y px py := by
  obtain ⟨py_eq, px_eq⟩ := block_position py px_lt
  rw [covers, decide_eq_true_eq, py_eq, px_eq, belongs_iff column_eq row_eq]

theorem belongs_inside (fits_x : (column + 1) * screen.scale ≤ width)
    (fits_y : (row + 1) * screen.scale ≤ height) {px py : Nat}
    (belongs : screen.Belongs x y px py) : px < width ∧ py < height := by
  obtain ⟨rfl, rfl⟩ := (belongs_iff column_eq row_eq).mp belongs
  exact ⟨(Nat.lt_div_mul_add screen.scale_pos).trans_le
      ((Nat.succ_mul _ _).symm.trans_le fits_x),
    (Nat.lt_div_mul_add screen.scale_pos).trans_le ((Nat.succ_mul _ _).symm.trans_le fits_y)⟩

/-- Toggling the cells that a pixel covers flips it. -/
theorem Shaped.flippedOnce_toggle (shaped : screen.Shaped width height count)
    (existing : number < count) :
    FlippedOnce width height number x y screen
      (screen.toggle number (covers width screen.scale column row)) := by
  have inside : number < screen.planes.size := shaped.planes_size ▸ existing
  have sized := shaped.planes_sized number existing
  have cell {px py : Nat} (px_lt : px < width) (py_lt : py < height) :
      ((screen.toggle number (covers width screen.scale column row)).plane number).lit
          (py * width + px) =
        ((screen.plane number).lit (py * width + px) ^^
          covers width screen.scale column row (py * width + px)) := by
    have before_end : py * width + px < (screen.plane number).cells.size :=
      sized.cells ▸ Plane.place_lt px_lt py_lt
    rw [plane_toggle screen _ inside, if_pos rfl, Plane.lit_toggle _ before_end]
  exact
    { frame := rfl
      count := by simp [Screen.toggle]
      others := fun other apart => by rw [plane_toggle screen _ inside, if_neg apart]
      sized := by
        rw [plane_toggle screen _ inside, if_pos rfl]
        exact Plane.sized_toggle sized _
      flipped := fun px px_lt py py_lt belongs => by
        rw [cell px_lt py_lt, (covers_iff_belongs column_eq row_eq px_lt).mpr belongs,
          Bool.xor_true]
      kept := fun px px_lt py py_lt apart => by
        rw [cell px_lt py_lt, Bool.eq_false_iff.mpr
          fun covered => apart ((covers_iff_belongs column_eq row_eq px_lt).mp covered),
          Bool.xor_false] }

end Located

/-- Flipping a pixel twice leaves the screen as it was. -/
theorem Shaped.flip_flip (shaped : screen.Shaped width height count) (existing : number < count)
    {column row : Nat} (located : screen.locate x y = .ok (some (column, row)))
    (fits_x : (column + 1) * screen.scale ≤ width) (fits_y : (row + 1) * screen.scale ≤ height) :
    ∃ contact,
      (screen.toggle number (covers width screen.scale column row)).flip number x y =
        (screen, .ok contact) := by
  -- Where a pixel lies does not depend on which cells are lit.
  have located_after : (screen.toggle number (covers width screen.scale column row)).locate x y =
      .ok (some (column, row)) := located
  obtain ⟨contact, flipped, -⟩ :=
    (shaped.toggle number (covers width screen.scale column row)).flip_of_located existing
      located_after fits_x fits_y
  refine ⟨contact, flipped.trans ?_⟩
  rw [toggle_toggle]
  simp only [show (screen.toggle number (covers width screen.scale column row)).scale =
    screen.scale from rfl, Bool.xor_self, toggle_nothing]

/-- Coordinates past the right or bottom edge of a screen that does not wrap change nothing.  Any
others flip the cells of the pixel that they name modulo the logical size, in one plane and nowhere
else; all these cells lie on the screen, whether one of them was lit is told, and doing the same
again restores the screen. -/
theorem Shaped.flip_pixel (shaped : screen.Shaped width height count)
    (wide : 1 ≤ screen.logicalWidth) (high : 1 ≤ screen.logicalHeight) (existing : number < count)
    (named : screen.wraps = true ∨ 0 ≤ x ∧ 0 ≤ y) :
    (screen.Clips x y → screen.flip number x y = (screen, .ok .clipped)) ∧
    (¬ screen.Clips x y →
      (∀ px py, screen.Belongs x y px py → px < width ∧ py < height) ∧
      ∃ after contact again,
        screen.flip number x y = (after, .ok contact) ∧
        FlippedOnce width height number x y screen after ∧
        contact ≠ .clipped ∧
        (contact = .collided ↔
          ∃ px py, screen.Belongs x y px py ∧
            (screen.plane number).lit (py * width + px) = true) ∧
        after.flip number x y = (screen, .ok again)) := by
  constructor
  · intro clips
    rw [Screen.flip, locate_of_clips clips]
  · intro inside
    obtain ⟨column, row, located, column_eq, row_eq, fits_x, fits_y⟩ :=
      shaped.exists_located wide high named inside
    obtain ⟨contact, flipped, unclipped, collided⟩ :=
      shaped.flip_of_located existing located fits_x fits_y
    obtain ⟨again, restored⟩ := shaped.flip_flip existing located fits_x fits_y
    have on_screen : ∀ px py, screen.Belongs x y px py → px < width ∧ py < height :=
      fun px py => belongs_inside column_eq row_eq fits_x fits_y
    refine ⟨on_screen, _, contact, again, flipped,
      shaped.flippedOnce_toggle column_eq row_eq existing, unclipped, ?_, restored⟩
    rw [collided]
    constructor
    · rintro ⟨place, covered, lit⟩
      have column_lt : place % width < width :=
        Nat.mod_lt place ((Nat.mul_pos column.succ_pos screen.scale_pos).trans_le fits_x)
      rw [← Nat.div_add_mod' place width] at covered lit
      exact ⟨place % width, place / width,
        (covers_iff_belongs column_eq row_eq column_lt).mp covered, lit⟩
    · rintro ⟨px, py, belongs, lit⟩
      exact ⟨py * width + px, (covers_iff_belongs column_eq row_eq (on_screen px py belongs).1).mpr
        belongs, lit⟩

/-- On a screen of odd sides, large pixels leave out the last column and row of cells. -/
theorem flip_pixel_of_odd_sides :
    let screen := { blank 5 3 2 true with lowRes := true }
    screen.Shaped 5 3 2 ∧ 1 ≤ screen.logicalWidth ∧ 1 ≤ screen.logicalHeight ∧
      ∃ after contact again, screen.flip 1 (-3) 7 = (after, .ok contact) ∧
        (after.plane 1).lit (1 * 5 + 3) = true ∧ (after.plane 1).lit (1 * 5 + 4) = false ∧
        contact ≠ .collided ∧ after.flip 1 (-3) 7 = (screen, .ok again) := by
  intro screen
  have shaped : screen.Shaped 5 3 2 := { shaped_blank 5 3 2 true with }
  have unlit : (screen.plane 1).Unlit := by
    rw [show screen.plane 1 = _ from plane_blank 5 3 2 true Nat.one_lt_two]
    exact Plane.unlit_filled _
  have wide : 1 ≤ screen.logicalWidth := by decide
  have high : 1 ≤ screen.logicalHeight := by decide
  obtain ⟨-, whole⟩ := shaped.flip_pixel wide high Nat.one_lt_two (x := -3) (y := 7) (Or.inl rfl)
  obtain ⟨-, after, contact, again, flipped, once, -, collided, restored⟩ :=
    whole fun clips => nomatch clips.1
  have inside : screen.Belongs (-3) 7 3 1 := by decide
  have outside : ¬ screen.Belongs (-3) 7 4 1 := by decide
  refine ⟨shaped, wide, high, after, contact, again, flipped, ?_, ?_, ?_, restored⟩
  · rw [once.flipped 3 (by decide) 1 (by decide) inside, unlit]
    rfl
  · rw [once.kept 4 (by decide) 1 (by decide) outside, unlit]
  · intro met
    obtain ⟨px, py, -, lit⟩ := collided.mp met
    rw [unlit] at lit
    cases lit

end Chip8.Screen
