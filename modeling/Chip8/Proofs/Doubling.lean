import Chip8.Proofs.Scrolling
import Chip8.Proofs.Sprite

/-!
# Doubled screens

A screen in low resolution can show what a screen of half the size shows in high resolution, each
cell of the small one as a block of 2x2 cells.  Whatever is done to pixels of both then meets the
same and keeps it so: flipping, clearing, selecting planes, and scrolling, where the large screen
goes twice the distance.
-/

namespace Chip8

namespace Plane

open Screen (covers block_position)

/-- The large plane shows every cell of the small one as a block of 2x2 cells. -/
structure Doubled (width height : Nat) (small large : Plane) : Prop where
  /-- Size of the small plane. -/
  small_sized : small.Sized (width * height)
  /-- Size of the large plane. -/
  large_sized : large.Sized (2 * width * (2 * height))
  /-- Every cell of the large plane shows its cell of the small one. -/
  shows : ∀ x < 2 * width, ∀ y < 2 * height,
    large.lit (y * (2 * width) + x) = small.lit (y / 2 * width + x / 2)

theorem covers_place {width scale column row x : Nat} (y : Nat) (x_lt : x < width) :
    covers width scale column row (y * width + x) =
      decide (x / scale = column ∧ y / scale = row) := by
  obtain ⟨row_eq, column_eq⟩ := block_position y x_lt
  rw [covers, row_eq, column_eq]

/-- A cell lies in the block of a pixel exactly if its own pixel is that one. -/
theorem covers_halved {width column row x : Nat} (y : Nat) (x_lt : x < 2 * width) :
    covers (2 * width) 2 column row (y * (2 * width) + x) =
      covers width 1 column row (y / 2 * width + x / 2) := by
  have half_lt : x / 2 < width := by omega
  rw [covers_place y x_lt, covers_place (y / 2) half_lt, Nat.div_one, Nat.div_one]

theorem source?_halved {width height x y : Nat} (direction : Direction) (count : Nat) :
    (source? (2 * width) (2 * height) direction (2 * count) x y).map
        (fun place => (place.1 / 2, place.2 / 2)) =
      source? width height direction count (x / 2) (y / 2) := by
  cases direction with
  | up =>
      have same : y + 2 * count < 2 * height ↔ y / 2 + count < height := by omega
      have moved : (y + 2 * count) / 2 = y / 2 + count := by omega
      simp only [source?, same, apply_ite (Option.map _), Option.map_some, Option.map_none, moved]
  | down =>
      have same : 2 * count ≤ y ↔ count ≤ y / 2 := by omega
      have moved : (y - 2 * count) / 2 = y / 2 - count := by omega
      simp only [source?, same, apply_ite (Option.map _), Option.map_some, Option.map_none, moved]
  | left =>
      have same : x + 2 * count < 2 * width ↔ x / 2 + count < width := by omega
      have moved : (x + 2 * count) / 2 = x / 2 + count := by omega
      simp only [source?, same, apply_ite (Option.map _), Option.map_some, Option.map_none, moved]
  | right =>
      have same : 2 * count ≤ x ↔ count ≤ x / 2 := by omega
      have moved : (x - 2 * count) / 2 = x / 2 - count := by omega
      simp only [source?, same, apply_ite (Option.map _), Option.map_some, Option.map_none, moved]

theorem source?_lt {width height x y x' y' count : Nat} {direction : Direction} (x_lt : x < width)
    (y_lt : y < height) (found : source? width height direction count x y = some (x', y')) :
    x' < width ∧ y' < height := by
  cases direction <;>
    · simp only [source?, Option.ite_none_right_eq_some, Option.some.injEq, Prod.mk.injEq] at found
      omega

namespace Doubled

variable {width height : Nat} {small large : Plane}

theorem clear (doubled : Doubled width height small large) :
    Doubled width height (small.clear false) (large.clear false) where
  small_sized := doubled.small_sized.clear false
  large_sized := doubled.large_sized.clear false
  shows x _ y _ := by
    rw [unlit_clear doubled.large_sized, unlit_clear doubled.small_sized]

theorem toggle (doubled : Doubled width height small large) (column row : Nat) :
    Doubled width height (small.toggle (covers width 1 column row))
      (large.toggle (covers (2 * width) 2 column row)) where
  small_sized := sized_toggle doubled.small_sized _
  large_sized := sized_toggle doubled.large_sized _
  shows x x_lt y y_lt := by
    have small_inside : y / 2 * width + x / 2 < small.cells.size := by
      rw [doubled.small_sized.cells]
      exact place_lt (by omega) (by omega)
    have large_inside : y * (2 * width) + x < large.cells.size := by
      rw [doubled.large_sized.cells]
      exact place_lt x_lt y_lt
    rw [lit_toggle _ large_inside, lit_toggle _ small_inside, doubled.shows x x_lt y y_lt,
      covers_halved y x_lt]

theorem scrolled (doubled : Doubled width height small large) (direction : Direction)
    (count : Nat) :
    Doubled width height (small.scrolled width height direction count)
      (large.scrolled (2 * width) (2 * height) direction (2 * count)) where
  small_sized := (scroll_of_sized doubled.small_sized direction count).2
  large_sized := (scroll_of_sized doubled.large_sized direction (2 * count)).2
  shows x x_lt y y_lt := by
    have small_x : x / 2 < width := by omega
    have small_y : y / 2 < height := by omega
    rw [lit_scrolled doubled.large_sized x_lt y_lt, lit_scrolled doubled.small_sized small_x small_y,
      ← source?_halved]
    rcases found : source? (2 * width) (2 * height) direction (2 * count) x y with _ | ⟨x', y'⟩
    · rfl
    · obtain ⟨x'_lt, y'_lt⟩ := source?_lt x_lt y_lt found
      exact doubled.shows x' x'_lt y' y'_lt

/-- A block holds a lit cell exactly if its pixel is lit. -/
theorem lit_block_iff (doubled : Doubled width height small large) {column row : Nat}
    (column_lt : column < width) (row_lt : row < height) :
    (∃ place, covers (2 * width) 2 column row place ∧ large.lit place) ↔
      ∃ place, covers width 1 column row place ∧ small.lit place := by
  constructor
  · rintro ⟨place, covered, lit⟩
    obtain ⟨rfl, rfl⟩ := of_decide_eq_true covered
    have x_lt : place % (2 * width) < 2 * width := Nat.mod_lt _ (by omega)
    have shown := doubled.shows _ x_lt (place / (2 * width)) (by omega)
    rw [Nat.div_add_mod', lit] at shown
    refine ⟨_, ?_, shown.symm⟩
    rw [covers_place _ column_lt, Nat.div_one, Nat.div_one]
    exact decide_eq_true ⟨rfl, rfl⟩
  · rintro ⟨place, covered, lit⟩
    obtain ⟨x_eq, y_eq⟩ := of_decide_eq_true covered
    have x_lt : 2 * column < 2 * width := by omega
    have shown := doubled.shows _ x_lt (2 * row) (by omega)
    have place_eq : 2 * row / 2 * width + 2 * column / 2 = place := by
      rw [Nat.mul_div_cancel_left _ Nat.two_pos, Nat.mul_div_cancel_left _ Nat.two_pos, ← x_eq,
        ← y_eq, Nat.div_one, Nat.div_one, Nat.div_add_mod']
    rw [place_eq, lit] at shown
    refine ⟨_, ?_, shown⟩
    rw [covers_place _ x_lt, Nat.mul_div_cancel_left _ Nat.two_pos,
      Nat.mul_div_cancel_left _ Nat.two_pos]
    exact decide_eq_true ⟨rfl, rfl⟩

end Doubled

end Plane

namespace Screen

/-- The large screen, in low resolution, shows what the small one shows in high resolution. -/
structure Doubled (width height count : Nat) (small large : Screen) : Prop where
  /-- Sizes of the small screen. -/
  small_shaped : small.Shaped width height count
  /-- Sizes of the large screen. -/
  large_shaped : large.Shaped (2 * width) (2 * height) count
  /-- Both treat their edges alike. -/
  wraps : large.wraps = small.wraps
  /-- A pixel of the small screen is one cell. -/
  small_lowRes : small.lowRes = false
  /-- A pixel of the large screen is a block. -/
  large_lowRes : large.lowRes = true
  /-- The same planes are selected. -/
  mask : large.mask = small.mask
  /-- Every plane shows the one of the small screen. -/
  plane : ∀ number < count, Plane.Doubled width height (small.plane number) (large.plane number)

variable {small large : Screen} {width height count : Nat}

/-- A large screen on which nothing is lit shows a blank small one. -/
theorem Shaped.doubled_of_unlit (shaped : large.Shaped (2 * width) (2 * height) count)
    (low : large.lowRes = true) (unlit : ∀ number < count, (large.plane number).Unlit) :
    Doubled width height count { blank width height count large.wraps with mask := large.mask }
      large where
  small_shaped := { shaped_blank width height count large.wraps with }
  large_shaped := shaped
  wraps := rfl
  small_lowRes := rfl
  large_lowRes := low
  mask := rfl
  plane number inside := by
    have blank_plane := plane_blank width height count large.wraps inside
    show Plane.Doubled width height ((blank width height count large.wraps).plane number)
      (large.plane number)
    rw [blank_plane]
    exact
      { small_sized := Store.sized_filled _ _
        large_sized := shaped.planes_sized number inside
        shows := fun x _ y _ => by rw [unlit number inside, Plane.unlit_filled] }

namespace Doubled

theorem small_scale (doubled : Doubled width height count small large) : small.scale = 1 := by
  rw [scale, doubled.small_lowRes]
  rfl

theorem large_scale (doubled : Doubled width height count small large) : large.scale = 2 := by
  rw [scale, doubled.large_lowRes]
  rfl

theorem logical_eq (doubled : Doubled width height count small large) :
    large.logicalWidth = small.logicalWidth ∧ large.logicalHeight = small.logicalHeight := by
  rw [logicalWidth, logicalWidth, logicalHeight, logicalHeight, doubled.small_scale,
    doubled.large_scale, doubled.small_shaped.width_eq, doubled.small_shaped.height_eq,
    doubled.large_shaped.width_eq, doubled.large_shaped.height_eq]
  omega

theorem locate_eq (doubled : Doubled width height count small large) (x y : Int) :
    large.locate x y = small.locate x y := by
  rw [locate, locate, doubled.wraps, doubled.logical_eq.1, doubled.logical_eq.2]

theorem selected_eq (doubled : Doubled width height count small large) :
    large.selected = small.selected := by
  rw [selected, selected, doubled.mask, doubled.large_shaped.planes_size,
    doubled.small_shaped.planes_size]

/-- Other planes that are doubled make doubled screens. -/
theorem withPlanes (doubled : Doubled width height count small large) {planes planes' : Array Plane}
    (small_count : planes.size = count) (large_count : planes'.size = count)
    (plane : ∀ number < count, Plane.Doubled width height
      ({ small with planes }.plane number) ({ large with planes := planes' }.plane number)) :
    Doubled width height count { small with planes } { large with planes := planes' } :=
  { doubled with
    small_shaped :=
      { doubled.small_shaped with
        planes_size := small_count
        planes_sized := fun number inside => (plane number inside).small_sized }
    large_shaped :=
      { doubled.large_shaped with
        planes_size := large_count
        planes_sized := fun number inside => (plane number inside).large_sized }
    plane }

/-- A change that keeps planes doubled may be applied to those that are selected. -/
theorem mapSelected (doubled : Doubled width height count small large)
    {change change' : Plane → Plane}
    (keeps : ∀ plane plane', Plane.Doubled width height plane plane' →
      Plane.Doubled width height (change plane) (change' plane')) :
    Doubled width height count (small.mapSelected change) (large.mapSelected change') := by
  have small_count := doubled.small_shaped.planes_size
  have large_count := doubled.large_shaped.planes_size
  refine doubled.withPlanes (by simpa using small_count) (by simpa using large_count) ?_
  intro number inside
  have small_plane := small.plane_mapSelected change (by rw [small_count]; exact inside)
  have large_plane := large.plane_mapSelected change' (by rw [large_count]; exact inside)
  rw [doubled.mask] at large_plane
  have before := doubled.plane number inside
  show Plane.Doubled width height ((small.mapSelected change).plane number)
    ((large.mapSelected change').plane number)
  rw [small_plane, large_plane]
  split
  · exact keeps _ _ before
  · exact before

theorem clear (doubled : Doubled width height count small large) :
    Doubled width height count small.clear large.clear :=
  doubled.mapSelected fun _ _ plane => plane.clear

theorem clearAll (doubled : Doubled width height count small large) :
    Doubled width height count small.clearAll large.clearAll := by
  refine doubled.withPlanes doubled.small_shaped.clearAll.planes_size
    doubled.large_shaped.clearAll.planes_size fun number inside => ?_
  show Plane.Doubled width height (small.clearAll.plane number) (large.clearAll.plane number)
  rw [plane_clearAll, plane_clearAll]
  exact (doubled.plane number inside).clear

theorem select (doubled : Doubled width height count small large) (mask : Int) :
    (∃ fault, small.select mask = .error fault ∧ large.select mask = .error fault) ∨
      ∃ small' large', small.select mask = .ok small' ∧ large.select mask = .ok large' ∧
        Doubled width height count small' large' := by
  rw [Screen.select, Screen.select, doubled.small_shaped.planes_size,
    doubled.large_shaped.planes_size]
  split
  · exact Or.inr ⟨_, _, rfl, rfl, { doubled with
      small_shaped := { doubled.small_shaped with }
      large_shaped := { doubled.large_shaped with }
      mask := rfl }⟩
  · exact Or.inl ⟨_, rfl, rfl⟩

/-- Scrolling goes twice the distance on the large screen, and neither screen refuses it. -/
theorem scroll (doubled : Doubled width height count small large) (direction : Direction)
    (distance : Nat) :
    ∃ small' large', small.scroll direction distance = .ok small' ∧
      large.scroll direction (2 * distance : Nat) = .ok large' ∧
      Doubled width height count small' large' :=
  ⟨_, _, doubled.small_shaped.scroll_eq direction distance,
    doubled.large_shaped.scroll_eq direction (2 * distance),
    doubled.mapSelected fun _ _ plane => plane.scrolled direction distance⟩

/-! ## Flipping -/

theorem toggle (doubled : Doubled width height count small large) {number : Nat}
    (existing : number < count) (column row : Nat) :
    Doubled width height count (small.toggle number (covers width 1 column row))
      (large.toggle number (covers (2 * width) 2 column row)) := by
  have small_count := doubled.small_shaped.planes_size
  have large_count := doubled.large_shaped.planes_size
  refine doubled.withPlanes (by simpa using small_count) (by simpa using large_count) ?_
  intro other inside
  show Plane.Doubled width height
    ((small.toggle number (covers width 1 column row)).plane other)
    ((large.toggle number (covers (2 * width) 2 column row)).plane other)
  rw [plane_toggle small _ (by omega), plane_toggle large _ (by omega)]
  split
  · exact (doubled.plane number existing).toggle column row
  · exact doubled.plane other inside

/-- Contacts other than clipping are told apart by whether they are collisions. -/
private theorem contact_eq {left right : Contact} (left_inside : left ≠ .clipped)
    (right_inside : right ≠ .clipped) (alike : left = .collided ↔ right = .collided) :
    left = right := by
  cases left <;> cases right <;> simp_all

/-- Flipping the same pixel of both screens meets the same. -/
theorem flip (doubled : Doubled width height count small large) (width_pos : 0 < width)
    (height_pos : 0 < height) {number : Nat} (existing : number < count) {x y : Int}
    (named : small.wraps = true ∨ 0 ≤ x ∧ 0 ≤ y) :
    ∃ small' large' contact, small.flip number x y = (small', .ok contact) ∧
      large.flip number x y = (large', .ok contact) ∧
      Doubled width height count small' large' := by
  have small_scale := doubled.small_scale
  have large_scale := doubled.large_scale
  rcases doubled.small_shaped.locate_cases (by omega) (by omega) named with
    clipped | ⟨column, row, located, fits_x, fits_y⟩
  · refine ⟨small, large, .clipped, ?_, ?_, doubled⟩
    · rw [Screen.flip, clipped]
    · rw [Screen.flip, doubled.locate_eq, clipped]
  · rw [small_scale] at fits_x fits_y
    obtain ⟨contact, small_flip, inside, collided⟩ := doubled.small_shaped.flip_of_located
      existing located (by rw [small_scale]; exact fits_x) (by rw [small_scale]; exact fits_y)
    obtain ⟨contact', large_flip, inside', collided'⟩ := doubled.large_shaped.flip_of_located
      existing ((doubled.locate_eq x y).trans located) (by rw [large_scale]; omega)
      (by rw [large_scale]; omega)
    rw [small_scale] at small_flip collided
    rw [large_scale] at large_flip collided'
    have same : contact' = contact := by
      refine contact_eq inside' inside ?_
      rw [collided', collided]
      exact (doubled.plane number existing).lit_block_iff (by omega) (by omega)
    subst same
    exact ⟨_, _, contact', small_flip, large_flip, doubled.toggle existing column row⟩

theorem flipsAlike (width_pos : 0 < width) (height_pos : 0 < height) {number : Nat}
    (existing : number < count) : FlipsAlike (Doubled width height count) number :=
  fun _ _ doubled _ _ x_nonneg y_nonneg =>
    doubled.flip width_pos height_pos existing (Or.inr ⟨x_nonneg, y_nonneg⟩)

end Doubled

end Screen

end Chip8
