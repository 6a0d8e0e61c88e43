import Mathlib.Tactic.Ring
import Chip8.Screen
import Chip8.Proofs.Loop
import Chip8.Proofs.Store

/-!
# Screens that keep their shape

A shaped screen has as many equally large planes as it says.  Clearing and scrolling repaint it:
they change cells of selected planes and nothing else, and on a shaped screen they never fail.
-/

namespace Chip8

namespace Plane

/-- Whether the cell at a place is lit; there is no light outside the plane. -/
def lit (plane : Plane) (place : Nat) : Bool := plane.cells.getD place false

/-- No cell of the plane is lit. -/
def Unlit (plane : Plane) : Prop := ∀ place, plane.lit place = false

theorem lit_eq (plane : Plane) (place : Nat) :
    plane.lit place = plane.cells[place]?.getD false := by
  simp [lit]

theorem getElem?_of_inside {plane : Plane} {place : Nat} (inside : place < plane.cells.size) :
    plane.cells[place]? = some (plane.lit place) := by
  simp [lit, inside]

theorem unlit_filled (size : Nat) : Unlit (.filled size false) := by
  intro place
  rw [lit_eq, Store.filled, Array.getElem?_replicate]
  split <;> rfl

theorem unlit_clear {plane : Plane} {size : Nat} (sized : plane.Sized size) :
    Unlit (plane.clear false) := by
  intro place
  rw [lit_eq]
  by_cases inside : place < size
  · rw [Store.getElem?_clear sized false inside]
    rfl
  · have outside : (plane.clear false).cells.size ≤ place := by
      rw [(sized.clear false).cells]
      omega
    rw [Array.getElem?_eq_none outside]
    rfl

/-! ## Scrolling a plane -/

/-- The strips that scrolling blanks lie inside the plane. -/
theorem strips_inside {width height count : Nat} {direction : Direction} {strip : Int × Int}
    (member : strip ∈ strips width height (width * height : Nat) direction count) :
    0 ≤ strip.1 ∧ strip.1 + strip.2 ≤ (width * height : Nat) := by
  have rows : min (count : Int) height * width ≤ (height * width : Nat) := by
    rw [Nat.cast_mul]
    exact Int.mul_le_mul_of_nonneg_right (Int.min_le_right _ _) (Int.natCast_nonneg _)
  have nonneg : (0 : Int) ≤ min (count : Int) height * width :=
    Int.mul_nonneg (by omega) (Int.natCast_nonneg _)
  have area : height * width = width * height := Nat.mul_comm _ _
  have row_le {row : Nat} (inside : row < height) :
      (width : Int) * (row + 1) ≤ (width * height : Nat) := by
    rw [Nat.cast_mul]
    exact Int.mul_le_mul_of_nonneg_left (by omega) (Int.natCast_nonneg _)
  cases direction with
  | up =>
      obtain rfl : strip = _ := by simpa [strips] using member
      simp only
      omega
  | down =>
      obtain rfl : strip = _ := by simpa [strips] using member
      simp only
      omega
  | left =>
      simp only [strips, List.mem_map, List.mem_range] at member
      obtain ⟨row, inside, rfl⟩ := member
      have after := row_le inside
      have step : (width : Int) * (row + 1) = width * row + width := by ring
      have before : (0 : Int) ≤ width * row := Int.mul_nonneg (by omega) (by omega)
      simp only
      omega
  | right =>
      simp only [strips, List.mem_map, List.mem_range] at member
      obtain ⟨row, inside, rfl⟩ := member
      have after := row_le inside
      have step : (width : Int) * (row + 1) = width * row + width := by ring
      have before : (0 : Int) ≤ width * row := Int.mul_nonneg (by omega) (by omega)
      simp only
      omega

/-- What scrolling makes of a plane in which every strip can be blanked. -/
def scrolled (width height : Nat) (direction : Direction) (count : Nat) (plane : Plane) : Plane :=
  (strips width height (width * height : Nat) direction count).foldl
    (fun plane (start, length) =>
      plane.patch start.toNat (Array.replicate length.toNat false))
    (plane.move (shift width height direction count))

/-- A plane of its full size is scrolled without fail, and keeps its size. -/
theorem scroll_of_sized {plane : Plane} {width height : Nat}
    (sized : plane.Sized (width * height)) (direction : Direction) (count : Nat) :
    plane.scroll width height direction count = .ok (plane.scrolled width height direction count) ∧
      (plane.scrolled width height direction count).Sized (width * height) := by
  rw [scroll, sized.addresses]
  refine Loop.foldlM_eq_ok (fun plane : Plane => plane.Sized (width * height))
    (fun plane strip member sized => ?_) (sized.move _)
  obtain ⟨nonneg, ends⟩ := strips_inside member
  exact ⟨Store.fill_of_inside sized nonneg ends false, sized.patch _ _⟩

end Plane

namespace Screen

/-- The screen has the given sides and number of planes, and every plane has the size of the
screen. -/
structure Shaped (screen : Screen) (width height count : Nat) : Prop where
  /-- Physical width. -/
  width_eq : screen.width = width
  /-- Physical height. -/
  height_eq : screen.height = height
  /-- Number of planes. -/
  planes_size : screen.planes.size = count
  /-- Size of each plane. -/
  planes_sized : ∀ number < count, (screen.plane number).Sized (width * height)

/-- Only cells of the selected planes of `before` differ in `after`. -/
structure Repainted (before after : Screen) : Prop where
  /-- Physical width. -/
  width : after.width = before.width
  /-- Physical height. -/
  height : after.height = before.height
  /-- Behaviour at the edges. -/
  wraps : after.wraps = before.wraps
  /-- Resolution. -/
  lowRes : after.lowRes = before.lowRes
  /-- Selection. -/
  mask : after.mask = before.mask
  /-- Number of planes. -/
  count : after.planes.size = before.planes.size
  /-- Sizes of planes. -/
  sized : ∀ number size, (before.plane number).Sized size → (after.plane number).Sized size
  /-- Planes that are not selected. -/
  unselected : ∀ number, before.mask.testBit number = false →
    after.plane number = before.plane number

theorem Repainted.refl (screen : Screen) : Repainted screen screen where
  width := rfl
  height := rfl
  wraps := rfl
  lowRes := rfl
  mask := rfl
  count := rfl
  sized _ _ sized := sized
  unselected _ _ := rfl

theorem Repainted.trans {first second third : Screen} (left : Repainted first second)
    (right : Repainted second third) : Repainted first third where
  width := right.width.trans left.width
  height := right.height.trans left.height
  wraps := right.wraps.trans left.wraps
  lowRes := right.lowRes.trans left.lowRes
  mask := right.mask.trans left.mask
  count := right.count.trans left.count
  sized number size sized := right.sized number size (left.sized number size sized)
  unselected number unselected :=
    (right.unselected number (by rw [left.mask, unselected])).trans
      (left.unselected number unselected)

variable {screen : Screen} {width height count : Nat}

theorem Shaped.repainted {after : Screen} (shaped : screen.Shaped width height count)
    (repainted : Repainted screen after) : after.Shaped width height count where
  width_eq := repainted.width.trans shaped.width_eq
  height_eq := repainted.height.trans shaped.height_eq
  planes_size := repainted.count.trans shaped.planes_size
  planes_sized number inside := repainted.sized number _ (shaped.planes_sized number inside)

theorem Shaped.lt_of_selected (shaped : screen.Shaped width height count) {number : Nat}
    (selected : number ∈ screen.selected) : number < count := by
  rw [← shaped.planes_size]
  exact List.mem_range.mp (List.mem_of_mem_filter selected)

/-! ## Making and resetting -/

theorem plane_eq (screen : Screen) (number : Nat) :
    screen.plane number = screen.planes[number]?.getD (.filled 0 false) := by
  simp [plane]

theorem plane_blank (width height : Nat) (planes : Nat) (wraps : Bool) {number : Nat}
    (inside : number < planes) :
    (blank width height planes wraps).plane number = .filled (width * height) false := by
  rw [plane_eq, blank]
  simp only [Array.getElem?_replicate, if_pos inside, Option.getD_some]
  congr 1

theorem shaped_blank (width height : Nat) (planes : Nat) (wraps : Bool) :
    (blank width height planes wraps).Shaped width height planes where
  width_eq := rfl
  height_eq := rfl
  planes_size := by simp [blank]
  planes_sized number inside := by
    rw [plane_blank width height planes wraps inside]
    exact Store.sized_filled _ _

theorem plane_clearAll (screen : Screen) (number : Nat) :
    screen.clearAll.plane number = (screen.plane number).clear false := by
  simp only [plane_eq, clearAll, Array.getElem?_map]
  cases screen.planes[number]? <;> rfl

theorem Shaped.clearAll (shaped : screen.Shaped width height count) :
    screen.clearAll.Shaped width height count where
  width_eq := shaped.width_eq
  height_eq := shaped.height_eq
  planes_size := by simp [Screen.clearAll, shaped.planes_size]
  planes_sized number inside := by
    rw [plane_clearAll]
    exact (shaped.planes_sized number inside).clear false

/-! ## Changes to the selected planes -/

theorem plane_mapSelected (screen : Screen) (change : Plane → Plane) {number : Nat}
    (inside : number < screen.planes.size) :
    (screen.mapSelected change).plane number =
      if screen.mask.testBit number then change (screen.plane number)
      else screen.plane number := by
  simp [plane_eq, mapSelected, inside]

/-- A change that keeps the size of planes repaints the screen. -/
theorem repainted_mapSelected {change : Plane → Plane}
    (keeps : ∀ number < screen.planes.size, ∀ size, (screen.plane number).Sized size →
      (change (screen.plane number)).Sized size) :
    Repainted screen (screen.mapSelected change) where
  width := rfl
  height := rfl
  wraps := rfl
  lowRes := rfl
  mask := rfl
  count := by simp [mapSelected]
  sized number size sized := by
    by_cases inside : number < screen.planes.size
    · rw [plane_mapSelected screen change inside]
      split
      · exact keeps number inside size sized
      · exact sized
    · have missing : screen.planes.size ≤ number := Nat.le_of_not_lt inside
      simpa [plane_eq, mapSelected, Array.getElem?_eq_none missing] using sized
  unselected number unselected := by
    by_cases inside : number < screen.planes.size
    · rw [plane_mapSelected screen change inside, unselected]
      rfl
    · have missing : screen.planes.size ≤ number := Nat.le_of_not_lt inside
      simp [plane_eq, mapSelected, Array.getElem?_eq_none missing]

theorem repainted_clear (screen : Screen) : Repainted screen screen.clear :=
  repainted_mapSelected fun _ _ _ sized => sized.clear false

/-- Changing several planes one after the other. -/
theorem foldl_withPlane (change : Plane → Plane) {numbers : List Nat} (distinct : numbers.Nodup)
    (screen : Screen) :
    numbers.foldl (fun screen number => screen.withPlane number (change (screen.plane number)))
        screen =
      { screen with
        planes := screen.planes.mapIdx fun number plane =>
          if number ∈ numbers then change plane else plane } := by
  induction numbers generalizing screen with
  | nil =>
      have same : screen.planes.mapIdx (fun number plane =>
          if number ∈ [] then change plane else plane) = screen.planes := by
        apply Array.ext_getElem?
        intro number
        simp [Array.getElem?_mapIdx]
      rw [List.foldl_nil, same]
  | cons first rest induction =>
      obtain ⟨fresh, distinct⟩ := List.nodup_cons.mp distinct
      rw [List.foldl_cons, induction distinct, withPlane]
      congr 1
      apply Array.ext_getElem?
      intro number
      simp only [Array.getElem?_mapIdx, Array.getElem?_setIfInBounds, List.mem_cons, plane_eq]
      by_cases same : first = number
      · subst same
        by_cases inside : first < screen.planes.size
        · simp [fresh, inside]
        · simp [inside]
      · simp [same, Ne.symm same]

theorem mapSelected_eq (screen : Screen) (change : Plane → Plane) :
    screen.mapSelected change =
      screen.selected.foldl
        (fun screen number => screen.withPlane number (change (screen.plane number))) screen := by
  have distinct : screen.selected.Nodup := List.nodup_range.filter _
  rw [foldl_withPlane change distinct, mapSelected]
  congr 1
  apply Array.ext_getElem?
  intro number
  simp only [Array.getElem?_mapIdx, selected, List.mem_filter, List.mem_range]
  by_cases inside : number < screen.planes.size
  · simp [inside]
  · simp [inside]

theorem Shaped.withPlane (shaped : screen.Shaped width height count) (number : Nat)
    {plane : Plane} (sized : plane.Sized (width * height)) :
    (screen.withPlane number plane).Shaped width height count where
  width_eq := shaped.width_eq
  height_eq := shaped.height_eq
  planes_size := by simp [Screen.withPlane, shaped.planes_size]
  planes_sized other inside := by
    have there : other < screen.planes.size := by rwa [shaped.planes_size]
    have before := shaped.planes_sized other inside
    rw [plane_eq] at before
    simp only [plane_eq, Screen.withPlane, Array.getElem?_setIfInBounds]
    split
    case isTrue same =>
      rw [if_pos (same ▸ there)]
      exact sized
    case isFalse => exact before

/-- On a shaped screen scrolling is never refused: it changes all the planes that are selected. -/
theorem Shaped.scroll_eq (shaped : screen.Shaped width height count) (direction : Direction)
    (distance : Nat) :
    screen.scroll direction distance =
      .ok (screen.mapSelected (Plane.scrolled width height direction distance)) := by
  rw [mapSelected_eq, Screen.scroll]
  refine (Loop.foldlM_eq_ok (fun screen : Screen => screen.Shaped width height count)
    (fun screen' number member shaped' => ?_) shaped).1
  obtain ⟨done, sized⟩ := Plane.scroll_of_sized
    (shaped'.planes_sized number (shaped.lt_of_selected member)) direction distance
  rw [shaped'.width_eq, shaped'.height_eq, done]
  exact ⟨rfl, shaped'.withPlane number sized⟩

/-- On a shaped screen scrolling is never refused, and only repaints. -/
theorem Shaped.scroll (shaped : screen.Shaped width height count) (direction : Direction)
    (distance : Nat) :
    ∃ scrolled, screen.scroll direction distance = .ok scrolled ∧ Repainted screen scrolled := by
  refine ⟨_, shaped.scroll_eq direction distance, ?_⟩
  refine repainted_mapSelected fun number inside size sized => ?_
  have shape := shaped.planes_sized number (by rw [← shaped.planes_size]; exact inside)
  obtain rfl : size = width * height := by rw [← sized.addresses, shape.addresses]
  exact (Plane.scroll_of_sized shape direction distance).2

end Screen

end Chip8
