import Mathlib.Data.Nat.ModEq
import Chip8.Proofs.Sprite

/-!
# Stamping sprites

Drawing flips pixels one after the other.  If no two bits of a sprite come to lie on the same pixel,
it might as well flip them all at once: each set bit flips the cells below it, and whether a row
collides can be told from the screen before anything is drawn.
-/

namespace Chip8

namespace Plane

variable {plane : Plane}

theorem toggle_toggle (plane : Plane) (first second : Nat → Bool) :
    (plane.toggle first).toggle second = plane.toggle fun place => first place ^^ second place := by
  rcases plane with ⟨cells, size⟩
  simp only [toggle]
  congr 1
  exact Array.ext (by simp) (by simp)

theorem toggle_nothing (plane : Plane) : plane.toggle (fun _ => false) = plane := by
  rcases plane with ⟨cells, size⟩
  simp only [toggle, Bool.xor_false]
  congr 1
  exact Array.ext (by simp) (by simp)

theorem lit_toggle_of_untouched {region : Nat → Bool} {place : Nat}
    (untouched : region place = false) : (plane.toggle region).lit place = plane.lit place := by
  rw [lit_eq, lit_eq, toggle, Array.getElem?_mapIdx, untouched]
  rcases plane.cells[place]? with _ | lit
  · rfl
  · simp

theorem lt_of_lit {place : Nat} (lit : plane.lit place = true) : place < plane.cells.size := by
  by_contra outside
  rw [lit_eq, Array.getElem?_eq_none (Nat.le_of_not_lt outside)] at lit
  cases lit

end Plane

namespace Screen

variable {screen : Screen} {width height count number : Nat} {x y : Int}

theorem toggle_toggle (screen : Screen) (number : Nat) (first second : Nat → Bool) :
    (screen.toggle number first).toggle number second =
      screen.toggle number fun place => first place ^^ second place := by
  by_cases inside : number < screen.planes.size
  · rw [toggle, plane_toggle screen first inside, if_pos rfl, Plane.toggle_toggle]
    simp [toggle]
  · simp [toggle, Array.setIfInBounds, inside]

theorem toggle_nothing (screen : Screen) (number : Nat) :
    screen.toggle number (fun _ => false) = screen := by
  rw [toggle, Plane.toggle_nothing]
  by_cases inside : number < screen.planes.size
  · rw [plane_eq, Array.getElem?_eq_getElem inside, Option.getD_some, Array.setIfInBounds,
      dif_pos inside, Array.set_getElem_self]
  · simp [Array.setIfInBounds, inside]

theorem Shaped.toggle (shaped : screen.Shaped width height count) (number : Nat)
    (region : Nat → Bool) : (screen.toggle number region).Shaped width height count where
  width_eq := shaped.width_eq
  height_eq := shaped.height_eq
  planes_size := by simp [Screen.toggle, shaped.planes_size]
  planes_sized other inside := by
    by_cases existing : number < screen.planes.size
    · rw [plane_toggle screen region existing]
      split
      case isTrue same =>
        subst same
        exact Plane.sized_toggle (shaped.planes_sized other inside) region
      case isFalse => exact shaped.planes_sized other inside
    · have unchanged : screen.toggle number region = screen := by
        simp [Screen.toggle, Array.setIfInBounds, existing]
      rw [unchanged]
      exact shaped.planes_sized other inside

/-! ## One pixel -/

/-- Whether a cell belongs to the pixel that coordinates name. -/
def isSpot (screen : Screen) (x y : Int) (place : Nat) : Bool :=
  match screen.locate x y with
  | .ok (some (column, row)) =>
      covers screen.width.toNat screen.scale column.toNat row.toNat place
  | _ => false

/-- Whether flipping the pixel that coordinates name collides: one of its cells is lit, or it is
clipped and that counts. -/
def hits (screen : Screen) (countClipped : Bool) (number : Nat) (x y : Int) : Bool :=
  (screen.locate x y = .ok none && countClipped) ||
    (List.range (screen.plane number).cells.size).any fun place =>
      screen.isSpot x y place && (screen.plane number).lit place

/-- Flipping a pixel toggles its cells, and hits what was there before. -/
theorem Shaped.flip_eq (shaped : screen.Shaped width height count) (wide : screen.scale ≤ width)
    (high : screen.scale ≤ height) (existing : number < count) (x_nonneg : 0 ≤ x)
    (y_nonneg : 0 ≤ y) (countClipped : Bool) :
    ∃ contact, screen.flip number x y = (screen.toggle number (screen.isSpot x y), .ok contact) ∧
      screen.hits countClipped number x y =
        (contact = .collided || (contact = .clipped && countClipped)) := by
  rcases shaped.locate_cases wide high (Or.inr ⟨x_nonneg, y_nonneg⟩) with
    clipped | ⟨column, row, located, fits_x, fits_y⟩
  · have spot : screen.isSpot x y = fun _ => false := by
      funext place
      rw [isSpot, clipped]
    refine ⟨.clipped, ?_, ?_⟩
    · rw [spot, toggle_nothing, Screen.flip, clipped]
    · simp [hits, clipped, spot]
  · have spot : screen.isSpot x y = covers width screen.scale column row := by
      funext place
      rw [isSpot, located, shaped.width_eq]
      rfl
    obtain ⟨contact, flipped, unclipped, collided⟩ :=
      shaped.flip_of_located existing located fits_x fits_y
    refine ⟨contact, spot ▸ flipped, ?_⟩
    rw [hits, located, spot, Bool.eq_iff_iff]
    simp only [reduceCtorEq, Except.ok.injEq, decide_false, Bool.false_and, Bool.false_or,
      unclipped, Bool.or_false, decide_eq_true_eq, collided, List.any_eq_true, List.mem_range,
      Bool.and_eq_true]
    refine exists_congr fun place => ⟨And.right, fun met => ⟨?_, met⟩⟩
    exact Plane.lt_of_lit met.2

/-- Toggling other cells of the plane makes no difference to what a flip hits. -/
theorem hits_toggle (existing : number < screen.planes.size) {done : Nat → Bool}
    (fresh : ∀ place, screen.isSpot x y place = true → done place = false) (countClipped : Bool) :
    (screen.toggle number done).hits countClipped number x y =
      screen.hits countClipped number x y := by
  have size : ((screen.plane number).toggle done).cells.size =
      (screen.plane number).cells.size := by simp [Plane.toggle]
  rw [hits, plane_toggle screen done existing, if_pos rfl, size, hits, Bool.eq_iff_iff]
  simp only [Bool.or_eq_true, List.any_eq_true, Bool.and_eq_true]
  refine or_congr Iff.rfl (exists_congr fun place => and_congr_right fun _ =>
    and_congr_right fun (spot : screen.isSpot x y place = true) => ?_)
  rw [Plane.lit_toggle_of_untouched (fresh place spot)]

/-! ## Rows and pictures -/

section Turns

variable {α β : Type} {body : Screen × β → α → Except Fault (Screen × β)} (number : Nat)
  (region : α → Nat → Bool) (answer : β → α → β) {turns : List α}
  (turn : ∀ a ∈ turns, ∀ done : Nat → Bool,
    (∀ place, region a place = true → done place = false) → ∀ b,
      body (screen.toggle number done, b) a =
        .ok ((screen.toggle number done).toggle number (region a), answer b a))
  (apart : turns.Pairwise fun a a' => ∀ place, region a place = true → region a' place = false)

include turn apart

/-- A loop toggles all that its turns toggle, if these are apart from each other and from what was
toggled before. -/
theorem foldlM_toggle {done : Nat → Bool}
    (fresh : ∀ a ∈ turns, ∀ place, region a place = true → done place = false) (b : β) :
    turns.foldlM body (screen.toggle number done, b) =
      .ok (screen.toggle number (fun place => done place || turns.any (region · place)),
        turns.foldl answer b) := by
  induction turns generalizing done b with
  | nil => simp [pure, Except.pure]
  | cons a rest induction =>
      obtain ⟨first, others⟩ := List.pairwise_cons.mp apart
      -- No cell is toggled twice, so those toggled an odd number of times are all that were.
      have both : (fun place => done place ^^ region a place) =
          fun place => done place || region a place := by
        funext place
        rcases inked : region a place with _ | _
        · rw [Bool.xor_false, Bool.or_false]
        · rw [fresh a List.mem_cons_self place inked]
          rfl
      have fresh' : ∀ a' ∈ rest, ∀ place, region a' place = true →
          (done place || region a place) = false := by
        intro a' member place inked
        rw [fresh a' (List.mem_cons_of_mem a member) place inked, Bool.false_or]
        refine Bool.eq_false_iff.mpr fun before => ?_
        rw [first a' member place before] at inked
        cases inked
      rw [List.foldlM_cons, turn a List.mem_cons_self done (fresh a List.mem_cons_self) b,
        toggle_toggle, both]
      simp only [bind, Except.bind]
      rw [induction (fun a' member => turn a' (List.mem_cons_of_mem a member)) others fresh']
      simp only [List.any_cons, Bool.or_assoc, List.foldl_cons]

theorem foldlM_toggle_of_apart (b : β) :
    turns.foldlM body (screen, b) =
      .ok (screen.toggle number fun place => turns.any (region · place),
        turns.foldl answer b) := by
  have whole := foldlM_toggle number region answer turn apart (fun _ _ _ _ => rfl) b
  rwa [toggle_nothing] at whole

end Turns

/-- Whether a row sets a bit over a cell. -/
def rowInks (screen : Screen) (x y : Int) (width bits place : Nat) : Bool :=
  (List.range width).any fun column =>
    bits.testBit (width - 1 - column) && screen.isSpot (x + column) y place

/-- Whether a set bit of a row hits. -/
def rowHits (screen : Screen) (countClipped : Bool) (number : Nat) (x y : Int)
    (width bits : Nat) : Bool :=
  (List.range width).any fun column =>
    bits.testBit (width - 1 - column) && screen.hits countClipped number (x + column) y

/-- The bits of a sprite of some size, with its corner at (x, y), lie over different cells. -/
def Apart (screen : Screen) (x y : Int) (size : SpriteSize) : Prop :=
  ∀ row < size.rows, ∀ column < size.width, ∀ row' < size.rows, ∀ column' < size.width, ∀ place,
    screen.isSpot (x + column) (y + row) place = true →
      screen.isSpot (x + column') (y + row') place = true → row = row' ∧ column = column'

/-- Drawing a row toggles the cells below its set bits. -/
theorem Shaped.drawRow_eq (shaped : screen.Shaped width height count)
    (wide : screen.scale ≤ width) (high : screen.scale ≤ height) (existing : number < count)
    (x_nonneg : 0 ≤ x) (y_nonneg : 0 ≤ y) (countClipped : Bool) (bits : Nat) {length : Nat}
    (apart : ∀ column < length, ∀ column' < length, ∀ place,
      screen.isSpot (x + column) y place = true → screen.isSpot (x + column') y place = true →
        column = column') :
    screen.drawRow countClipped number x y length bits =
      .ok (screen.toggle number (screen.rowInks x y length bits),
        screen.rowHits countClipped number x y length bits) := by
  have exists_plane : number < screen.planes.size := shaped.planes_size ▸ existing
  refine (foldlM_toggle_of_apart number
    (fun column place => bits.testBit (length - 1 - column) && screen.isSpot (x + column) y place)
    (fun hit column => hit ||
      (bits.testBit (length - 1 - column) && screen.hits countClipped number (x + column) y))
    ?_ ?_ false).trans ?_
  · intro column _ done fresh hit
    by_cases set : bits.testBit (length - 1 - column) = true
    · simp only [set, Bool.true_and] at fresh ⊢
      obtain ⟨contact, flipped, met⟩ := (shaped.toggle number done).flip_eq wide high existing
        (show 0 ≤ x + column by omega) y_nonneg countClipped
      rw [hits_toggle exists_plane fresh] at met
      simp only [if_true, flipped, met]
      cases contact <;> simp
      all_goals rfl
    · simp only [Bool.not_eq_true] at set
      simp only [set, Bool.false_and, Bool.or_false, toggle_nothing]
      rfl
  · refine List.nodup_range.pairwise_of_forall_ne fun column inside column' inside' ne place => ?_
    simp only [Bool.and_eq_true]
    rintro ⟨-, spot⟩
    refine Bool.eq_false_iff.mpr fun inked => ne ?_
    exact apart column (List.mem_range.mp inside) column' (List.mem_range.mp inside') place spot
      (Bool.and_eq_true_iff.mp inked).2
  · rw [Loop.foldl_or, Bool.false_or]
    rfl

/-- Whether a picture sets a bit over a cell. -/
def pictureInks (screen : Screen) (size : SpriteSize) (pictures : Array UInt8) (picture : Nat)
    (x y : Int) (place : Nat) : Bool :=
  (List.range size.rows).any fun row =>
    screen.rowInks x (y + row) size.width (size.bits pictures picture row) place

/-- Number of rows of a picture that hit. -/
def pictureHits (screen : Screen) (countClipped : Bool) (size : SpriteSize)
    (pictures : Array UInt8) (picture number : Nat) (x y : Int) : Nat :=
  (List.range size.rows).countP fun row : Nat =>
    screen.rowHits countClipped number x (y + row) size.width (size.bits pictures picture row)

theorem rowHits_toggle (existing : number < screen.planes.size) {done : Nat → Bool}
    {length bits : Nat}
    (fresh : ∀ place, screen.rowInks x y length bits place = true → done place = false)
    (countClipped : Bool) :
    (screen.toggle number done).rowHits countClipped number x y length bits =
      screen.rowHits countClipped number x y length bits := by
  rw [rowHits, rowHits, Bool.eq_iff_iff]
  simp only [List.any_eq_true, Bool.and_eq_true]
  refine exists_congr fun column => and_congr_right fun inside => and_congr_right fun set => ?_
  rw [hits_toggle existing fun place spot => fresh place ?_]
  exact List.any_eq_true.mpr ⟨column, inside, by rw [set, spot]; rfl⟩

theorem exists_spot_of_rowInks {length bits place : Nat}
    (inked : screen.rowInks x y length bits place = true) :
    ∃ column < length, bits.testBit (length - 1 - column) = true ∧
      screen.isSpot (x + column) y place = true := by
  obtain ⟨column, inside, both⟩ := List.any_eq_true.mp inked
  obtain ⟨set, spot⟩ := Bool.and_eq_true_iff.mp both
  exact ⟨column, List.mem_range.mp inside, set, spot⟩

/-- Drawing a picture toggles the cells below its set bits. -/
theorem Shaped.drawPicture_eq (shaped : screen.Shaped width height count)
    (wide : screen.scale ≤ width) (high : screen.scale ≤ height) (existing : number < count)
    (x_nonneg : 0 ≤ x) (y_nonneg : 0 ≤ y) (countClipped : Bool) {size : SpriteSize}
    (apart : screen.Apart x y size) (picture : Array UInt8) :
    screen.drawPicture countClipped size picture number x y =
      .ok (screen.toggle number (screen.pictureInks size picture 0 x y),
        screen.pictureHits countClipped size picture 0 number x y) := by
  have exists_plane : number < screen.planes.size := shaped.planes_size ▸ existing
  rw [drawPicture]
  refine (foldlM_toggle_of_apart number
    (fun (row : Nat) => screen.rowInks x (y + row) size.width (size.bits picture 0 row))
    (fun hit row => if screen.rowHits countClipped number x (y + row) size.width
      (size.bits picture 0 row) then hit + 1 else hit) ?_ ?_ 0).trans ?_
  · intro row inside done fresh hit
    have row_lt := List.mem_range.mp inside
    have drawn := (shaped.toggle number done).drawRow_eq wide high existing x_nonneg
      (show 0 ≤ y + row by omega) countClipped (size.bits picture 0 row)
      fun column column_lt column' column_lt' place spot spot' =>
        (apart row row_lt column column_lt row row_lt column' column_lt' place spot spot').2
    rw [rowHits_toggle exists_plane fresh] at drawn
    rw [SpriteSize.bits_single] at drawn ⊢
    simp only [drawn]
    rfl
  · refine List.nodup_range.pairwise_of_forall_ne fun row inside row' inside' ne place inked => ?_
    refine Bool.eq_false_iff.mpr fun inked' => ne ?_
    obtain ⟨column, column_lt, -, spot⟩ := exists_spot_of_rowInks inked
    obtain ⟨column', column_lt', -, spot'⟩ := exists_spot_of_rowInks inked'
    exact (apart row (List.mem_range.mp inside) column column_lt row' (List.mem_range.mp inside')
      column' column_lt' place spot spot').1
  · rw [Loop.foldl_count, Nat.zero_add]
    rfl

section Pictures

variable (size : SpriteSize) (pictures : Array UInt8)

theorem pictureInks_first :
    screen.pictureInks size (pictures.extract 0 size.bytes) 0 x y =
      screen.pictureInks size pictures 0 x y := by
  funext place
  rw [pictureInks, pictureInks, Bool.eq_iff_iff, List.any_eq_true, List.any_eq_true]
  refine exists_congr fun row => and_congr_right fun inside => ?_
  rw [size.bits_first pictures (List.mem_range.mp inside)]

theorem pictureInks_rest (picture : Nat) :
    screen.pictureInks size (pictures.extract size.bytes pictures.size) picture x y =
      screen.pictureInks size pictures (picture + 1) x y := by
  funext place
  simp only [pictureInks, size.bits_rest]

theorem pictureHits_first (countClipped : Bool) :
    screen.pictureHits countClipped size (pictures.extract 0 size.bytes) 0 number x y =
      screen.pictureHits countClipped size pictures 0 number x y := by
  refine List.countP_congr fun row inside => ?_
  rw [size.bits_first pictures (List.mem_range.mp inside)]

/-- What hits in later pictures, nothing that is drawn on another plane changes. -/
theorem pictureHits_rest {other : Nat} (existing : other < screen.planes.size)
    (ne : number ≠ other) (done : Nat → Bool) (countClipped : Bool) (picture : Nat) :
    (screen.toggle other done).pictureHits countClipped size
        (pictures.extract size.bytes pictures.size) picture number x y =
      screen.pictureHits countClipped size pictures (picture + 1) number x y := by
  have same (x y : Int) : (screen.toggle other done).hits countClipped number x y =
      screen.hits countClipped number x y := by
    rw [hits, plane_toggle screen done existing, if_neg ne]
    rfl
  simp only [pictureHits, rowHits, size.bits_rest, same]

end Pictures

/-- Drawing pictures on several planes stamps each plane with its own picture. -/
theorem Shaped.drawPictures_eq (shaped : screen.Shaped width height count)
    (wide : screen.scale ≤ width) (high : screen.scale ≤ height) {numbers : List Nat}
    (distinct : numbers.Nodup) (existing : ∀ number ∈ numbers, number < count)
    (x_nonneg : 0 ≤ x) (y_nonneg : 0 ≤ y) (countClipped : Bool) {size : SpriteSize}
    (apart : screen.Apart x y size) (pictures : Array UInt8) :
    ∃ after, screen.drawPictures countClipped size x y numbers pictures =
        .ok (after, (numbers.mapIdx fun picture number =>
          screen.pictureHits countClipped size pictures picture number x y).sum) ∧
      (∀ picture number, numbers[picture]? = some number → after.plane number =
        (screen.plane number).toggle (screen.pictureInks size pictures picture x y)) ∧
      ∀ number ∉ numbers, after.plane number = screen.plane number := by
  induction numbers generalizing screen pictures with
  | nil => exact ⟨screen, rfl, nofun, fun _ _ => rfl⟩
  | cons number rest induction =>
      obtain ⟨fresh, distinct'⟩ := List.nodup_cons.mp distinct
      have number_lt := existing number List.mem_cons_self
      have exists_plane : number < screen.planes.size := shaped.planes_size ▸ number_lt
      have first := shaped.drawPicture_eq wide high number_lt x_nonneg y_nonneg countClipped apart
        (pictures.extract 0 size.bytes)
      rw [pictureInks_first, pictureHits_first] at first
      obtain ⟨after, drawn, stamped, others⟩ := induction
        (shaped.toggle number (screen.pictureInks size pictures 0 x y)) wide high distinct'
        (fun other member => existing other (List.mem_cons_of_mem number member)) apart
        (pictures.extract size.bytes pictures.size)
      have untouched {other : Nat} (ne : other ≠ number) (region : Nat → Bool) :
          (screen.toggle number region).plane other = screen.plane other := by
        rw [plane_toggle screen region exists_plane, if_neg ne]
      have apart_of_mem {other : Nat} (member : other ∈ rest) : other ≠ number := by
        rintro rfl
        exact fresh member
      refine ⟨after, ?_, ?_, ?_⟩
      -- What later pictures hit is told from a screen whose first plane is already stamped.
      · have hits : (rest.mapIdx fun picture other =>
              (screen.toggle number (screen.pictureInks size pictures 0 x y)).pictureHits
                countClipped size (pictures.extract size.bytes pictures.size) picture other x y) =
            rest.mapIdx fun picture other =>
              screen.pictureHits countClipped size pictures (picture + 1) other x y := by
          refine List.ext_getElem? fun picture => ?_
          rw [List.getElem?_mapIdx, List.getElem?_mapIdx]
          refine Option.map_congr fun other found => ?_
          exact pictureHits_rest size pictures exists_plane
            (apart_of_mem (List.mem_of_getElem? found)) _ countClipped picture
        rw [hits] at drawn
        simp only [Screen.drawPictures, first, bind, Except.bind, drawn, List.mapIdx_cons,
          List.sum_cons]
        rfl
      · intro picture other found
        cases picture with
        | zero =>
            obtain rfl : number = other := Option.some.inj found
            rw [others number fresh, plane_toggle screen _ exists_plane, if_pos rfl]
        | succ picture =>
            rw [stamped picture other found,
              untouched (apart_of_mem (List.mem_of_getElem? found)), ← pictureInks_rest]
            rfl
      · intro other missing
        rw [List.mem_cons, not_or] at missing
        rw [others other missing.2, untouched missing.1]

/-! ## Where bits come to lie -/

/-- Where a position comes to lie on a side of the screen: it comes round where the screen wraps,
and is lost past the end where it does not. -/
def land? (wraps : Bool) (side position : Nat) : Option Nat :=
  if wraps then some (position % side) else if position < side then some position else none

theorem land?_inj {wraps : Bool} {side start first second position : Nat} (first_lt : first < side)
    (second_lt : second < side) (landed : land? wraps side (start + first) = some position)
    (landed' : land? wraps side (start + second) = some position) : first = second := by
  rw [land?] at landed landed'
  cases wraps
  · obtain ⟨-, first_eq⟩ := Option.ite_none_right_eq_some.mp landed
    obtain ⟨-, second_eq⟩ := Option.ite_none_right_eq_some.mp landed'
    have same : start + first = start + second := Option.some.inj (first_eq.trans second_eq.symm)
    omega
  · have same : Nat.ModEq side (start + first) (start + second) :=
      Option.some.inj (landed.trans landed'.symm)
    exact (Nat.ModEq.add_left_cancel' start same).eq_of_lt_of_lt first_lt second_lt

section Located

variable (shaped : screen.Shaped width height count) (wide : screen.scale ≤ width)
  (high : screen.scale ≤ height) {column row : Nat}

include shaped wide high

theorem Shaped.logical_eq :
    screen.logicalWidth = (width / screen.scale : Nat) ∧
      screen.logicalHeight = (height / screen.scale : Nat) ∧
      0 < width / screen.scale ∧ 0 < height / screen.scale := by
  refine ⟨?_, ?_, Nat.div_pos wide screen.scale_pos, Nat.div_pos high screen.scale_pos⟩
  · rw [logicalWidth, shaped.width_eq, Int.natCast_ediv]
  · rw [logicalHeight, shaped.height_eq, Int.natCast_ediv]

theorem Shaped.isSpot_iff {place : Nat} :
    screen.isSpot column row place = true ↔
      land? screen.wraps (width / screen.scale) column = some (place % width / screen.scale) ∧
        land? screen.wraps (height / screen.scale) row = some (place / width / screen.scale) := by
  obtain ⟨logical_width, logical_height, width_pos, height_pos⟩ := shaped.logical_eq wide high
  have width_eq : screen.width.toNat = width := by rw [shaped.width_eq, Int.toNat_natCast]
  have covered (column row : Nat) :
      covers width screen.scale (column : Int).toNat (row : Int).toNat place = true ↔
        some column = some (place % width / screen.scale) ∧
          some row = some (place / width / screen.scale) := by
    rw [covers, decide_eq_true_eq, Int.toNat_natCast, Int.toNat_natCast, Option.some_inj,
      Option.some_inj, eq_comm, @eq_comm _ row]
  simp only [isSpot, locate, logical_width, logical_height, land?]
  rcases screen.wraps with _ | _
  · by_cases clipped : width / screen.scale ≤ column ∨ height / screen.scale ≤ row
    · have lost : ((width / screen.scale : Nat) : Int) ≤ column ∨
        ((height / screen.scale : Nat) : Int) ≤ row := by omega
      simp only [Bool.false_eq_true, if_false, if_pos lost]
      refine iff_of_false not_false ?_
      rintro ⟨column_eq, row_eq⟩
      have column_lt := (Option.ite_none_right_eq_some.mp column_eq).1
      have row_lt := (Option.ite_none_right_eq_some.mp row_eq).1
      omega
    · have kept : ¬ (((width / screen.scale : Nat) : Int) ≤ column ∨
        ((height / screen.scale : Nat) : Int) ≤ row) := by omega
      simp only [Bool.false_eq_true, if_false, if_neg kept]
      rw [if_pos (by omega), if_pos (by omega), width_eq]
      exact covered column row
  · have visible : ¬ (((width / screen.scale : Nat) : Int) = 0 ∨
        ((height / screen.scale : Nat) : Int) = 0) := by omega
    have fmod_eq (position side : Nat) : (position : Int).fmod side = (position % side : Nat) := by
      rw [Int.fmod_eq_emod_of_nonneg _ (Int.natCast_nonneg _), Int.natCast_emod]
    simp only [if_true, if_neg visible, fmod_eq, width_eq]
    exact covered _ _

theorem Shaped.locate_eq_none_iff :
    screen.locate column row = .ok none ↔
      screen.wraps = false ∧ (width / screen.scale ≤ column ∨ height / screen.scale ≤ row) := by
  obtain ⟨logical_width, logical_height, width_pos, height_pos⟩ := shaped.logical_eq wide high
  have visible : ¬ (((width / screen.scale : Nat) : Int) = 0 ∨
      ((height / screen.scale : Nat) : Int) = 0) := by omega
  simp only [locate, logical_width, logical_height, if_neg visible, Int.ofNat_le]
  rcases screen.wraps with _ | _
  · simp only [Bool.false_eq_true, if_false, true_and]
    split
    case isTrue lost => exact iff_of_true rfl lost
    case isFalse kept =>
      refine iff_of_false ?_ kept
      rintro ⟨⟩
  · simp

/-- The bits of a sprite that is no larger than the screen lie over different cells. -/
theorem Shaped.apart {size : SpriteSize} (narrow : size.width ≤ width / screen.scale)
    (low : size.rows ≤ height / screen.scale) (left top : Nat) :
    screen.Apart left top size := by
  intro row row_lt column column_lt row' row_lt' column' column_lt' place spot spot'
  rw [← Nat.cast_add, ← Nat.cast_add, shaped.isSpot_iff wide high] at spot spot'
  exact ⟨land?_inj (by omega) (by omega) spot.2 spot'.2,
    land?_inj (by omega) (by omega) spot.1 spot'.1⟩

end Located

end Screen

end Chip8
