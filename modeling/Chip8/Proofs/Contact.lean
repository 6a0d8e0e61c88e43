import Mathlib.Data.List.Sigma
import Chip8.Proofs.SpriteDrawing

/-!
# Drawing pixel by pixel

A drawing flips one pixel after the other, and each flip meets lit cells or does not.  No two bits
of a sprite lie on the same pixel, so every flip meets what was there before the drawing.
-/

namespace Chip8

/-- A logical pixel of a plane, by coordinates that may lie past an edge. -/
structure Pixel where
  /-- Number of the plane. -/
  plane : Nat
  /-- Logical column. -/
  x : Int
  /-- Logical row. -/
  y : Int
deriving DecidableEq, Repr

namespace Screen

variable {screen after : Screen} {pixels : List Pixel}

/-- Flip pixels one after the other, and tell what each of them met. -/
def flipEach (screen : Screen) : List Pixel → Except Fault (Screen × List Contact)
  | [] => .ok (screen, [])
  | pixel :: rest =>
      match screen.flip pixel.plane pixel.x pixel.y with
      | (_, .error fault) => .error fault
      | (screen, .ok contact) => do
          let (screen, contacts) ← screen.flipEach rest
          return (screen, contact :: contacts)

/-! ## The drawing loop -/

/-- Flipping the pixels one after the other turns one screen into the other. -/
def Flips (screen : Screen) (pixels : List Pixel) (after : Screen) : Prop :=
  ∃ contacts, screen.flipEach pixels = .ok (after, contacts)

namespace Flips

theorem nil (screen : Screen) : screen.Flips [] screen := ⟨[], rfl⟩

theorem cons {pixel : Pixel} {next : Screen} {contact : Contact}
    (flipped : screen.flip pixel.plane pixel.x pixel.y = (next, .ok contact))
    (rest : next.Flips pixels after) : screen.Flips (pixel :: pixels) after := by
  obtain ⟨contacts, rest⟩ := rest
  refine ⟨contact :: contacts, ?_⟩
  simp only [flipEach, flipped, rest]
  rfl

theorem exists_of_cons {pixel : Pixel} (flips : screen.Flips (pixel :: pixels) after) :
    ∃ next contact, screen.flip pixel.plane pixel.x pixel.y = (next, .ok contact) ∧
      next.Flips pixels after := by
  obtain ⟨contacts, flips⟩ := flips
  rw [flipEach] at flips
  rcases flipped : screen.flip pixel.plane pixel.x pixel.y with ⟨next, fault | contact⟩
  · rw [flipped] at flips
    cases flips
  · rcases rest : next.flipEach pixels with fault | ⟨last, more⟩
    · simp only [flipped, rest] at flips
      cases flips
    · simp only [flipped, rest] at flips
      cases flips
      exact ⟨next, contact, rfl, more, rest⟩

theorem append {more : List Pixel} {next : Screen} (first : screen.Flips pixels next)
    (second : next.Flips more after) : screen.Flips (pixels ++ more) after := by
  induction pixels generalizing screen with
  | nil =>
      obtain ⟨_, none⟩ := first
      cases none
      exact second
  | cons pixel rest induction =>
      obtain ⟨_, _, flipped, first⟩ := first.exists_of_cons
      exact cons flipped (induction first)

/-- A loop flips the pixels of its turns. -/
theorem of_foldlM {α β : Type} {body : Screen × β → α → Except Fault (Screen × β)}
    {spots : α → List Pixel}
    (turn : ∀ screen b a after b', body (screen, b) a = .ok (after, b') →
      screen.Flips (spots a) after) {turns : List α} {b b' : β}
    (looped : turns.foldlM body (screen, b) = .ok (after, b')) :
    screen.Flips (turns.flatMap spots) after := by
  induction turns generalizing screen b with
  | nil =>
      cases looped
      exact nil _
  | cons a rest induction =>
      rw [List.foldlM_cons] at looped
      rcases turned : body (screen, b) a with fault | ⟨next, c⟩
      · rw [turned] at looped
        cases looped
      · rw [turned] at looped
        exact append (turn screen b a next c turned) (induction looped)

end Flips

/-- The pixels of the set bits of a row of a picture. -/
def rowPixels (size : SpriteSize) (pictures : Array UInt8) (left top : Int)
    (plane picture row : Nat) : List Pixel :=
  ((List.range size.width).filter (size.sets pictures picture row)).map fun (column : Nat) =>
    ⟨plane, left + column, top + row⟩

theorem rowPixels_first {size : SpriteSize} {row : Nat} (row_lt : row < size.rows)
    (pictures : Array UInt8) (left top : Int) (plane : Nat) :
    rowPixels size (pictures.extract 0 size.bytes) left top plane 0 row =
      rowPixels size pictures left top plane 0 row := by
  have same : size.sets (pictures.extract 0 size.bytes) 0 row = size.sets pictures 0 row := by
    funext column
    rw [SpriteSize.sets, SpriteSize.sets, size.bits_first pictures row_lt]
  rw [rowPixels, rowPixels, same]

theorem rowPixels_rest (size : SpriteSize) (pictures : Array UInt8) (left top : Int)
    (plane picture : Nat) :
    rowPixels size (pictures.extract size.bytes pictures.size) left top plane picture =
      rowPixels size pictures left top plane (picture + 1) := by
  funext row
  have same : size.sets (pictures.extract size.bytes pictures.size) picture row =
      size.sets pictures (picture + 1) row := by
    funext column
    rw [SpriteSize.sets, SpriteSize.sets, size.bits_rest]
  rw [rowPixels, rowPixels, same]

section Loop

variable {countClipped : Bool} {left top : Int} {plane : Nat} {size : SpriteSize}

theorem flips_drawRow {width bits : Nat} {hit : Bool}
    (drawn : screen.drawRow countClipped plane left top width bits = .ok (after, hit)) :
    screen.Flips (((List.range width).filter fun column => bits.testBit (width - 1 - column)).map
      fun (column : Nat) => ⟨plane, left + column, top⟩) after := by
  rw [drawRow] at drawn
  generalize List.range width = columns at drawn ⊢
  generalize false = before at drawn
  induction columns generalizing screen before with
  | nil =>
      cases drawn
      exact .nil _
  | cons column rest induction =>
      rw [List.foldlM_cons] at drawn
      by_cases set : bits.testBit (width - 1 - column) = true
      · rw [List.filter_cons, if_pos set, List.map_cons]
        simp only [if_pos set] at drawn
        rcases flipped : screen.flip plane (left + column) top with ⟨next, fault | contact⟩
        · rw [flipped] at drawn
          cases drawn
        · rw [flipped] at drawn
          cases contact <;> exact .cons flipped (induction _ drawn)
      · rw [List.filter_cons, if_neg set]
        simp only [if_neg set] at drawn
        exact induction _ drawn

theorem flips_drawPicture {picture : Array UInt8} {hits : Nat}
    (drawn : screen.drawPicture countClipped size picture plane left top = .ok (after, hits)) :
    screen.Flips ((List.range size.rows).flatMap (rowPixels size picture left top plane 0))
      after := by
  refine Flips.of_foldlM (fun screen count row after count' turned => ?_) drawn
  dsimp only at turned
  rw [← size.bits_single] at turned
  rcases row_drawn : screen.drawRow countClipped plane left (top + row) size.width
    (size.bits picture 0 row) with fault | ⟨next, hit⟩
  · rw [row_drawn] at turned
    cases turned
  · rw [row_drawn] at turned
    cases turned
    exact flips_drawRow row_drawn

/-- Drawing pictures flips the pixels of their set bits, one after the other. -/
theorem flips_drawPictures {planes : List Nat} {pictures : Array UInt8} {hits : Nat}
    (drawn : screen.drawPictures countClipped size left top planes pictures = .ok (after, hits)) :
    screen.Flips (planes.zipIdx.flatMap fun (plane, picture) =>
      (List.range size.rows).flatMap (rowPixels size pictures left top plane picture)) after := by
  induction planes generalizing screen pictures hits with
  | nil =>
      cases drawn
      exact .nil _
  | cons plane rest induction =>
      rw [drawPictures] at drawn
      rcases first : screen.drawPicture countClipped size (pictures.extract 0 size.bytes) plane left
        top with fault | ⟨next, count⟩
      · rw [first] at drawn
        cases drawn
      rcases others : next.drawPictures countClipped size left top rest
        (pictures.extract size.bytes pictures.size) with fault | ⟨last, more⟩
      · simp only [first, bind, Except.bind, others] at drawn
        cases drawn
      simp only [first, bind, Except.bind, others] at drawn
      cases drawn
      have flips_first := flips_drawPicture first
      have flips_others := induction others
      rw [List.flatMap_congr fun row inside =>
        rowPixels_first (List.mem_range.mp inside) pictures left top plane] at flips_first
      simp only [rowPixels_rest] at flips_others
      rw [List.zipIdx_cons, List.flatMap_cons, List.zipIdx_succ, List.flatMap_map]
      exact flips_first.append flips_others

end Loop

/-! ## What flips meet -/

/-- What flipping a pixel meets on a screen. -/
def contact (screen : Screen) (pixel : Pixel) : Contact :=
  if screen.locate pixel.x pixel.y = .ok none then .clipped
  else if screen.hits false pixel.plane pixel.x pixel.y then .collided
  else .free

/-- Pixels that have no cell in common. -/
def Separate (screen : Screen) (pixel other : Pixel) : Prop :=
  pixel.plane = other.plane → ∀ place, screen.isSpot pixel.x pixel.y place = true →
    screen.isSpot other.x other.y place = false

theorem clipped_iff_of_flip {plane : Nat} {x y : Int} {met : Contact}
    (flipped : screen.flip plane x y = (after, .ok met)) :
    met = .clipped ↔ screen.locate x y = .ok none := by
  rw [Screen.flip] at flipped
  rcases located : screen.locate x y with fault | _ | ⟨column, row⟩
  · rw [located] at flipped
    cases flipped
  · rw [located] at flipped
    cases flipped
    exact iff_of_true rfl rfl
  · rw [located] at flipped
    rcases flipped_cells : screen.flipCells plane (screen.cells column row) with ⟨next, fault | lit⟩
    · simp only [flipped_cells] at flipped
      cases flipped
    · simp only [flipped_cells] at flipped
      constructor
      · cases lit <;> cases flipped <;> rintro ⟨⟩
      · rintro ⟨⟩

/-- Flipping a pixel makes no difference to what flipping another one meets. -/
theorem contact_toggle {pixel other : Pixel} (existing : pixel.plane < screen.planes.size)
    (separate : screen.Separate pixel other) :
    (screen.toggle pixel.plane (screen.isSpot pixel.x pixel.y)).contact other =
      screen.contact other := by
  have same : (screen.toggle pixel.plane (screen.isSpot pixel.x pixel.y)).hits false other.plane
      other.x other.y = screen.hits false other.plane other.x other.y := by
    by_cases together : pixel.plane = other.plane
    · rw [together] at existing ⊢
      refine hits_toggle existing (fun place spot => ?_) false
      refine Bool.eq_false_iff.mpr fun spot' => ?_
      rw [separate together place spot'] at spot
      cases spot
    · rw [hits, plane_toggle screen _ existing, if_neg (Ne.symm together)]
      rfl
  rw [contact, same]
  rfl

section Shaped

variable {width height count : Nat} (shaped : screen.Shaped width height count)
  (wide : screen.scale ≤ width) (high : screen.scale ≤ height)

include shaped wide high

theorem Shaped.flip_eq_contact {pixel : Pixel} (existing : pixel.plane < count)
    (x_nonneg : 0 ≤ pixel.x) (y_nonneg : 0 ≤ pixel.y) :
    screen.flip pixel.plane pixel.x pixel.y =
      (screen.toggle pixel.plane (screen.isSpot pixel.x pixel.y), .ok (screen.contact pixel)) := by
  obtain ⟨met, flipped, hit⟩ := shaped.flip_eq wide high existing x_nonneg y_nonneg false
  have clipped := clipped_iff_of_flip flipped
  suffices same : screen.contact pixel = met by rw [flipped, same]
  rw [contact, hit]
  cases met <;> simp_all

/-- Flips of separate pixels meet what was there before any of them. -/
theorem Shaped.exists_flipEach_eq {pixels : List Pixel}
    (existing : ∀ pixel ∈ pixels, pixel.plane < count)
    (nonneg : ∀ pixel ∈ pixels, 0 ≤ pixel.x ∧ 0 ≤ pixel.y)
    (separate : pixels.Pairwise screen.Separate) :
    ∃ after, screen.flipEach pixels = .ok (after, pixels.map screen.contact) := by
  induction pixels generalizing screen with
  | nil => exact ⟨screen, rfl⟩
  | cons pixel rest induction =>
      obtain ⟨first, others⟩ := List.pairwise_cons.mp separate
      obtain ⟨existing_first, existing⟩ := List.forall_mem_cons.mp existing
      obtain ⟨⟨x_nonneg, y_nonneg⟩, nonneg⟩ := List.forall_mem_cons.mp nonneg
      have flipped := shaped.flip_eq_contact wide high existing_first x_nonneg y_nonneg
      obtain ⟨after, flips⟩ := induction
        (shaped.toggle pixel.plane (screen.isSpot pixel.x pixel.y)) wide high existing nonneg others
      have exists_plane : pixel.plane < screen.planes.size := shaped.planes_size ▸ existing_first
      rw [List.map_congr_left fun other member =>
        contact_toggle exists_plane (first other member)] at flips
      refine ⟨after, ?_⟩
      simp only [flipEach, flipped, flips]
      rfl

end Shaped

end Screen

/-! ## Set bits -/

/-- A set bit of a sprite. -/
structure Dot where
  /-- Number of the plane that it is drawn on. -/
  plane : Nat
  /-- Number of its picture. -/
  picture : Nat
  /-- Row in the picture. -/
  row : Nat
  /-- Column in the picture. -/
  column : Nat
deriving DecidableEq, Repr

namespace Sprite

/-- The set bits of a sprite in the order in which they are drawn, a picture for each plane. -/
def dots (sprite : Sprite) (planes : List Nat) : List Dot :=
  planes.zipIdx.flatMap fun (plane, picture) =>
    (List.range sprite.rows).flatMap fun row =>
      ((List.range sprite.columns).filter (sprite.bit picture row)).map (Dot.mk plane picture row)

/-- The pixel that a set bit flips. -/
def pixel (sprite : Sprite) (dot : Dot) : Pixel where
  plane := dot.plane
  x := sprite.left + dot.column
  y := sprite.top + dot.row

/-- A bit lies past the right or the lower edge of a screen that does not wrap. -/
def Clips (sprite : Sprite) (row column : Nat) : Prop :=
  sprite.wraps = false ∧
    (sprite.width ≤ sprite.left + column ∨ sprite.height ≤ sprite.top + row)

/-- A bit lies over a lit cell of a plane. -/
def Touches (sprite : Sprite) (plane : Plane) (row column : Nat) : Prop :=
  ∃ px < sprite.screenWidth, ∃ py < sprite.screenHeight,
    sprite.over? px py = some (row, column) ∧ plane.lit (py * sprite.screenWidth + px) = true

variable {sprite : Sprite} {planes : List Nat}

theorem mem_dots {dot : Dot} :
    dot ∈ sprite.dots planes ↔
      planes[dot.picture]? = some dot.plane ∧ dot.row < sprite.rows ∧
        dot.column < sprite.columns ∧ sprite.bit dot.picture dot.row dot.column = true := by
  rcases dot with ⟨plane, picture, row, column⟩
  simp only [dots, List.mem_flatMap, List.mem_map, List.mem_filter, List.mem_range,
    List.mem_zipIdx_iff_getElem?, Dot.mk.injEq]
  constructor
  · rintro ⟨_, found, _, row_lt, _, ⟨column_lt, set⟩, rfl, rfl, rfl, rfl⟩
    exact ⟨found, row_lt, column_lt, set⟩
  · rintro ⟨found, row_lt, column_lt, set⟩
    exact ⟨(plane, picture), found, row, row_lt, column, ⟨column_lt, set⟩, rfl, rfl, rfl, rfl⟩

theorem nodup_dots (sprite : Sprite) (planes : List Nat) : (sprite.dots planes).Nodup := by
  have numbered := List.pairwise_map.mp (List.nodup_zipIdx_map_snd planes)
  refine List.nodup_flatMap.mpr
    ⟨fun numbering _ => ?_, numbered.imp fun ne dot member member' => ?_⟩
  · refine List.nodup_flatMap.mpr ⟨fun row _ => ?_, List.nodup_range.imp fun ne dot => ?_⟩
    · refine (List.nodup_range.filter _).map fun column column' same => ?_
      exact (Dot.mk.inj same).2.2.2
    · intro member member'
      obtain ⟨_, -, rfl⟩ := List.mem_map.mp member
      obtain ⟨_, -, same⟩ := List.mem_map.mp member'
      exact ne (Dot.mk.inj same).2.2.1.symm
  · obtain ⟨_, -, member⟩ := List.mem_flatMap.mp member
    obtain ⟨_, -, member'⟩ := List.mem_flatMap.mp member'
    obtain ⟨_, -, rfl⟩ := List.mem_map.mp member
    obtain ⟨_, -, same⟩ := List.mem_map.mp member'
    exact ne (Dot.mk.inj same).2.1.symm

end Sprite

namespace Machine.WellFormed

variable {arch : Arch} {dialect : Dialect} {machine : Machine} {x y rows : Digit}
  (wellFormed : machine.WellFormed arch dialect)

include wellFormed

/-- No two set bits of a sprite lie on the same pixel. -/
theorem separate_dots :
    let sprite := machine.sprite arch dialect x y rows
    ((sprite.dots machine.screen.selected).map sprite.pixel).Pairwise machine.screen.Separate := by
  intro sprite
  obtain ⟨wide, high⟩ := wellFormed.scale_le
  obtain ⟨narrow, low, -⟩ := wellFormed.sprite_fits x y rows
  obtain ⟨rows_eq, columns_eq⟩ := machine.sprite_size arch dialect x y rows
  have apart := wellFormed.screen.apart wide high (columns_eq ▸ narrow) (rows_eq ▸ low)
    sprite.left sprite.top
  have distinct : machine.screen.selected.Nodup := List.nodup_range.filter _
  rw [List.pairwise_map]
  refine (sprite.nodup_dots _).pairwise_of_forall_ne
    fun dot member other member' ne together place spot => Bool.eq_false_iff.mpr fun spot' => ne ?_
  obtain ⟨found, row_lt, column_lt, -⟩ := Sprite.mem_dots.mp member
  obtain ⟨found', row_lt', column_lt', -⟩ := Sprite.mem_dots.mp member'
  rw [rows_eq] at row_lt row_lt'
  rw [columns_eq] at column_lt column_lt'
  rcases dot with ⟨plane, picture, row, column⟩
  rcases other with ⟨plane', picture', row', column'⟩
  obtain rfl : plane = plane' := together
  have inside := (List.getElem?_eq_some_iff.mp found).1
  obtain rfl : picture = picture' :=
    (List.getElem?_inj inside distinct).mp (found.trans found'.symm)
  obtain ⟨rfl, rfl⟩ := apart row row_lt column column_lt row' row_lt' column' column_lt' place
    spot spot'
  rfl

/-- The pixels that drawing flips are those of the set bits. -/
theorem map_pixel_dots (fits : machine.SpriteFits arch rows) {fetched : Array UInt8}
    (pictures_eq : machine.pictures arch rows = .ok fetched) :
    let sprite := machine.sprite arch dialect x y rows
    let size := SpriteSize.ofRows arch machine.highRes rows
    (sprite.dots machine.screen.selected).map sprite.pixel =
      machine.screen.selected.zipIdx.flatMap fun (plane, picture) =>
        (List.range size.rows).flatMap
          (Screen.rowPixels size fetched sprite.left sprite.top plane picture) := by
  intro sprite size
  obtain ⟨rows_eq, columns_eq⟩ : sprite.rows = size.rows ∧ sprite.columns = size.width :=
    machine.sprite_size arch dialect x y rows
  rw [Sprite.dots, List.map_flatMap, rows_eq, columns_eq]
  refine List.flatMap_congr fun ⟨plane, picture⟩ numbered => ?_
  have picture_lt := (List.getElem?_eq_some_iff.mp (List.mem_zipIdx_iff_getElem?.mp numbered)).1
  rw [List.map_flatMap]
  refine List.flatMap_congr fun row inside => ?_
  have row_lt := List.mem_range.mp inside
  rw [List.map_map, Screen.rowPixels, List.filter_congr fun column inside =>
    (wellFormed.sets_eq_bit fits pictures_eq picture_lt row_lt (List.mem_range.mp inside)).symm]
  rfl

/-- Drawing a sprite flips the pixels of its set bits, one after the other. -/
theorem flips_draw (fits : machine.SpriteFits arch rows) {after : Machine}
    (drawn : machine.draw arch dialect x y rows = .ok after) :
    let sprite := machine.sprite arch dialect x y rows
    machine.screen.Flips ((sprite.dots machine.screen.selected).map sprite.pixel) after.screen := by
  intro sprite
  obtain ⟨wide, high⟩ := wellFormed.scale_le
  obtain ⟨left_eq, top_eq⟩ := wellFormed.sprite_corner x y rows
  obtain ⟨fetched, pictures_eq⟩ := wellFormed.exists_pictures (blockFault?_of_spriteFits fits)
  obtain ⟨screen, count, looped, -⟩ := wellFormed.screen.drawPictures wide high
    (dialect .clipCollision) (SpriteSize.ofRows arch machine.highRes rows)
    (Int.natCast_nonneg sprite.left) (Int.natCast_nonneg sprite.top) fetched
  have flips := Screen.flips_drawPictures looped
  rw [← left_eq, ← top_eq] at looped
  rw [wellFormed.draw_of_drawn pictures_eq looped] at drawn
  cases drawn
  rwa [← wellFormed.map_pixel_dots fits pictures_eq] at flips

/-- The set bits of a sprite, drawn in turn, meet what was there before all of them. -/
theorem exists_flipEach_dots (x y rows : Digit) :
    let sprite := machine.sprite arch dialect x y rows
    let dots := sprite.dots machine.screen.selected
    ∃ after, machine.screen.flipEach (dots.map sprite.pixel) =
      .ok (after, dots.map fun dot => machine.screen.contact (sprite.pixel dot)) := by
  intro sprite dots
  obtain ⟨wide, high⟩ := wellFormed.scale_le
  have existing : ∀ pixel ∈ dots.map sprite.pixel, pixel.plane < 2 :=
    List.forall_mem_map.mpr fun dot member =>
      wellFormed.screen.lt_of_selected (List.mem_of_getElem? (Sprite.mem_dots.mp member).1)
  have nonneg : ∀ pixel ∈ dots.map sprite.pixel, 0 ≤ pixel.x ∧ 0 ≤ pixel.y :=
    List.forall_mem_map.mpr fun dot _ =>
      ⟨Int.natCast_nonneg (sprite.left + dot.column), Int.natCast_nonneg (sprite.top + dot.row)⟩
  obtain ⟨after, flips⟩ := wellFormed.screen.exists_flipEach_eq wide high existing nonneg
    wellFormed.separate_dots
  exact ⟨after, by rw [flips, List.map_map]; rfl⟩

/-- What drawing a set bit meets, by where it lies. -/
theorem contact_cases {dot : Dot}
    (member : dot ∈ (machine.sprite arch dialect x y rows).dots machine.screen.selected) :
    let sprite := machine.sprite arch dialect x y rows
    let met := machine.screen.contact (sprite.pixel dot)
    sprite.Clips dot.row dot.column ∧ met = .clipped ∨
      ¬ sprite.Clips dot.row dot.column ∧
        (sprite.Touches (machine.screen.plane dot.plane) dot.row dot.column ∧ met = .collided ∨
          ¬ sprite.Touches (machine.screen.plane dot.plane) dot.row dot.column ∧ met = .free) := by
  intro sprite met
  obtain ⟨found, row_lt, column_lt, -⟩ := Sprite.mem_dots.mp member
  obtain ⟨wide, high⟩ := wellFormed.scale_le
  have existing := wellFormed.screen.lt_of_selected (List.mem_of_getElem? found)
  have clips : machine.screen.locate (sprite.pixel dot).x (sprite.pixel dot).y = .ok none ↔
      sprite.Clips dot.row dot.column := by
    refine (wellFormed.screen.locate_eq_none_iff wide high).trans ?_
    rw [wellFormed.wraps]
    rfl
  have hits : machine.screen.hits false dot.plane (sprite.left + dot.column)
        (sprite.top + dot.row) = true ↔
      sprite.Touches (machine.screen.plane dot.plane) dot.row dot.column :=
    (wellFormed.hits_iff existing row_lt column_lt false).trans
      (or_iff_left fun clipped => Bool.false_ne_true clipped.1)
  by_cases clipped : sprite.Clips dot.row dot.column
  · exact .inl ⟨clipped, if_pos (clips.mpr clipped)⟩
  · refine .inr ⟨clipped, ?_⟩
    have met_eq : met = if machine.screen.hits false dot.plane (sprite.left + dot.column)
        (sprite.top + dot.row) then .collided else .free := if_neg (clips.not.mpr clipped)
    rw [met_eq]
    by_cases touched : sprite.Touches (machine.screen.plane dot.plane) dot.row dot.column
    · exact .inl ⟨touched, if_pos (hits.mpr touched)⟩
    · exact .inr ⟨touched, if_neg (hits.not.mpr touched)⟩

end Machine.WellFormed

end Chip8
