import Chip8.Proofs.Contact
import Chip8.Proofs.Spelling

/-!
# Drawing again

Drawing flips cells, so drawing the same sprite again takes it off, and the order of two drawings
makes no difference to the screen.  A bit over a pixel that is all lit or all unlit collides in one
of two equal drawings, and a bit over a pixel that is partly lit in both.
-/

namespace Chip8

/-! ## Screens told by their cells -/

/-- A plane is told by what is lit. -/
theorem Plane.eq_of_lit {plane other : Plane} {width height : Nat}
    (sized : plane.Sized (width * height)) (sized' : other.Sized (width * height))
    (same : ∀ px < width, ∀ py < height,
      plane.lit (py * width + px) = other.lit (py * width + px)) : plane = other := by
  rcases plane with ⟨cells, size⟩
  rcases other with ⟨cells', size'⟩
  obtain rfl : size = size' := sized.addresses.trans sized'.addresses.symm
  congr 1
  refine Array.ext (sized.cells.trans sized'.cells.symm) fun place inside inside' => ?_
  have place_lt : place < width * height := sized.cells ▸ inside
  have width_pos : 0 < width := Nat.pos_of_lt_mul_right place_lt
  have cell := same (place % width) (Nat.mod_lt place width_pos) (place / width)
    (Nat.div_lt_of_lt_mul place_lt)
  rw [Nat.div_add_mod', Plane.lit_eq, Plane.lit_eq, Array.getElem?_eq_getElem inside,
    Array.getElem?_eq_getElem inside'] at cell
  exact cell

namespace Screen

theorem Repainted.selected_eq {screen after : Screen} (repainted : Repainted screen after) :
    after.selected = screen.selected := by
  rw [selected, repainted.count, repainted.mask, selected]

/-- Repainted screens are told by what is lit on the selected planes. -/
theorem Repainted.eq_of_lit {screen after other : Screen} {width height count : Nat}
    (shaped : screen.Shaped width height count) (repainted : Repainted screen after)
    (repainted' : Repainted screen other)
    (same : ∀ number ∈ screen.selected, ∀ px < width, ∀ py < height,
      (after.plane number).lit (py * width + px) = (other.plane number).lit (py * width + px)) :
    after = other := by
  have planes : after.planes = other.planes := by
    refine Array.ext (repainted.count.trans repainted'.count.symm) fun number inside inside' => ?_
    have plane_eq : after.plane number = other.plane number := by
      by_cases selected : screen.mask.testBit number = true
      · have existing : number < screen.planes.size := repainted.count ▸ inside
        have sized := shaped.planes_sized number (shaped.planes_size ▸ existing)
        refine Plane.eq_of_lit (repainted.sized number _ sized) (repainted'.sized number _ sized) ?_
        exact same number (List.mem_filter.mpr ⟨List.mem_range.mpr existing, selected⟩)
      · have unselected := Bool.eq_false_iff.mpr selected
        rw [repainted.unselected number unselected, repainted'.unselected number unselected]
    simpa [Screen.plane, inside, inside'] using plane_eq
  rcases after with ⟨_, _, _, _, _, _⟩
  rcases other with ⟨_, _, _, _, _, _⟩
  cases planes
  rw [mk.injEq]
  exact ⟨repainted.width.trans repainted'.width.symm, repainted.height.trans repainted'.height.symm,
    repainted.wraps.trans repainted'.wraps.symm, repainted.lowRes.trans repainted'.lowRes.symm,
    repainted.mask.trans repainted'.mask.symm, rfl⟩

end Screen

namespace Machine

/-- What drawing a sprite does to a machine. -/
structure Draws (arch : Arch) (dialect : Dialect) (x y rows : Digit) (before after : Machine) :
    Prop where
  /-- Only the screen and VF change. -/
  rest : ∃ value, after = { before with screen := after.screen, v := before.v.write 15 value }
  /-- The screen keeps its shape and the planes that are not selected. -/
  repainted : Screen.Repainted before.screen after.screen
  /-- On selected planes the cells below set bits are flipped. -/
  flipped : ∀ picture number, before.screen.selected[picture]? = some number →
    ∀ px < arch.screenWidth, ∀ py < arch.screenHeight,
      (after.screen.plane number).lit (py * arch.screenWidth + px) =
        ((before.screen.plane number).lit (py * arch.screenWidth + px) ^^
          (before.sprite arch dialect x y rows).inks picture px py)
  /-- The set bits are drawn in turn, and each meets what was there before all of them. -/
  met :
    let sprite := before.sprite arch dialect x y rows
    let dots := sprite.dots before.screen.selected
    before.screen.flipEach (dots.map sprite.pixel) =
      .ok (after.screen, dots.map fun dot => before.screen.contact (sprite.pixel dot))

variable {arch : Arch} {dialect : Dialect} {machine : Machine} {x y rows : Digit}

theorem WellFormed.exists_draws (wellFormed : machine.WellFormed arch dialect)
    (fits : machine.SpriteFits arch rows) (x y : Digit) :
    ∃ after, machine.draw arch dialect x y rows = .ok after ∧
      Draws arch dialect x y rows machine after := by
  obtain ⟨screen, drawn, repainted, flipped⟩ := wellFormed.draw_eq fits (x := x) (y := y)
  obtain ⟨contacts, flips⟩ := wellFormed.flips_draw fits drawn
  obtain ⟨screen', met⟩ := wellFormed.exists_flipEach_dots x y rows
  obtain ⟨rfl, rfl⟩ := Prod.mk.inj (Except.ok.inj (flips.symm.trans met))
  exact ⟨_, drawn, ⟨_, rfl⟩, repainted, flipped, met⟩

namespace Draws

variable {after : Machine} (draws : Draws arch dialect x y rows machine after)

include draws

theorem wellFormed (wellFormed : machine.WellFormed arch dialect) :
    after.WellFormed arch dialect := by
  obtain ⟨value, rest⟩ := draws.rest
  rw [rest]
  exact (wellFormed.repaint draws.repainted).setRegister 15 value

/-- A drawing changes no sprite that is placed by other registers than VF. -/
theorem sprite_eq {x' y' : Digit} (x_ne : x' ≠ 15) (y_ne : y' ≠ 15) (rows' : Digit) :
    after.sprite arch dialect x' y' rows' = machine.sprite arch dialect x' y' rows' := by
  obtain ⟨value, rest⟩ := draws.rest
  have scale : after.screen.scale = machine.screen.scale := by
    rw [Screen.scale, draws.repainted.lowRes, Screen.scale]
  rw [sprite, sprite, scale, rest]
  simp only [Registers.read_write_of_ne _ x_ne, Registers.read_write_of_ne _ y_ne]

theorem fits {rows' : Digit} (fits : machine.SpriteFits arch rows') :
    after.SpriteFits arch rows' := by
  obtain ⟨value, rest⟩ := draws.rest
  have bytes : after.spriteBytes arch rows' = machine.spriteBytes arch rows' := by
    rw [spriteBytes, draws.repainted.selected_eq, rest]
    rfl
  rw [SpriteFits, bytes, rest]
  exact fits

theorem mustWait_eq : after.mustWait dialect = machine.mustWait dialect := by
  obtain ⟨value, rest⟩ := draws.rest
  rw [rest]
  rfl

/-- A drawing after another one flips what it would flip without it. -/
theorem flipped_again {x' y' rows' : Digit} {last : Machine} (x_ne : x' ≠ 15) (y_ne : y' ≠ 15)
    (again : Draws arch dialect x' y' rows' after last) {picture number : Nat}
    (selected : machine.screen.selected[picture]? = some number) {px py : Nat}
    (px_lt : px < arch.screenWidth) (py_lt : py < arch.screenHeight) :
    (last.screen.plane number).lit (py * arch.screenWidth + px) =
      ((machine.screen.plane number).lit (py * arch.screenWidth + px) ^^
        (machine.sprite arch dialect x y rows).inks picture px py ^^
        (machine.sprite arch dialect x' y' rows').inks picture px py) := by
  rw [again.flipped picture number (draws.repainted.selected_eq ▸ selected) px px_lt py py_lt,
    draws.sprite_eq x_ne y_ne, draws.flipped picture number selected px px_lt py py_lt]

end Draws

/-- Drawing a sprite a second time takes it off. -/
theorem WellFormed.screen_redrawn (wellFormed : machine.WellFormed arch dialect)
    {drawn redrawn : Machine} (x_ne : x ≠ 15) (y_ne : y ≠ 15)
    (first : Draws arch dialect x y rows machine drawn)
    (second : Draws arch dialect x y rows drawn redrawn) : redrawn.screen = machine.screen := by
  refine (first.repainted.trans second.repainted).eq_of_lit wellFormed.screen (.refl _) ?_
  intro number member px px_lt py py_lt
  obtain ⟨picture, selected⟩ := List.getElem?_of_mem member
  rw [first.flipped_again x_ne y_ne second selected px_lt py_lt, Bool.xor_assoc, Bool.xor_self,
    Bool.xor_false]

/-- The order of two drawings makes no difference to the screen. -/
theorem WellFormed.screen_reordered (wellFormed : machine.WellFormed arch dialect)
    {x' y' rows' : Digit} (x_ne : x ≠ 15) (y_ne : y ≠ 15) (x_ne' : x' ≠ 15) (y_ne' : y' ≠ 15)
    {one both other both' : Machine} (first : Draws arch dialect x y rows machine one)
    (second : Draws arch dialect x' y' rows' one both)
    (first' : Draws arch dialect x' y' rows' machine other)
    (second' : Draws arch dialect x y rows other both') : both.screen = both'.screen := by
  refine (first.repainted.trans second.repainted).eq_of_lit wellFormed.screen
    (first'.repainted.trans second'.repainted) ?_
  intro number member px px_lt py py_lt
  obtain ⟨picture, selected⟩ := List.getElem?_of_mem member
  rw [first.flipped_again x_ne' y_ne' second selected px_lt py_lt,
    first'.flipped_again x_ne y_ne second' selected px_lt py_lt, Bool.xor_right_comm]

end Machine

/-! ## Bits that are drawn again -/

theorem Screen.exists_land? {wraps : Bool} {side position : Nat} (side_pos : 0 < side)
    (kept : wraps = false → position < side) :
    ∃ place < side, land? wraps side position = some place := by
  cases wraps
  · exact ⟨position, kept rfl, if_pos (kept rfl)⟩
  · exact ⟨position % side, Nat.mod_lt position side_pos, rfl⟩

namespace Sprite

/-- The cells below a bit are all lit or all unlit. -/
def Uniform (sprite : Sprite) (plane : Plane) (row column : Nat) : Prop :=
  ∃ lit, ∀ px < sprite.screenWidth, ∀ py < sprite.screenHeight,
    sprite.over? px py = some (row, column) → plane.lit (py * sprite.screenWidth + px) = lit

/-- What a set bit meets when a sprite is drawn on a plane, and when it is drawn again. -/
structure Redraws (sprite : Sprite) (plane : Plane) (row column : Nat) (first second : Contact) :
    Prop where
  /-- A clipped bit is clipped both times. -/
  clipped : sprite.Clips row column → first = .clipped ∧ second = .clipped
  /-- Over a uniform pixel it collides exactly once. -/
  uniform : ¬ sprite.Clips row column → sprite.Uniform plane row column →
    first = .collided ∧ second = .free ∨ first = .free ∧ second = .collided
  /-- Over any other pixel it collides both times. -/
  mixed : ¬ sprite.Clips row column → ¬ sprite.Uniform plane row column →
    first = .collided ∧ second = .collided

variable {sprite : Sprite} {plane drawn : Plane} {row column : Nat}

/-- Once the cells below a bit are flipped, it touches a cell that was unlit before. -/
theorem touches_flipped_iff
    (flipped : ∀ px < sprite.screenWidth, ∀ py < sprite.screenHeight,
      sprite.over? px py = some (row, column) → drawn.lit (py * sprite.screenWidth + px) =
        !plane.lit (py * sprite.screenWidth + px)) :
    sprite.Touches drawn row column ↔
      ∃ px < sprite.screenWidth, ∃ py < sprite.screenHeight,
        sprite.over? px py = some (row, column) ∧
          plane.lit (py * sprite.screenWidth + px) = false := by
  refine exists_congr fun px => and_congr_right fun px_lt => exists_congr fun py =>
    and_congr_right fun py_lt => and_congr_right fun below => ?_
  rw [flipped px px_lt py py_lt below, Bool.not_eq_true']

theorem exists_unlit_iff_of_uniform (uniform : sprite.Uniform plane row column)
    (shown : ∃ px < sprite.screenWidth, ∃ py < sprite.screenHeight,
      sprite.over? px py = some (row, column)) :
    (∃ px < sprite.screenWidth, ∃ py < sprite.screenHeight,
      sprite.over? px py = some (row, column) ∧
        plane.lit (py * sprite.screenWidth + px) = false) ↔
      ¬ sprite.Touches plane row column := by
  obtain ⟨lit, uniform⟩ := uniform
  obtain ⟨px, px_lt, py, py_lt, below⟩ := shown
  constructor
  · rintro ⟨px, px_lt, py, py_lt, below, unlit⟩ ⟨px', px_lt', py', py_lt', below', touched⟩
    rw [uniform px px_lt py py_lt below] at unlit
    rw [uniform px' px_lt' py' py_lt' below', unlit] at touched
    cases touched
  · intro untouched
    refine ⟨px, px_lt, py, py_lt, below, Bool.eq_false_iff.mpr fun touched => ?_⟩
    exact untouched ⟨px, px_lt, py, py_lt, below, touched⟩

theorem touches_of_not_uniform (mixed : ¬ sprite.Uniform plane row column) :
    sprite.Touches plane row column := by
  by_contra untouched
  refine mixed ⟨false, fun px px_lt py py_lt below => Bool.eq_false_iff.mpr fun lit => ?_⟩
  exact untouched ⟨px, px_lt, py, py_lt, below, lit⟩

theorem exists_unlit_of_not_uniform (mixed : ¬ sprite.Uniform plane row column) :
    ∃ px < sprite.screenWidth, ∃ py < sprite.screenHeight,
      sprite.over? px py = some (row, column) ∧
        plane.lit (py * sprite.screenWidth + px) = false := by
  by_contra all_lit
  refine mixed ⟨true, fun px px_lt py py_lt below => ?_⟩
  by_contra unlit
  exact all_lit ⟨px, px_lt, py, py_lt, below, Bool.eq_false_iff.mpr unlit⟩

end Sprite

namespace Machine

variable {arch : Arch} {dialect : Dialect} {machine : Machine} {x y rows : Digit}

namespace WellFormed

section Below

variable (wellFormed : machine.WellFormed arch dialect) {row column : Nat}
  (row_lt : row < (machine.sprite arch dialect x y rows).rows)
  (column_lt : column < (machine.sprite arch dialect x y rows).columns)

include wellFormed row_lt column_lt

/-- Which pixel a cell has to belong to for a bit to lie over it. -/
theorem over?_eq_some_iff_land? {px py : Nat} (px_lt : px < arch.screenWidth)
    (py_lt : py < arch.screenHeight) :
    let sprite := machine.sprite arch dialect x y rows
    sprite.over? px py = some (row, column) ↔
      Screen.land? sprite.wraps sprite.height (sprite.top + row) = some (py / sprite.scale) ∧
        Screen.land? sprite.wraps sprite.width (sprite.left + column) =
          some (px / sprite.scale) := by
  intro sprite
  obtain ⟨wide, high⟩ := wellFormed.scale_le
  obtain ⟨py_eq, px_eq⟩ := Screen.block_position py px_lt
  refine (wellFormed.isSpot_iff_over px_lt py_lt row_lt column_lt).symm.trans ?_
  rw [← Nat.cast_add, ← Nat.cast_add, wellFormed.screen.isSpot_iff wide high, py_eq, px_eq,
    wellFormed.wraps, and_comm]
  rfl

/-- A bit that is not clipped lies over some cell. -/
theorem exists_over
    (kept : ¬ (machine.sprite arch dialect x y rows).Clips row column) :
    let sprite := machine.sprite arch dialect x y rows
    ∃ px < sprite.screenWidth, ∃ py < sprite.screenHeight,
      sprite.over? px py = some (row, column) := by
  intro sprite
  obtain ⟨wide, high⟩ := wellFormed.scale_le
  obtain ⟨-, -, width_pos, height_pos⟩ := wellFormed.screen.logical_eq wide high
  obtain ⟨width_whole, height_whole⟩ : sprite.width * sprite.scale = arch.screenWidth ∧
    sprite.height * sprite.scale = arch.screenHeight := wellFormed.sprite_whole
  have scale_pos : 0 < sprite.scale := machine.screen.scale_pos
  have inside (cut : sprite.wraps = false) :
      sprite.left + column < sprite.width ∧ sprite.top + row < sprite.height := by
    rw [← Nat.not_le, ← Nat.not_le, ← not_or]
    exact fun outside => kept ⟨cut, outside⟩
  obtain ⟨across, across_lt, landed⟩ := Screen.exists_land? width_pos fun cut => (inside cut).1
  obtain ⟨down, down_lt, landed'⟩ := Screen.exists_land? height_pos fun cut => (inside cut).2
  have px_lt : across * sprite.scale < arch.screenWidth :=
    width_whole ▸ Nat.mul_lt_mul_of_pos_right across_lt scale_pos
  have py_lt : down * sprite.scale < arch.screenHeight :=
    height_whole ▸ Nat.mul_lt_mul_of_pos_right down_lt scale_pos
  refine ⟨_, px_lt, _, py_lt,
    (wellFormed.over?_eq_some_iff_land? row_lt column_lt px_lt py_lt).mpr ⟨?_, ?_⟩⟩
  · rw [Nat.mul_div_cancel _ scale_pos]
    exact landed'
  · rw [Nat.mul_div_cancel _ scale_pos]
    exact landed

/-- A pixel of a single cell is uniform. -/
theorem uniform_of_scale (single : machine.screen.scale = 1) (plane : Plane) :
    (machine.sprite arch dialect x y rows).Uniform plane row column := by
  by_cases shown : ∃ px < arch.screenWidth, ∃ py < arch.screenHeight,
    (machine.sprite arch dialect x y rows).over? px py = some (row, column)
  · obtain ⟨px, px_lt, py, py_lt, below⟩ := shown
    refine ⟨plane.lit (py * arch.screenWidth + px), fun px' px_lt' py' py_lt' below' => ?_⟩
    obtain ⟨down, across⟩ :=
      (wellFormed.over?_eq_some_iff_land? row_lt column_lt px_lt py_lt).mp below
    obtain ⟨down', across'⟩ :=
      (wellFormed.over?_eq_some_iff_land? row_lt column_lt px_lt' py_lt').mp below'
    have scale_eq : (machine.sprite arch dialect x y rows).scale = 1 := single
    have same_px := Option.some.inj (across.symm.trans across')
    have same_py := Option.some.inj (down.symm.trans down')
    rw [scale_eq, Nat.div_one, Nat.div_one] at same_px same_py
    rw [same_px, same_py]
    rfl
  · exact ⟨false, fun px px_lt py py_lt below => (shown ⟨px, px_lt, py, py_lt, below⟩).elim⟩

end Below

/-- What a set bit meets when its sprite is drawn, and when it is drawn again. -/
theorem redraws (wellFormed : machine.WellFormed arch dialect) {drawn : Machine} (x_ne : x ≠ 15)
    (y_ne : y ≠ 15) (first : Draws arch dialect x y rows machine drawn) {dot : Dot}
    (member : dot ∈ (machine.sprite arch dialect x y rows).dots machine.screen.selected) :
    let sprite := machine.sprite arch dialect x y rows
    sprite.Redraws (machine.screen.plane dot.plane) dot.row dot.column
      (machine.screen.contact (sprite.pixel dot)) (drawn.screen.contact (sprite.pixel dot)) := by
  intro sprite
  obtain ⟨found, row_lt, column_lt, set⟩ := Sprite.mem_dots.mp member
  have same : drawn.sprite arch dialect x y rows = sprite := first.sprite_eq x_ne y_ne rows
  have before := wellFormed.contact_cases member
  have member' : dot ∈ (drawn.sprite arch dialect x y rows).dots drawn.screen.selected := by
    rw [same, first.repainted.selected_eq]
    exact member
  have after := (first.wellFormed wellFormed).contact_cases member'
  rw [same] at after
  have flipped : ∀ px < sprite.screenWidth, ∀ py < sprite.screenHeight,
      sprite.over? px py = some (dot.row, dot.column) →
        (drawn.screen.plane dot.plane).lit (py * sprite.screenWidth + px) =
          !(machine.screen.plane dot.plane).lit (py * sprite.screenWidth + px) := by
    intro px px_lt py py_lt below
    have inked := Sprite.inks_eq_true_iff.mpr ⟨_, row_lt, _, column_lt, below, set⟩
    have changed := first.flipped dot.picture dot.plane found px px_lt py py_lt
    rwa [inked, Bool.xor_true] at changed
  have touched_again := Sprite.touches_flipped_iff flipped
  refine ⟨fun clips => ?_, fun kept uniform => ?_, fun kept mixed => ?_⟩
  · exact ⟨(before.resolve_right fun other => other.1 clips).2,
      (after.resolve_right fun other => other.1 clips).2⟩
  · obtain ⟨-, before⟩ := before.resolve_left fun other => kept other.1
    obtain ⟨-, after⟩ := after.resolve_left fun other => kept other.1
    have shown := wellFormed.exists_over row_lt column_lt kept
    have once := touched_again.trans (Sprite.exists_unlit_iff_of_uniform uniform shown)
    rcases before with ⟨touched, met⟩ | ⟨untouched, met⟩
    · exact .inl ⟨met, (after.resolve_left fun other => once.mp other.1 touched).2⟩
    · exact .inr ⟨met, (after.resolve_right fun other => other.1 (once.mpr untouched)).2⟩
  · obtain ⟨-, before⟩ := before.resolve_left fun other => kept other.1
    obtain ⟨-, after⟩ := after.resolve_left fun other => kept other.1
    have touched := Sprite.touches_of_not_uniform mixed
    have again := touched_again.mpr (Sprite.exists_unlit_of_not_uniform mixed)
    exact ⟨(before.resolve_right fun other => other.1 touched).2,
      (after.resolve_right fun other => other.1 again).2⟩

end WellFormed

end Machine

/-! ## The instruction -/

namespace Processor

variable {arch : Arch} {dialect : Dialect} {processor : Processor} {x y rows : Digit}

-- As for other words, the numbers stay variables.
section Execute

variable (wellFormed : processor.machine.WellFormed processor.arch processor.dialect)
  (goes : processor.machine.mustWait processor.dialect = false)
  (fits : processor.machine.SpriteFits processor.arch rows) {opcode : Nat}
  (spelled : opcode = 0xD000 + x * 0x100 + y * 0x10 + rows)

include wellFormed goes fits spelled

theorem exists_execute_draws :
    ∃ after lines, processor.execute opcode =
        ⟨{ processor with opcode, machine := after }, lines, .ok ()⟩ ∧
      Machine.Draws processor.arch processor.dialect x y rows processor.machine after := by
  obtain ⟨after, drawn, draws⟩ := wellFormed.exists_draws fits x y
  obtain ⟨word, named, reading⟩ := Word.exists_decode_draw processor.arch x y rows
  rw [← spelled] at named
  obtain ⟨lines, executed⟩ := exists_execute_eq wellFormed.v named reading
  refine ⟨after, lines, ?_, draws⟩
  rw [Machine.perform_draw wellFormed.v (by rw [goes]; exact nofun) drawn] at executed
  exact executed

theorem execute_draws :
    (processor.execute opcode).result = .ok () ∧
      Machine.Draws processor.arch processor.dialect x y rows processor.machine
        (processor.execute opcode).processor.machine := by
  obtain ⟨after, lines, executed, draws⟩ := exists_execute_draws wellFormed goes fits spelled
  rw [executed]
  exact ⟨rfl, draws⟩

/-- After a drawing, whatever could be drawn before still can. -/
theorem execute_draws_again {x' y' rows' : Digit}
    (fits' : processor.machine.SpriteFits processor.arch rows') {opcode' : Nat}
    (spelled' : opcode' = 0xD000 + x' * 0x100 + y' * 0x10 + rows') :
    let drawn := (processor.execute opcode).processor
    (drawn.execute opcode').result = .ok () ∧
      Machine.Draws processor.arch processor.dialect x' y' rows' drawn.machine
        (drawn.execute opcode').processor.machine := by
  obtain ⟨after, lines, executed, draws⟩ := exists_execute_draws wellFormed goes fits spelled
  rw [executed]
  exact execute_draws (draws.wellFormed wellFormed) (draws.mustWait_eq.trans goes)
    (draws.fits fits') spelled'

end Execute

/-- Drawing instructions that are placed by other registers than VF undo themselves and commute.
When one is carried out twice, the screen is as before, and a set bit that is not clipped collides
once if the pixel that it lies over is all lit or all unlit at first, as a pixel of one cell always
is, and twice if not.  Two of them leave the same screen in either order. -/
theorem Reachable.redrawn (reachable : processor.Reachable arch dialect) (x_ne : x ≠ 15)
    (y_ne : y ≠ 15) (goes : processor.machine.mustWait dialect = false)
    (fits : processor.machine.SpriteFits arch rows) :
    let opcode (x y rows : Digit) : Nat := 0xD000 + x * 0x100 + y * 0x10 + rows
    let machine := processor.machine
    let sprite := machine.sprite arch dialect x y rows
    let dots := sprite.dots machine.screen.selected
    let drawn := processor.execute (opcode x y rows)
    let redrawn := drawn.processor.execute (opcode x y rows)
    (drawn.result = .ok () ∧ redrawn.result = .ok () ∧
      redrawn.processor.machine.screen = machine.screen) ∧
    (∃ first second : Dot → Contact,
      machine.screen.flipEach (dots.map sprite.pixel) =
        .ok (drawn.processor.machine.screen, dots.map first) ∧
      drawn.processor.machine.screen.flipEach (dots.map sprite.pixel) =
        .ok (redrawn.processor.machine.screen, dots.map second) ∧
      ∀ dot ∈ dots,
        sprite.Redraws (machine.screen.plane dot.plane) dot.row dot.column (first dot)
          (second dot)) ∧
    (machine.screen.scale = 1 → ∀ dot ∈ dots,
      sprite.Uniform (machine.screen.plane dot.plane) dot.row dot.column) ∧
    ∀ x' y' rows' : Digit, x' ≠ 15 → y' ≠ 15 → machine.SpriteFits arch rows' →
      let other := processor.execute (opcode x' y' rows')
      let both := drawn.processor.execute (opcode x' y' rows')
      let both' := other.processor.execute (opcode x y rows)
      other.result = .ok () ∧ both.result = .ok () ∧ both'.result = .ok () ∧
        both.processor.machine.screen = both'.processor.machine.screen := by
  intro opcode
  have spelled (x y rows : Digit) : opcode x y rows = 0xD000 + x * 0x100 + y * 0x10 + rows := rfl
  clear_value opcode
  dsimp only
  have wellFormed := reachable.wellFormed
  obtain rfl := reachable.arch_eq
  obtain rfl := reachable.dialect_eq
  obtain ⟨result, draws⟩ := execute_draws wellFormed goes fits (spelled x y rows)
  obtain ⟨again, redraws⟩ :=
    execute_draws_again wellFormed goes fits (spelled x y rows) fits (spelled x y rows)
  refine ⟨⟨result, again, wellFormed.screen_redrawn x_ne y_ne draws redraws⟩,
    ⟨_, _, draws.met, ?_, fun dot member => wellFormed.redraws x_ne y_ne draws member⟩,
    fun single dot member => ?_, fun x' y' rows' x_ne' y_ne' fits' => ?_⟩
  · have met := redraws.met
    rwa [draws.repainted.selected_eq, draws.sprite_eq x_ne y_ne] at met
  · obtain ⟨-, row_lt, column_lt, -⟩ := Sprite.mem_dots.mp member
    exact wellFormed.uniform_of_scale row_lt column_lt single _
  · obtain ⟨result', draws'⟩ := execute_draws wellFormed goes fits' (spelled x' y' rows')
    obtain ⟨after, second⟩ :=
      execute_draws_again wellFormed goes fits (spelled x y rows) fits' (spelled x' y' rows')
    obtain ⟨after', second'⟩ :=
      execute_draws_again wellFormed goes fits' (spelled x' y' rows') fits (spelled x y rows)
    exact ⟨result', after, after',
      wellFormed.screen_reordered x_ne y_ne x_ne' y_ne' draws second draws' second'⟩

/-- A sprite drawn twice on a screen that was just switched on, and two in either order. -/
theorem redrawn_on_blank :
    let processor := powerOn .xoChip (.standard .xoChip) false []
    processor.Reachable .xoChip (.standard .xoChip) ∧
      (0 : Digit) ≠ 15 ∧ (1 : Digit) ≠ 15 ∧
      processor.machine.mustWait (.standard .xoChip) = false ∧
      processor.machine.SpriteFits .xoChip 5 ∧
      ((processor.execute 0xD015).processor.execute 0xD015).processor.machine.screen =
        processor.machine.screen ∧
      ((processor.execute 0xD015).processor.execute 0xD123).processor.machine.screen =
        ((processor.execute 0xD123).processor.execute 0xD015).processor.machine.screen := by
  intro processor
  have reachable := Reachable.powerOn .xoChip (.standard .xoChip) false []
  have x_ne : (0 : Digit) ≠ 15 := by decide
  have y_ne : (1 : Digit) ≠ 15 := by decide
  have goes : processor.machine.mustWait (.standard .xoChip) = false := rfl
  have fits : processor.machine.SpriteFits .xoChip 5 := Or.inr (by decide +kernel)
  have fits' : processor.machine.SpriteFits .xoChip 3 := Or.inr (by decide +kernel)
  have first : ((0xD000 + (0 : Digit) * 0x100 + (1 : Digit) * 0x10 + (5 : Digit) : Nat) : Int) =
    0xD015 := rfl
  have second : ((0xD000 + (1 : Digit) * 0x100 + (2 : Digit) * 0x10 + (3 : Digit) : Nat) : Int) =
    0xD123 := rfl
  obtain ⟨⟨-, -, restored⟩, -, -, commutes⟩ := reachable.redrawn x_ne y_ne goes fits
  obtain ⟨-, -, -, same⟩ := commutes 1 2 3 (by decide) (by decide) fits'
  dsimp only at restored same
  rw [first] at restored same
  rw [second] at same
  exact ⟨reachable, x_ne, y_ne, goes, fits, restored, same⟩

end Processor

end Chip8
