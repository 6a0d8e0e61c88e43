import Mathlib.Algebra.Order.BigOperators.Group.List
import Mathlib.Data.List.Induction
import Chip8.Proofs.FrameDrawing
import Chip8.Proofs.Scrolling
import Chip8.Proofs.Stamp

/-!
# What a drawing instruction draws

A sprite is told by what the program sees: the numbers in the instruction, two registers and the
memory at I.  A drawing instruction flips exactly the cells that lie below its set bits, and what it
reports can be told from the screen before.
-/

namespace Chip8

/-- How far a position on a side of the screen lies behind a start, around the edge if the screen
wraps. -/
def Screen.behind? (wraps : Bool) (side start position : Nat) : Option Nat :=
  if wraps then some (((position : Int) - start) % side).toNat
  else if start ≤ position then some (position - start)
  else none

/-- A sprite and the screen that it is drawn on. -/
structure Sprite where
  /-- Rows of a picture. -/
  rows : Nat
  /-- Columns of a picture. -/
  columns : Nat
  /-- The bytes of the pictures, which lie one after the other. -/
  bytes : Nat → UInt8
  /-- The logical column asked for. -/
  x : Nat
  /-- The logical row asked for. -/
  y : Nat
  /-- Physical width of the screen. -/
  screenWidth : Nat
  /-- Physical height of the screen. -/
  screenHeight : Nat
  /-- Cells along one side of a logical pixel. -/
  scale : Nat
  /-- Whether the screen wraps. -/
  wraps : Bool

namespace Sprite

/-- Logical width of the screen. -/
def width (sprite : Sprite) : Nat := sprite.screenWidth / sprite.scale

/-- Logical height of the screen. -/
def height (sprite : Sprite) : Nat := sprite.screenHeight / sprite.scale

/-- The logical column of the left edge. -/
def left (sprite : Sprite) : Nat := sprite.x % sprite.width

/-- The logical row of the upper edge. -/
def top (sprite : Sprite) : Nat := sprite.y % sprite.height

/-- The bit of a picture in a row and a column, both from the upper left corner. -/
def bit (sprite : Sprite) (picture row column : Nat) : Bool :=
  let rowBytes := sprite.columns / 8
  let offset := picture * (sprite.rows * rowBytes) + row * rowBytes + column / 8
  (sprite.bytes offset).toNat.testBit (7 - column % 8)

/-- The row and column of a picture that come to lie over a cell. -/
def over? (sprite : Sprite) (px py : Nat) : Option (Nat × Nat) :=
  match Screen.behind? sprite.wraps sprite.height sprite.top (py / sprite.scale),
    Screen.behind? sprite.wraps sprite.width sprite.left (px / sprite.scale) with
  | some row, some column => some (row, column)
  | _, _ => none

/-- Whether a picture sets a bit over a cell. -/
def inks (sprite : Sprite) (picture px py : Nat) : Bool :=
  match sprite.over? px py with
  | some (row, column) =>
      row < sprite.rows && column < sprite.columns && sprite.bit picture row column
  | none => false

/-- A set bit of a row lies over a lit cell of a plane, or is clipped and that counts. -/
def Collides (sprite : Sprite) (countClipped : Bool) (plane : Plane) (picture row : Nat) : Prop :=
  ∃ column < sprite.columns, sprite.bit picture row column = true ∧
    ((∃ px < sprite.screenWidth, ∃ py < sprite.screenHeight,
        sprite.over? px py = some (row, column) ∧
          plane.lit (py * sprite.screenWidth + px) = true) ∨
      countClipped = true ∧ sprite.wraps = false ∧
        (sprite.width ≤ sprite.left + column ∨ sprite.height ≤ sprite.top + row))

instance (sprite : Sprite) (countClipped : Bool) (plane : Plane) (picture row : Nat) :
    Decidable (sprite.Collides countClipped plane picture row) :=
  inferInstanceAs (Decidable (∃ column < sprite.columns, _ ∧ _))

/-- Number of rows that collide, over all pictures, each drawn on its own plane. -/
def collisions (sprite : Sprite) (countClipped : Bool) (planes : List Plane) : Nat :=
  (planes.mapIdx fun picture plane =>
    (List.range sprite.rows).countP fun row =>
      sprite.Collides countClipped plane picture row).sum

end Sprite

/-- The sprite that a drawing instruction asks for. -/
def Machine.sprite (arch : Arch) (dialect : Dialect) (machine : Machine) (x y rows : Digit) :
    Sprite where
  rows := if rows ≠ 0 then rows else if arch = .chip8 then 0 else 16
  columns :=
    if rows = 0 ∧ (arch = .xoChip ∨ arch = .superChip ∧ machine.highRes) then 16 else 8
  bytes offset := machine.memory.cells.getD (machine.index.toNat + offset) 0
  x := (machine.v.read x).toNat
  y := (machine.v.read y).toNat
  screenWidth := arch.screenWidth
  screenHeight := arch.screenHeight
  scale := machine.screen.scale
  wraps := !dialect .clipping

/-! ## Bits in memory -/

/-- The bits of a number that a block spells are those of its bytes, one after the other. -/
theorem Memory.testBit_bigEndian (block : Array UInt8) {column : Nat}
    (inside : column < 8 * block.size) :
    (Memory.bigEndian block).testBit (8 * block.size - 1 - column) =
      (block.getD (column / 8) 0).toNat.testBit (7 - column % 8) := by
  -- The number of a block is that of all bytes but the last, shifted past the last.
  obtain ⟨bytes⟩ := block
  induction bytes using List.reverseRecOn generalizing column with
  | nil => cases inside
  | append_singleton bytes last induction =>
      have spelled : bigEndian ⟨bytes ++ [last]⟩ = 2 ^ 8 * bigEndian ⟨bytes⟩ + last.toNat := by
        simp only [bigEndian, List.foldl_toArray', List.foldl_append, List.foldl_cons,
          List.foldl_nil]
        omega
      have sized : (⟨bytes ++ [last]⟩ : Array UInt8).size = bytes.length + 1 := by simp
      have byte_lt : last.toNat < 2 ^ 8 := last.toNat_lt
      rw [sized] at inside
      rw [spelled, sized, Nat.testBit_two_pow_mul_add _ byte_lt]
      by_cases before : column < 8 * bytes.length
      · have early : column / 8 < bytes.length := by omega
        rw [if_neg (by omega), show 8 * (bytes.length + 1) - 1 - column - 8 =
          8 * bytes.length - 1 - column by omega]
        refine (induction before).trans ?_
        simp [Array.getD_eq_getD_getElem?, List.getElem?_append_left early]
      · have late : column / 8 = bytes.length := by omega
        rw [if_pos (by omega), show 8 * (bytes.length + 1) - 1 - column = 7 - column % 8 by omega,
          late]
        simp

theorem SpriteSize.sets_eq (size : SpriteSize) (pictures : Array UInt8)
    {picture row column : Nat} (column_lt : column < size.width)
    (inside : picture * size.bytes + row * size.rowBytes + size.rowBytes ≤ pictures.size) :
    size.sets pictures picture row column =
      (pictures.getD (picture * size.bytes + row * size.rowBytes + column / 8) 0).toNat.testBit
        (7 - column % 8) := by
  have width_eq : size.width = 8 * size.rowBytes := rfl
  have block_size : (pictures.extract (picture * size.bytes + row * size.rowBytes)
      (picture * size.bytes + row * size.rowBytes + size.rowBytes)).size = size.rowBytes := by
    rw [Array.size_extract, Nat.min_eq_left inside, Nat.add_sub_cancel_left]
  have bit := Memory.testBit_bigEndian
    (pictures.extract (picture * size.bytes + row * size.rowBytes)
      (picture * size.bytes + row * size.rowBytes + size.rowBytes))
    (show column < 8 * _ by rw [block_size]; exact column_lt)
  rw [block_size] at bit
  rw [sets, bits, width_eq, bit, Array.getD_eq_getD_getElem?, Array.getElem?_extract,
    Array.getD_eq_getD_getElem?, if_pos (by omega)]

/-! ## Places -/

theorem Screen.behind?_eq_some_iff {wraps : Bool} {side start position distance : Nat}
    (start_lt : start < side) (position_lt : position < side) (distance_lt : distance < side) :
    behind? wraps side start position = some distance ↔
      land? wraps side (start + distance) = some position := by
  rw [behind?, land?]
  cases wraps
  · simp only [Bool.false_eq_true, if_false, Option.ite_none_right_eq_some, Option.some_inj]
    omega
  · have forth (after : start ≤ position) :
        ((position : Int) - start) % side = (position - start : Nat) := by
      rw [Int.emod_eq_of_lt (by omega) (by omega)]
      omega
    have back (before : position < start) :
        ((position : Int) - start) % side = (position + side - start : Nat) := by
      rw [← Int.add_emod_right, Int.emod_eq_of_lt (by omega) (by omega)]
      omega
    have inside (short : start + distance < side) : (start + distance) % side = start + distance :=
      Nat.mod_eq_of_lt short
    have past (long : side ≤ start + distance) :
        (start + distance) % side = start + distance - side := by
      rw [Nat.mod_eq_sub_mod long, Nat.mod_eq_of_lt (by omega)]
    simp only [if_true, Option.some_inj]
    rcases Nat.lt_or_ge position start with before | after <;>
      rcases Nat.lt_or_ge (start + distance) side with short | long
    · rw [back before, inside short]
      omega
    · rw [back before, past long]
      omega
    · rw [forth after, inside short]
      omega
    · rw [forth after, past long]
      omega

namespace Sprite

variable {sprite : Sprite} {px py row column : Nat}

theorem over?_eq_some_iff :
    sprite.over? px py = some (row, column) ↔
      Screen.behind? sprite.wraps sprite.height sprite.top (py / sprite.scale) = some row ∧
        Screen.behind? sprite.wraps sprite.width sprite.left (px / sprite.scale) = some column := by
  rw [over?]
  rcases Screen.behind? sprite.wraps sprite.height sprite.top (py / sprite.scale) with _ | row' <;>
    rcases Screen.behind? sprite.wraps sprite.width sprite.left (px / sprite.scale) with
      _ | column' <;> simp

theorem inks_eq_true_iff {picture : Nat} :
    sprite.inks picture px py = true ↔
      ∃ row < sprite.rows, ∃ column < sprite.columns,
        sprite.over? px py = some (row, column) ∧ sprite.bit picture row column = true := by
  rw [inks]
  rcases sprite.over? px py with _ | ⟨row, column⟩
  · simp
  · simp only [Bool.and_eq_true, decide_eq_true_eq, Option.some_inj, Prod.mk.injEq]
    constructor
    · rintro ⟨⟨row_lt, column_lt⟩, set⟩
      exact ⟨row, row_lt, column, column_lt, ⟨rfl, rfl⟩, set⟩
    · rintro ⟨_, row_lt, _, column_lt, ⟨rfl, rfl⟩, set⟩
      exact ⟨⟨row_lt, column_lt⟩, set⟩

/-- The upper left bit of a sprite in the upper left corner. -/
theorem inks_corner (sprite : Sprite) (x : sprite.x = 0) (y : sprite.y = 0)
    (rows : 0 < sprite.rows) (columns : 0 < sprite.columns) :
    sprite.inks 0 0 0 = (sprite.bytes 0).toNat.testBit 7 := by
  have behind (side : Nat) : Screen.behind? sprite.wraps side 0 0 = some 0 := by
    rw [Screen.behind?]
    split <;> simp
  have corner : sprite.over? 0 0 = some (0, 0) := by
    simp only [over?, left, top, x, y, Nat.zero_mod, Nat.zero_div, behind]
  simp [inks, corner, rows, columns, bit]

end Sprite

namespace Machine

variable {arch : Arch} {dialect : Dialect} {machine : Machine} {x y rows : Digit}

theorem sprite_size (arch : Arch) (dialect : Dialect) (machine : Machine) (x y rows : Digit) :
    (machine.sprite arch dialect x y rows).rows =
        (SpriteSize.ofRows arch machine.highRes rows).rows ∧
      (machine.sprite arch dialect x y rows).columns =
        (SpriteSize.ofRows arch machine.highRes rows).width := by
  simp only [sprite, SpriteSize.ofRows]
  by_cases none : rows = 0
  · cases arch <;> cases machine.highRes <;> simp [none, Arch.includes, Arch.code, SpriteSize.width]
  · simp [none, SpriteSize.width]

/-- A sprite is no larger than any screen. -/
theorem WellFormed.sprite_fits (wellFormed : machine.WellFormed arch dialect) (x y rows : Digit) :
    let sprite := machine.sprite arch dialect x y rows
    sprite.columns ≤ sprite.width ∧ sprite.rows ≤ sprite.height ∧ sprite.rows ≤ 16 := by
  intro sprite
  have columns_le : sprite.columns ≤ 16 := by
    show (if _ then 16 else 8) ≤ 16
    split <;> decide
  have rows_le : sprite.rows ≤ 16 := by
    show (if _ then rows.val else if _ then 0 else 16) ≤ 16
    split
    · exact Nat.le_of_lt rows.isLt
    · split <;> decide
  have sides : 16 ≤ arch.screenWidth / machine.screen.scale ∧
      16 ≤ arch.screenHeight / machine.screen.scale := by
    rw [wellFormed.scale_eq]
    cases arch <;> cases machine.highRes <;> decide
  exact ⟨columns_le.trans sides.1, rows_le.trans sides.2, rows_le⟩

theorem WellFormed.sprite_corner (wellFormed : machine.WellFormed arch dialect)
    (x y rows : Digit) :
    let sprite := machine.sprite arch dialect x y rows
    Int.fmod (machine.v.read x).toNat machine.screen.logicalWidth = sprite.left ∧
      Int.fmod (machine.v.read y).toNat machine.screen.logicalHeight = sprite.top := by
  obtain ⟨wide, high⟩ := wellFormed.scale_le
  obtain ⟨width_eq, height_eq, -⟩ := wellFormed.screen.logical_eq wide high
  rw [width_eq, height_eq, Int.fmod_eq_emod_of_nonneg _ (Int.natCast_nonneg _),
    Int.fmod_eq_emod_of_nonneg _ (Int.natCast_nonneg _)]
  exact ⟨(Int.natCast_emod _ _).symm, (Int.natCast_emod _ _).symm⟩

/-! ## Cells below a sprite -/

section Below

variable (wellFormed : machine.WellFormed arch dialect) {px py row column picture number : Nat}

include wellFormed

theorem WellFormed.sprite_whole :
    let sprite := machine.sprite arch dialect x y rows
    sprite.width * sprite.scale = arch.screenWidth ∧
      sprite.height * sprite.scale = arch.screenHeight := by
  show arch.screenWidth / machine.screen.scale * machine.screen.scale = arch.screenWidth ∧
    arch.screenHeight / machine.screen.scale * machine.screen.scale = arch.screenHeight
  rw [wellFormed.scale_eq]
  cases arch <;> cases machine.highRes <;> decide

/-- A bit of a sprite is drawn on the pixel that it lies over. -/
theorem WellFormed.isSpot_iff_over (px_lt : px < arch.screenWidth) (py_lt : py < arch.screenHeight)
    (row_lt : row < (machine.sprite arch dialect x y rows).rows)
    (column_lt : column < (machine.sprite arch dialect x y rows).columns) :
    let sprite := machine.sprite arch dialect x y rows
    machine.screen.isSpot (sprite.left + column) (sprite.top + row)
        (py * arch.screenWidth + px) = true ↔ sprite.over? px py = some (row, column) := by
  intro sprite
  obtain ⟨wide, high⟩ := wellFormed.scale_le
  obtain ⟨-, -, width_pos, height_pos⟩ := wellFormed.screen.logical_eq wide high
  obtain ⟨narrow, low, -⟩ := wellFormed.sprite_fits x y rows
  obtain ⟨width_whole, height_whole⟩ : sprite.width * sprite.scale = arch.screenWidth ∧
    sprite.height * sprite.scale = arch.screenHeight := wellFormed.sprite_whole
  have px_inside : px / sprite.scale < sprite.width := by
    rw [← width_whole] at px_lt
    exact Nat.div_lt_of_lt_mul (Nat.mul_comm _ _ ▸ px_lt)
  have py_inside : py / sprite.scale < sprite.height := by
    rw [← height_whole] at py_lt
    exact Nat.div_lt_of_lt_mul (Nat.mul_comm _ _ ▸ py_lt)
  have left_lt : sprite.left < sprite.width := Nat.mod_lt _ width_pos
  have top_lt : sprite.top < sprite.height := Nat.mod_lt _ height_pos
  obtain ⟨py_eq, px_eq⟩ := Screen.block_position py px_lt
  rw [← Nat.cast_add, ← Nat.cast_add, wellFormed.screen.isSpot_iff wide high, py_eq, px_eq,
    Sprite.over?_eq_some_iff,
    Screen.behind?_eq_some_iff top_lt py_inside (row_lt.trans_le low),
    Screen.behind?_eq_some_iff left_lt px_inside (column_lt.trans_le narrow), and_comm,
    wellFormed.wraps]
  rfl

theorem WellFormed.hits_iff (existing : number < 2)
    (row_lt : row < (machine.sprite arch dialect x y rows).rows)
    (column_lt : column < (machine.sprite arch dialect x y rows).columns) (countClipped : Bool) :
    let sprite := machine.sprite arch dialect x y rows
    machine.screen.hits countClipped number (sprite.left + column) (sprite.top + row) = true ↔
      (∃ px < sprite.screenWidth, ∃ py < sprite.screenHeight,
        sprite.over? px py = some (row, column) ∧
          (machine.screen.plane number).lit (py * sprite.screenWidth + px) = true) ∨
      countClipped = true ∧ sprite.wraps = false ∧
        (sprite.width ≤ sprite.left + column ∨ sprite.height ≤ sprite.top + row) := by
  intro sprite
  obtain ⟨wide, high⟩ := wellFormed.scale_le
  have sized := wellFormed.screen.planes_sized number existing
  have spot_iff {px py : Nat} (px_lt : px < arch.screenWidth) (py_lt : py < arch.screenHeight) :
      machine.screen.isSpot (sprite.left + column) (sprite.top + row)
          (py * arch.screenWidth + px) = true ↔ sprite.over? px py = some (row, column) :=
    wellFormed.isSpot_iff_over px_lt py_lt row_lt column_lt
  rw [Screen.hits, Bool.or_eq_true, Bool.and_eq_true, decide_eq_true_eq, List.any_eq_true, or_comm]
  refine or_congr ⟨?_, ?_⟩ ?_
  · rintro ⟨place, -, both⟩
    obtain ⟨spot, lit⟩ := Bool.and_eq_true_iff.mp both
    have inside := Plane.lt_of_lit lit
    rw [sized.cells] at inside
    have width_pos : 0 < arch.screenWidth := Nat.pos_of_lt_mul_right inside
    have px_lt := Nat.mod_lt place width_pos
    have py_lt := Nat.div_lt_of_lt_mul inside
    rw [← Nat.div_add_mod' place arch.screenWidth] at spot lit
    exact ⟨_, px_lt, _, py_lt, (spot_iff px_lt py_lt).mp spot, lit⟩
  · rintro ⟨px, px_lt, py, py_lt, below, lit⟩
    have spot := (spot_iff px_lt py_lt).mpr below
    exact ⟨_, List.mem_range.mpr (Plane.lt_of_lit lit), Bool.and_eq_true_iff.mpr ⟨spot, lit⟩⟩
  · rw [← Nat.cast_add, ← Nat.cast_add, wellFormed.screen.locate_eq_none_iff wide high,
      wellFormed.wraps, and_comm]
    rfl

/-- A sprite of at most sixteen rows on at most two planes has few rows that collide. -/
theorem WellFormed.collisions_le (countClipped : Bool) :
    (machine.sprite arch dialect x y rows).collisions countClipped
      (machine.screen.selected.map machine.screen.plane) ≤ 32 := by
  have few_rows := (wellFormed.sprite_fits x y rows).2.2
  have few_planes : machine.screen.selected.length ≤ 2 := by
    rw [← wellFormed.screen.planes_size]
    exact (List.length_filter_le _ _).trans_eq List.length_range
  have each : ∀ count ∈
      (machine.screen.selected.map machine.screen.plane).mapIdx fun picture plane =>
        (List.range (machine.sprite arch dialect x y rows).rows).countP fun row =>
          (machine.sprite arch dialect x y rows).Collides countClipped plane picture row,
      count ≤ 16 := by
    intro count member
    obtain ⟨picture, -, rfl⟩ := List.mem_mapIdx.mp member
    exact (List.countP_le_length.trans_eq List.length_range).trans few_rows
  have bound : _ ≤ _ * 16 := List.sum_le_card_nsmul _ 16 each
  rw [List.length_mapIdx, List.length_map] at bound
  rw [Sprite.collisions]
  omega

/-! ## Bits in memory below a sprite -/

section Fetched

variable (fits : machine.SpriteFits arch rows) {fetched : Array UInt8}
  (pictures_eq : machine.pictures arch rows = .ok fetched)

include fits pictures_eq

/-- The bits that are drawn are those in memory. -/
theorem WellFormed.sets_eq_bit (picture_lt : picture < machine.screen.selected.length)
    (row_lt : row < (SpriteSize.ofRows arch machine.highRes rows).rows)
    (column_lt : column < (SpriteSize.ofRows arch machine.highRes rows).width) :
    (SpriteSize.ofRows arch machine.highRes rows).sets fetched picture row column =
      (machine.sprite arch dialect x y rows).bit picture row column := by
  obtain ⟨rows_eq, columns_eq⟩ := machine.sprite_size arch dialect x y rows
  have total_eq : machine.spriteBytes arch rows =
      machine.screen.selected.length * (SpriteSize.ofRows arch machine.highRes rows).bytes :=
    Nat.mul_comm _ _
  rw [Sprite.bit, rows_eq, columns_eq]
  generalize SpriteSize.ofRows arch machine.highRes rows = size at *
  have width_eq : size.width = 8 * size.rowBytes := rfl
  have bytes_eq : size.bytes = size.rows * size.rowBytes := rfl
  have row_end : (row + 1) * size.rowBytes ≤ size.bytes := Nat.mul_le_mul_right _ row_lt
  have picture_end : (picture + 1) * size.bytes ≤ machine.screen.selected.length * size.bytes :=
    Nat.mul_le_mul_right _ picture_lt
  rw [Nat.succ_mul] at row_end picture_end
  have total_pos : 0 < machine.spriteBytes arch rows := by omega
  have inside := fits.resolve_left (Nat.ne_of_gt total_pos)
  have nonneg := wellFormed.index.1
  have cells := wellFormed.memory.cells
  rw [pictures, if_neg (Nat.ne_of_gt total_pos), Store.readBlock_of_inside wellFormed.memory nonneg
    (by omega) inside] at pictures_eq
  obtain rfl := Except.ok.inj pictures_eq
  rw [size.sets_eq _ column_lt (by rw [Array.size_extract]; omega), Array.getD_eq_getD_getElem?,
    Array.getElem?_extract, if_pos (by omega), ← Array.getD_eq_getD_getElem?, width_eq,
    Nat.mul_div_cancel_left _ (by decide)]
  rfl

/-- What some set bit of a row does, some bit in memory does. -/
theorem WellFormed.any_bits_iff (picture_lt : picture < machine.screen.selected.length)
    (row_lt : row < (machine.sprite arch dialect x y rows).rows) (test : Nat → Bool) :
    let sprite := machine.sprite arch dialect x y rows
    let size := SpriteSize.ofRows arch machine.highRes rows
    ((List.range size.width).any fun column =>
        (size.bits fetched picture row).testBit (size.width - 1 - column) && test column) = true ↔
      ∃ column < sprite.columns, sprite.bit picture row column = true ∧ test column = true := by
  intro sprite size
  obtain ⟨rows_eq, columns_eq⟩ := machine.sprite_size arch dialect x y rows
  rw [List.any_eq_true]
  refine exists_congr fun column => ?_
  rw [List.mem_range, Bool.and_eq_true, columns_eq]
  refine and_congr_right fun column_lt => and_congr_left fun _ => ?_
  rw [← wellFormed.sets_eq_bit fits pictures_eq picture_lt (rows_eq ▸ row_lt) column_lt]
  rfl

/-- Drawing a picture changes the cells below its set bits. -/
theorem WellFormed.pictureInks_eq (picture_lt : picture < machine.screen.selected.length)
    (px_lt : px < arch.screenWidth) (py_lt : py < arch.screenHeight) :
    let sprite := machine.sprite arch dialect x y rows
    machine.screen.pictureInks (SpriteSize.ofRows arch machine.highRes rows) fetched picture
        sprite.left sprite.top (py * arch.screenWidth + px) = sprite.inks picture px py := by
  intro sprite
  obtain ⟨rows_eq, -⟩ := machine.sprite_size arch dialect x y rows
  rw [Bool.eq_iff_iff, Sprite.inks_eq_true_iff, Screen.pictureInks, List.any_eq_true]
  refine exists_congr fun row => ?_
  rw [List.mem_range, ← rows_eq]
  refine and_congr_right fun row_lt => ?_
  refine (wellFormed.any_bits_iff fits pictures_eq picture_lt row_lt _).trans ?_
  refine exists_congr fun column => and_congr_right fun column_lt => ?_
  rw [and_comm]
  exact and_congr_left fun _ => wellFormed.isSpot_iff_over px_lt py_lt row_lt column_lt

/-- A row collides as can be told from the screen before. -/
theorem WellFormed.rowHits_iff (selected : machine.screen.selected[picture]? = some number)
    (row_lt : row < (machine.sprite arch dialect x y rows).rows) (countClipped : Bool) :
    let sprite := machine.sprite arch dialect x y rows
    let size := SpriteSize.ofRows arch machine.highRes rows
    machine.screen.rowHits countClipped number sprite.left (sprite.top + row) size.width
        (size.bits fetched picture row) = true ↔
      sprite.Collides countClipped (machine.screen.plane number) picture row := by
  intro sprite size
  have picture_lt := (List.getElem?_eq_some_iff.mp selected).1
  have existing := wellFormed.screen.lt_of_selected (List.mem_of_getElem? selected)
  refine (wellFormed.any_bits_iff fits pictures_eq picture_lt row_lt _).trans ?_
  refine exists_congr fun column => and_congr_right fun column_lt => and_congr_right fun _ => ?_
  exact wellFormed.hits_iff existing row_lt column_lt countClipped

/-- The rows that collide on all planes are as many as can be told from the screen before. -/
theorem WellFormed.sum_pictureHits_eq (countClipped : Bool) :
    let sprite := machine.sprite arch dialect x y rows
    (machine.screen.selected.mapIdx fun picture number =>
      machine.screen.pictureHits countClipped (SpriteSize.ofRows arch machine.highRes rows) fetched
        picture number sprite.left sprite.top).sum =
      sprite.collisions countClipped (machine.screen.selected.map machine.screen.plane) := by
  intro sprite
  rw [Sprite.collisions]
  congr 1
  refine List.ext_getElem? fun picture => ?_
  rw [List.getElem?_mapIdx, List.getElem?_mapIdx, List.getElem?_map, Option.map_map]
  refine Option.map_congr fun number selected => ?_
  rw [Screen.pictureHits, ← (machine.sprite_size arch dialect x y rows).1]
  refine List.countP_congr fun row inside => ?_
  rw [decide_eq_true_eq]
  exact wellFormed.rowHits_iff fits pictures_eq selected (List.mem_range.mp inside) countClipped

end Fetched

/-- Drawing a sprite whose pictures lie in memory flips the cells below its set bits and reports
the rows that collide. -/
theorem WellFormed.draw_eq (fits : machine.SpriteFits arch rows) :
    let sprite := machine.sprite arch dialect x y rows
    let collisions := sprite.collisions (dialect .clipCollision)
      (machine.screen.selected.map machine.screen.plane)
    ∃ after, machine.draw arch dialect x y rows =
        .ok { machine with
          screen := after
          v := machine.v.write 15
            (.ofNat (if arch = .superChip ∧ machine.highRes then collisions
              else min collisions 1)) } ∧
      Screen.Repainted machine.screen after ∧
      ∀ picture number, machine.screen.selected[picture]? = some number →
        ∀ px < arch.screenWidth, ∀ py < arch.screenHeight,
          (after.plane number).lit (py * arch.screenWidth + px) =
            ((machine.screen.plane number).lit (py * arch.screenWidth + px) ^^
              sprite.inks picture px py) := by
  intro sprite collisions
  obtain ⟨wide, high⟩ := wellFormed.scale_le
  obtain ⟨narrow, low, -⟩ := wellFormed.sprite_fits x y rows
  obtain ⟨rows_eq, columns_eq⟩ := machine.sprite_size arch dialect x y rows
  obtain ⟨left_eq, top_eq⟩ := wellFormed.sprite_corner x y rows
  obtain ⟨fetched, pictures_eq⟩ := wellFormed.exists_pictures (blockFault?_of_spriteFits fits)
  -- No two bits lie on one pixel, so all of them can be told from the screen before.
  rw [rows_eq] at low
  rw [columns_eq] at narrow
  have apart := wellFormed.screen.apart wide high narrow low sprite.left sprite.top
  have distinct : machine.screen.selected.Nodup := List.nodup_range.filter _
  obtain ⟨after, drawn, stamped, -⟩ := wellFormed.screen.drawPictures_eq wide high distinct
    (fun _ => wellFormed.screen.lt_of_selected) (Int.natCast_nonneg _) (Int.natCast_nonneg _)
    (dialect .clipCollision) apart fetched
  obtain ⟨after', _, drawn', repainted⟩ := wellFormed.screen.drawPictures wide high
    (dialect .clipCollision) (SpriteSize.ofRows arch machine.highRes rows)
    (Int.natCast_nonneg sprite.left) (Int.natCast_nonneg sprite.top) fetched
  obtain ⟨rfl, -⟩ := Prod.mk.inj (Except.ok.inj (drawn'.symm.trans drawn))
  rw [wellFormed.sum_pictureHits_eq fits pictures_eq, ← left_eq, ← top_eq] at drawn
  refine ⟨after', wellFormed.draw_of_drawn pictures_eq drawn, repainted, ?_⟩
  intro picture number selected px px_lt py py_lt
  have picture_lt := (List.getElem?_eq_some_iff.mp selected).1
  have sized := wellFormed.screen.planes_sized number
    (wellFormed.screen.lt_of_selected (List.mem_of_getElem? selected))
  have inside : py * arch.screenWidth + px < (machine.screen.plane number).cells.size := by
    rw [sized.cells]
    exact Plane.place_lt px_lt py_lt
  rw [stamped picture number selected, Plane.lit_toggle _ inside]
  exact congrArg _ (wellFormed.pictureInks_eq fits pictures_eq picture_lt px_lt py_lt)

end Below

end Machine

/-! ## The instruction -/

theorem Word.exists_decode_draw (arch : Arch) (x y rows : Digit) :
    ∃ word : Word,
      Word.ofInt? (0xD000 + x.val * 0x100 + y.val * 0x10 + rows.val : Nat) = some word ∧
      word.decode arch = .instruction (.draw x y rows) := by
  have fits : 0xD000 + x.val * 0x100 + y.val * 0x10 + rows.val < 0x10000 := by omega
  let word : Word := ⟨⟨_, fits⟩⟩
  have family : word.family.val = 0xD := by
    show (0xD000 + x.val * 0x100 + y.val * 0x10 + rows.val) / 0x1000 = 0xD
    omega
  have x_eq : word.x = x := Fin.ext <| by
    show (0xD000 + x.val * 0x100 + y.val * 0x10 + rows.val) / 0x100 % 0x10 = x
    omega
  have y_eq : word.y = y := Fin.ext <| by
    show (0xD000 + x.val * 0x100 + y.val * 0x10 + rows.val) / 0x10 % 0x10 = y
    omega
  have rows_eq : word.n = rows := Fin.ext <| by
    show (0xD000 + x.val * 0x100 + y.val * 0x10 + rows.val) % 0x10 = rows
    omega
  refine ⟨word, word.ofInt?_value, ?_⟩
  simp only [decode, family, x_eq, y_eq, rows_eq]

namespace Processor

variable {arch : Arch} {dialect : Dialect} {processor : Processor}

/-- In the first step of a frame, a sprite in the upper left corner of a blank plane lights the cell
there if its first byte has the highest bit set. -/
theorem lit_step_of_corner
    (wellFormed : processor.machine.WellFormed processor.arch processor.dialect)
    {x y rows : Digit} (facing : processor.facing? = some (.draw x y rows)) (counted : rows ≠ 0)
    (fits : processor.machine.SpriteFits processor.arch rows)
    (selected : processor.machine.screen.selected[0]? = some 0)
    (unlit : (processor.machine.screen.plane 0).Unlit)
    (corner : processor.machine.v.read x = 0 ∧ processor.machine.v.read y = 0) {byte : UInt8}
    (first : processor.machine.memory.cells[processor.machine.index.toNat]? = some byte)
    (highest : byte.toNat.testBit 7 = true) :
    (processor.step true).result = .ok () ∧ ∃ screen v,
      (processor.step true).processor.machine =
        { processor.machine with screen, v }.advance true ∧
      Screen.Repainted processor.machine.screen screen ∧ (screen.plane 0).lit 0 = true := by
  obtain ⟨screen, drawn, repainted, flipped⟩ := wellFormed.draw_eq fits (x := x) (y := y)
  obtain ⟨result, machine_eq⟩ := step_of_draw wellFormed facing fits drawn
  refine ⟨result, screen, _, machine_eq, repainted, ?_⟩
  have inked : (processor.machine.sprite processor.arch processor.dialect x y rows).inks 0 0 0 =
      true := by
    rw [Sprite.inks_corner]
    case x => exact congrArg UInt8.toNat corner.1
    case y => exact congrArg UInt8.toNat corner.2
    case rows =>
      simp only [Machine.sprite, if_pos counted]
      exact Nat.pos_of_ne_zero fun none => counted (Fin.ext none)
    case columns =>
      simp only [Machine.sprite]
      split <;> decide
    simp only [Machine.sprite, Nat.add_zero, Array.getD_eq_getD_getElem?, first, Option.getD_some]
    exact highest
  have sides : 0 < processor.arch.screenWidth ∧ 0 < processor.arch.screenHeight := by
    cases processor.arch <;> decide
  have lit := flipped 0 0 selected 0 sides.1 0 sides.2
  rw [Nat.zero_mul, Nat.zero_add] at lit
  rw [lit, unlit, inked]
  rfl

/-- A program that begins by drawing the digit zero in the upper left corner lights it. -/
theorem lit_first_step (live : Bool) (dice : List UInt8) {program : Array UInt8} {loaded : Machine}
    (load : (Machine.powerOn arch dialect).load program = .ok loaded) (two : 2 ≤ program.size)
    (spelled : Memory.bigEndian (program.extract 0 2) = 0xD005) :
    let step := ((powerOn arch dialect live dice).restore loaded).step true
    step.result = .ok () ∧ ∃ screen v,
      step.processor.machine = { loaded with screen, v }.advance true ∧
      Screen.Repainted loaded.screen screen ∧ (screen.plane 0).lit 0 = true := by
  have fresh := Machine.wellFormed_powerOn arch dialect
  have fits := fresh.fits_of_load load
  have wellFormed := fresh.load load
  have facing : ((powerOn arch dialect live dice).restore loaded).facing? = some (.draw 0 0 5) :=
    Machine.facing?_eq_some_iff.mpr ⟨⟨0xD005⟩, fresh.meets_of_load rfl two fits spelled load,
      by cases arch <;> rfl⟩
  rw [fresh.load_of_fits fits] at load
  obtain rfl := Except.ok.inj load
  have planes : (Machine.powerOn arch dialect).screen.selected = [0] := by
    rw [Screen.selected, fresh.screen.planes_size]
    exact (by decide : (List.range 2).filter (Nat.testBit 1) = [0])
  refine lit_step_of_corner wellFormed facing (by decide) (Or.inr ?_) (planes ▸ rfl)
    (Machine.unlit_powerOn arch dialect Nat.two_pos) ⟨rfl, rfl⟩
    (Machine.getElem?_patch_powerOn arch dialect program) (by decide)
  show (0 : Int) + ((SpriteSize.ofRows arch false 5).bytes *
    (Machine.powerOn arch dialect).screen.selected.length : Nat) ≤ arch.memorySize
  rw [planes]
  cases arch <;> decide

/-- A drawing instruction that does not wait, and whose pictures lie in memory, flips in each
selected plane exactly the cells below the set bits of its picture.  VF tells how many rows
collided, on Super-CHIP in high resolution, and elsewhere whether any did.  Nothing else changes. -/
theorem Reachable.sprite_drawn (reachable : processor.Reachable arch dialect) {x y rows : Digit}
    (goes : processor.machine.mustWait dialect = false)
    (fits : processor.machine.SpriteFits arch rows) :
    let machine := processor.machine
    let opcode : Int := (0xD000 + x.val * 0x100 + y.val * 0x10 + rows.val : Nat)
    let sprite := machine.sprite arch dialect x y rows
    let collisions := sprite.collisions (dialect .clipCollision)
      (machine.screen.selected.map machine.screen.plane)
    ∃ screen value lines,
      processor.execute opcode =
        ⟨{ processor with
            opcode
            machine := { machine with screen, v := machine.v.write 15 value } }, lines, .ok ()⟩ ∧
      (∀ picture number, machine.screen.selected[picture]? = some number →
        ∀ px < arch.screenWidth, ∀ py < arch.screenHeight,
          (screen.plane number).lit (py * arch.screenWidth + px) =
            ((machine.screen.plane number).lit (py * arch.screenWidth + px) ^^
              sprite.inks picture px py)) ∧
      Screen.Repainted machine.screen screen ∧
      value.toNat =
        if arch = .superChip ∧ machine.highRes then collisions else min collisions 1 := by
  intro machine opcode sprite collisions
  have wellFormed := reachable.wellFormed
  obtain ⟨screen, drawn, repainted, flipped⟩ :=
    wellFormed.draw_eq fits (x := x) (y := y)
  have few : collisions ≤ 32 := wellFormed.collisions_le (dialect .clipCollision)
  obtain ⟨word, spelled, reading⟩ := Word.exists_decode_draw arch x y rows
  obtain rfl := reachable.arch_eq
  obtain rfl := reachable.dialect_eq
  obtain ⟨lines, announced⟩ := exists_announce { processor with opcode } wellFormed.v
    (.draw x y rows)
  have effect : processor.machine.perform processor.arch processor.dialect
      (processor.roll (.draw x y rows)).1 (.draw x y rows) = (_, .ok ()) :=
    Machine.perform_draw wellFormed.v (by rw [goes]; exact nofun) drawn
  let told := if processor.arch = .superChip ∧ machine.highRes then collisions else min collisions 1
  have told_lt : told < 2 ^ 8 := by
    simp only [told]
    split <;> omega
  refine ⟨screen, .ofNat told, lines, ?_, flipped, repainted, UInt8.toNat_ofNat_of_lt' told_lt⟩
  rw [execute_of_instruction wellFormed spelled reading announced, effect]
  rfl

/-- On a screen that was just switched on, a sprite is shown as it is. -/
theorem sprite_drawn_on_blank :
    let processor := powerOn .xoChip (.standard .xoChip) false []
    let sprite := processor.machine.sprite .xoChip (.standard .xoChip) 0 1 5
    processor.Reachable .xoChip (.standard .xoChip) ∧
      processor.machine.mustWait (.standard .xoChip) = false ∧
      processor.machine.SpriteFits .xoChip 5 ∧
      ∃ screen value lines,
        processor.execute 0xD015 =
          ⟨{ processor with
              opcode := 0xD015
              machine :=
                { processor.machine with screen, v := processor.machine.v.write 15 value } },
            lines, .ok ()⟩ ∧
        ∀ px < 128, ∀ py < 64, (screen.plane 0).lit (py * 128 + px) = sprite.inks 0 px py := by
  intro processor sprite
  have reachable := Reachable.powerOn .xoChip (.standard .xoChip) false []
  have goes : processor.machine.mustWait (.standard .xoChip) = false := rfl
  have fits : processor.machine.SpriteFits .xoChip 5 := Or.inr (by decide +kernel)
  have unlit : (processor.machine.screen.plane 0).Unlit := Machine.unlit_powerOn _ _ Nat.two_pos
  obtain ⟨screen, value, lines, executed, flipped, -⟩ :=
    reachable.sprite_drawn (x := 0) (y := 1) goes fits
  refine ⟨reachable, goes, fits, screen, value, lines, executed, fun px px_lt py py_lt => ?_⟩
  rw [← Bool.false_xor (sprite.inks 0 px py), ← unlit (py * 128 + px)]
  exact flipped 0 0 (by decide +kernel) px px_lt py py_lt

end Processor

end Chip8
