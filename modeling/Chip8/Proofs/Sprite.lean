import Chip8.Machine.Sprite
import Chip8.Proofs.Loop
import Chip8.Proofs.Pixel

/-!
# Drawing

Drawing only ever flips pixels.  Whatever relation flipping keeps between two screens, drawing
keeps as well, and it counts the same collisions on both.  On one shaped screen this says that
drawing never fails and only repaints; the one thing that can refuse it is a sprite that ends
outside memory.
-/

namespace Chip8

namespace SpriteSize

/-- The bits of a row of a picture, where pictures and rows are numbered from zero. -/
def bits (size : SpriteSize) (pictures : Array UInt8) (number row : Nat) : Nat :=
  let start := number * size.bytes + row * size.rowBytes
  Memory.bigEndian (pictures.extract start (start + size.rowBytes))

/-- Whether a picture sets a bit in a row, counted from the left. -/
def sets (size : SpriteSize) (pictures : Array UInt8) (number row column : Nat) : Bool :=
  (size.bits pictures number row).testBit (size.width - 1 - column)

variable (size : SpriteSize) (pictures : Array UInt8)

theorem bits_single (row : Nat) :
    size.bits pictures 0 row =
      Memory.bigEndian (pictures.extract (row * size.rowBytes) ((row + 1) * size.rowBytes)) := by
  simp only [bits, Nat.zero_mul, Nat.zero_add, Nat.succ_mul]

theorem bits_first {row : Nat} (inside : row < size.rows) :
    size.bits (pictures.extract 0 size.bytes) 0 row = size.bits pictures 0 row := by
  have ends : (row + 1) * size.rowBytes ≤ size.bytes :=
    Nat.mul_le_mul_right size.rowBytes inside
  rw [bits_single, bits_single, Array.extract_extract]
  simp only [Nat.zero_add, Nat.min_eq_left ends]

theorem bits_rest (number row : Nat) :
    size.bits (pictures.extract size.bytes pictures.size) number row =
      size.bits pictures (number + 1) row := by
  have start : size.bytes + number * size.bytes = (number + 1) * size.bytes := by ring
  simp only [bits, Array.extract_extract, ← Nat.add_assoc, start]
  rw [Array.extract_eq_extract_right.mpr]
  omega

end SpriteSize

namespace Screen

open Loop

/-- Flipping a pixel of a plane meets the same on related screens and keeps them related. -/
def FlipsAlike (relation : Screen → Screen → Prop) (number : Nat) : Prop :=
  ∀ left right, relation left right → ∀ x y : Int, 0 ≤ x → 0 ≤ y →
    ∃ left' right' contact, left.flip number x y = (left', .ok contact) ∧
      right.flip number x y = (right', .ok contact) ∧ relation left' right'

/-- Flipping one pixel meets the same on related screens and keeps them related.  If it is clipped,
it counts on both or on neither. -/
def CountsAlike (relation : Screen → Screen → Prop) (counts counts' : Bool) (number : Nat)
    (x y : Int) : Prop :=
  ∀ left right, relation left right →
    ∃ left' right' contact, left.flip number x y = (left', .ok contact) ∧
      right.flip number x y = (right', .ok contact) ∧ relation left' right' ∧
      (contact = .clipped → counts = counts')

variable {relation : Screen → Screen → Prop} {counts counts' : Bool} {left right : Screen}

theorem drawRow_matched {number width bits : Nat} {x y : Int}
    (alike : ∀ column < width, bits.testBit (width - 1 - column) →
      CountsAlike relation counts counts' number (x + column) y)
    (related : relation left right) :
    Matched relation (left.drawRow counts number x y width bits)
      (right.drawRow counts' number x y width bits) := by
  unfold drawRow
  refine foldlM_matched (fun left right collided column inside related => ?_) related false
  by_cases set : bits.testBit (width - 1 - column)
  · obtain ⟨left', right', contact, left_flip, right_flip, related', clipped⟩ :=
      alike column (List.mem_range.mp inside) set left right related
    simp only [set, if_true, left_flip, right_flip]
    cases contact with
    | free => exact ⟨left', right', collided, rfl, rfl, related'⟩
    | collided => exact ⟨left', right', true, rfl, rfl, related'⟩
    | clipped =>
        obtain rfl := clipped rfl
        exact ⟨left', right', collided || counts, rfl, rfl, related'⟩
  · simp only [set]
    exact ⟨left, right, collided, rfl, rfl, related⟩

theorem drawPicture_matched {number : Nat} {size : SpriteSize} {picture : Array UInt8} {x y : Int}
    (alike : ∀ row < size.rows, ∀ column < size.width, size.sets picture 0 row column →
      CountsAlike relation counts counts' number (x + column) (y + row))
    (related : relation left right) :
    Matched relation (left.drawPicture counts size picture number x y)
      (right.drawPicture counts' size picture number x y) := by
  unfold drawPicture
  refine foldlM_matched (fun left right count row inside related => ?_) related 0
  obtain ⟨left', right', collided, left_row, right_row, related'⟩ :=
    drawRow_matched (alike row (List.mem_range.mp inside)) related
  rw [SpriteSize.bits_single] at left_row right_row
  simp only [left_row, right_row]
  exact ⟨left', right', if collided then count + 1 else count, rfl, rfl, related'⟩

/-- Drawing on two related screens, where only the pixels of set bits have to be alike. -/
theorem drawPictures_matched_of_sets {numbers : List Nat} {size : SpriteSize}
    {pictures : Array UInt8} {x y : Int}
    (alike : ∀ place number, numbers[place]? = some number →
      ∀ row < size.rows, ∀ column < size.width, size.sets pictures place row column →
        CountsAlike relation counts counts' number (x + column) (y + row))
    (related : relation left right) :
    Matched relation (left.drawPictures counts size x y numbers pictures)
      (right.drawPictures counts' size x y numbers pictures) := by
  induction numbers generalizing left right pictures with
  | nil => exact ⟨left, right, 0, rfl, rfl, related⟩
  | cons number rest induction =>
      have first : ∀ row < size.rows, ∀ column < size.width,
          size.sets (pictures.extract 0 size.bytes) 0 row column →
            CountsAlike relation counts counts' number (x + column) (y + row) := by
        intro row row_lt column column_lt set
        rw [SpriteSize.sets, SpriteSize.bits_first size pictures row_lt] at set
        exact alike 0 number rfl row row_lt column column_lt set
      have others : ∀ place number, rest[place]? = some number →
          ∀ row < size.rows, ∀ column < size.width,
            size.sets (pictures.extract size.bytes pictures.size) place row column →
              CountsAlike relation counts counts' number (x + column) (y + row) := by
        intro place other found row row_lt column column_lt set
        rw [SpriteSize.sets, SpriteSize.bits_rest] at set
        exact alike (place + 1) other found row row_lt column column_lt set
      obtain ⟨left', right', count, left_first, right_first, related'⟩ :=
        drawPicture_matched first related
      obtain ⟨left'', right'', more, left_rest, right_rest, related''⟩ := induction others related'
      simp only [drawPictures, left_first, right_first]
      refine ⟨left'', right'', count + more, ?_, ?_, related''⟩
      · simp only [bind, Except.bind, left_rest]
        rfl
      · simp only [bind, Except.bind, right_rest]
        rfl

theorem drawPictures_matched {numbers : List Nat}
    (alike : ∀ number ∈ numbers, FlipsAlike relation number) (related : relation left right)
    (countClipped : Bool) (size : SpriteSize) {x y : Int} (x_nonneg : 0 ≤ x) (y_nonneg : 0 ≤ y)
    (pictures : Array UInt8) :
    Matched relation (left.drawPictures countClipped size x y numbers pictures)
      (right.drawPictures countClipped size x y numbers pictures) := by
  refine drawPictures_matched_of_sets
    (fun place number found row _ column _ _ left right related => ?_) related
  obtain ⟨left', right', contact, left_flip, right_flip, related'⟩ :=
    alike number (List.mem_of_getElem? found) left right related (x + column) (y + row)
      (by omega) (by omega)
  exact ⟨left', right', contact, left_flip, right_flip, related', fun _ => rfl⟩

/-- Drawing on selected planes of a shaped screen never fails and only repaints the screen. -/
theorem Shaped.drawPictures {screen : Screen} {width height count : Nat}
    (shaped : screen.Shaped width height count) (wide : screen.scale ≤ width)
    (high : screen.scale ≤ height) (countClipped : Bool) (size : SpriteSize) {x y : Int}
    (x_nonneg : 0 ≤ x) (y_nonneg : 0 ≤ y) (pictures : Array UInt8) :
    ∃ after rows,
      screen.drawPictures countClipped size x y screen.selected pictures = .ok (after, rows) ∧
      Repainted screen after := by
  -- A screen is related to itself, so the rule for two screens is one for a single screen as well.
  have alike : ∀ number ∈ screen.selected,
      FlipsAlike (fun left right => left = right ∧ Repainted screen left) number := by
    rintro number member left _ ⟨rfl, repainted⟩ x y x_nonneg y_nonneg
    have same_scale : left.scale = screen.scale := by rw [scale, repainted.lowRes, scale]
    have same_selected : left.selected = screen.selected := by
      rw [selected, repainted.mask, repainted.count, selected]
    obtain ⟨after, contact, flipped, further⟩ := (shaped.repainted repainted).flip
      (by rw [same_scale]; exact wide) (by rw [same_scale]; exact high)
      (by rw [same_selected]; exact member) x_nonneg y_nonneg
    exact ⟨after, after, contact, flipped, flipped, rfl, repainted.trans further⟩
  obtain ⟨after, _, rows, drawn, -, -, repainted⟩ := drawPictures_matched alike
    ⟨rfl, Repainted.refl screen⟩ countClipped size x_nonneg y_nonneg pictures
  exact ⟨after, rows, drawn, repainted⟩

/-- A picture has no more rows that collide than it has rows. -/
theorem drawPicture_count_le {screen after : Screen} {countClipped : Bool} {size : SpriteSize}
    {picture : Array UInt8} {number count : Nat} {x y : Int}
    (drawn : screen.drawPicture countClipped size picture number x y = .ok (after, count)) :
    count ≤ size.rows := by
  rw [drawPicture] at drawn
  have few := Loop.foldlM_count_le (fun screen next row count after once => ?_) drawn
  · rw [List.length_range] at few
    omega
  · rcases met : screen.drawRow countClipped number x (y + row) size.width (Memory.bigEndian
      (picture.extract (row * size.rowBytes) ((row + 1) * size.rowBytes))) with
      fault | ⟨other, collided⟩
    · simp only [met, bind, Except.bind] at once
      cases once
    · simp only [met, bind, Except.bind] at once
      cases once
      split <;> omega

theorem drawPictures_count_le {screen after : Screen} {countClipped : Bool} {size : SpriteSize}
    {numbers : List Nat} {pictures : Array UInt8} {count : Nat} {x y : Int}
    (drawn : screen.drawPictures countClipped size x y numbers pictures = .ok (after, count)) :
    count ≤ numbers.length * size.rows := by
  induction numbers generalizing screen pictures count with
  | nil =>
      cases drawn
      exact Nat.zero_le _
  | cons number rest induction =>
      rw [drawPictures] at drawn
      rcases first : screen.drawPicture countClipped size (pictures.extract 0 size.bytes) number x y
        with fault | ⟨next, hits⟩
      · rw [first] at drawn
        cases drawn
      · rw [first] at drawn
        rcases others : next.drawPictures countClipped size x y rest
          (pictures.extract size.bytes pictures.size) with fault | ⟨last, more⟩
        · simp only [bind, Except.bind, others] at drawn
          cases drawn
        · simp only [bind, Except.bind, others] at drawn
          cases drawn
          have few := drawPicture_count_le first
          have few' := induction others
          rw [List.length_cons, Nat.add_mul, Nat.one_mul]
          omega

end Screen

namespace Machine

/-- Bytes of all pictures of a sprite, one for each selected plane. -/
def spriteBytes (arch : Arch) (machine : Machine) (rows : Digit) : Nat :=
  (SpriteSize.ofRows arch machine.highRes rows).bytes * machine.screen.selected.length

/-- The pictures of a sprite, which none are needed for a sprite without bytes. -/
def pictures (arch : Arch) (machine : Machine) (rows : Digit) : Except Fault (Array UInt8) :=
  if machine.spriteBytes arch rows = 0 then
    .ok #[]
  else
    machine.memory.readBlock machine.index (machine.spriteBytes arch rows)

variable {arch : Arch} {dialect : Dialect} {machine : Machine} {x y rows : Digit}

theorem draw_of_refused (visible : ¬ (machine.screen.logicalWidth = 0 ∨
      machine.screen.logicalHeight = 0)) {fault : Fault}
    (refused : machine.pictures arch rows = .error fault) :
    machine.draw arch dialect x y rows = .error fault := by
  by_cases none : machine.spriteBytes arch rows = 0
  · rw [pictures, if_pos none] at refused
    cases refused
  · rw [pictures, if_neg none] at refused
    rw [spriteBytes] at none refused
    simp only [draw, if_neg visible, if_neg none, refused]
    rfl

/-- Drawing the fetched pictures, and what VF then tells. -/
theorem draw_of_drawn (visible : ¬ (machine.screen.logicalWidth = 0 ∨
      machine.screen.logicalHeight = 0)) {fetched : Array UInt8}
    (pictures_eq : machine.pictures arch rows = .ok fetched) {after : Screen} {count : Nat}
    (drawn : machine.screen.drawPictures (dialect .clipCollision)
      (SpriteSize.ofRows arch machine.highRes rows)
      (Int.fmod (machine.v.read x).toNat machine.screen.logicalWidth)
      (Int.fmod (machine.v.read y).toNat machine.screen.logicalHeight)
      machine.screen.selected fetched = .ok (after, count)) (few : count ≤ 0xFF) :
    machine.draw arch dialect x y rows =
      .ok { machine with
        screen := after
        v := machine.v.write 15
          (.ofNat (if arch = .superChip ∧ machine.highRes then count else min count 1)) } := by
  have byte : asByte (if arch = .superChip ∧ machine.highRes then count else min count 1) =
      .ok (.ofNat (if arch = .superChip ∧ machine.highRes then count else min count 1)) := by
    refine if_pos ?_
    split <;> omega
  by_cases none : machine.spriteBytes arch rows = 0
  · rw [pictures, if_pos none] at pictures_eq
    cases pictures_eq
    rw [spriteBytes] at none
    simp only [draw, if_neg visible, if_pos none, bind, Except.bind, pure, Except.pure, drawn, byte]
  · rw [pictures, if_neg none] at pictures_eq
    rw [spriteBytes] at none pictures_eq
    simp only [draw, if_neg visible, if_neg none, pictures_eq, bind, Except.bind, drawn, byte]
    rfl

/-- Drawing commutes with a change of anything that it neither looks at nor changes. -/
theorem draw_change (change : Machine → Machine)
    (memory : (change machine).memory = machine.memory)
    (screen : (change machine).screen = machine.screen) (v : (change machine).v = machine.v)
    (index : (change machine).index = machine.index)
    (highRes : (change machine).highRes = machine.highRes)
    (commutes : ∀ screen v,
      { change machine with screen, v } = change { machine with screen, v }) :
    (change machine).draw arch dialect x y rows =
      change <$> machine.draw arch dialect x y rows := by
  simp only [draw, commutes]
  simp only [memory, screen, v, index, highRes]
  split
  · rfl
  · split <;> simp only [map_bind, map_pure]

end Machine

end Chip8
