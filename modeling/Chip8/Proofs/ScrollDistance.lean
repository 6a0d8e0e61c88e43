import Chip8.Proofs.History
import Chip8.Proofs.Scrolling

/-!
# Scrolled screens

A screen of any size that is scrolled by any distance shows in its selected planes what lay that far
away, and nothing where that is beyond the edge.  The scroll instructions of the later
architectures do this and nothing else.
-/

namespace Chip8

namespace Screen

/-- In its selected planes, `after` shows what `before` does some rows or columns away, and nothing
where there are none.  All else is as before. -/
structure Scrolled (width height : Nat) (direction : Direction) (distance : Nat)
    (before after : Screen) : Prop where
  /-- Sizes and all that is not selected. -/
  repainted : Repainted before after
  /-- The cells of the selected planes. -/
  shifted : ∀ number < before.planes.size, before.mask.testBit number = true →
    ∀ x < width, ∀ y < height, (after.plane number).lit (y * width + x) =
      match Plane.source? width height direction distance x y with
      | none => false
      | some (x', y') => (before.plane number).lit (y' * width + x')

variable {screen after : Screen} {width height count distance : Nat} {direction : Direction}

theorem Shaped.scrolled (shaped : screen.Shaped width height count)
    (done : screen.scroll direction distance = .ok after) :
    Scrolled width height direction distance screen after := by
  have sized {number : Nat} (inside : number < screen.planes.size) :=
    shaped.planes_sized number (shaped.planes_size ▸ inside)
  obtain ⟨other, done', repainted⟩ := shaped.scroll direction distance
  obtain rfl := Except.ok.inj (done.symm.trans done')
  refine ⟨repainted, fun number inside selected x x_lt y y_lt => ?_⟩
  obtain rfl := Except.ok.inj (done.symm.trans (shaped.scroll_eq direction distance))
  rw [plane_mapSelected screen _ inside, if_pos selected]
  exact Plane.lit_scrolled (sized inside) x_lt y_lt

end Screen

/-! ## Instructions -/

/-- The number spells an instruction that scrolls by a number of rows or columns. -/
inductive Scrolls (arch : Arch) : Int → Direction → Nat → Prop
  | down (count : Digit) (included : arch.includes .superChip) :
      Scrolls arch (0x00C0 + count.val) .down count
  | up (count : Digit) (included : arch.includes .xoChip) :
      Scrolls arch (0x00D0 + count.val) .up count
  | right (included : arch.includes .superChip) : Scrolls arch 0x00FB .right 4
  | left (included : arch.includes .superChip) : Scrolls arch 0x00FC .left 4

variable {arch : Arch} {dialect : Dialect}

theorem Scrolls.exists_decode {opcode : Int} {direction : Direction} {count : Nat}
    (scrolls : Scrolls arch opcode direction count) :
    ∃ word digit, Word.ofInt? opcode = some word ∧ digit.val = count ∧
      word.decode arch = .instruction (.scroll direction digit) := by
  cases scrolls with
  | down count included =>
      refine ⟨⟨⟨0x00C0 + count.val, by omega⟩⟩, count, ?_, rfl, ?_⟩
      · exact Word.ofInt?_value ⟨⟨0x00C0 + count.val, by omega⟩⟩
      · revert included
        cases arch <;> decide +revert
  | up count included =>
      refine ⟨⟨⟨0x00D0 + count.val, by omega⟩⟩, count, ?_, rfl, ?_⟩
      · exact Word.ofInt?_value ⟨⟨0x00D0 + count.val, by omega⟩⟩
      · revert included
        cases arch <;> decide +revert
  | right included =>
      exact ⟨⟨0x00FB⟩, 4, rfl, rfl, Decoding.since_eq_instruction.mpr ⟨included, rfl⟩⟩
  | left included =>
      exact ⟨⟨0x00FC⟩, 4, rfl, rfl, Decoding.since_eq_instruction.mpr ⟨included, rfl⟩⟩

/-- How many cells a scroll instruction moves the planes by. -/
def Machine.scrollDistance (dialect : Dialect) (machine : Machine) (count : Nat) : Nat :=
  if dialect .physicalScroll then count else count * machine.screen.scale

theorem Machine.WellFormed.perform_scroll {machine : Machine}
    (wellFormed : machine.WellFormed arch dialect) (random : UInt8) (direction : Direction)
    (count : Digit) :
    ∃ screen, machine.perform arch dialect random (.scroll direction count) =
        ({ machine with screen }, .ok ()) ∧
      Screen.Scrolled arch.screenWidth arch.screenHeight direction
        (machine.scrollDistance dialect count) machine.screen screen := by
  obtain ⟨screen, scrolled, -⟩ := wellFormed.screen.scroll direction
    (machine.scrollDistance dialect count)
  refine ⟨screen, ?_, wellFormed.screen.scrolled scrolled⟩
  have distance : ((if dialect .physicalScroll then count.val
      else count * machine.screen.scale : Nat) : Int) = machine.scrollDistance dialect count := rfl
  rw [perform, Machine.scroll]
  simp only [distance, scrolled]
  rfl

/-- On a screen of any size, scrolling by any distance is never refused, shifts the selected planes
and changes nothing else.  The scroll instructions shift the screen of a processor that way and touch
nothing but the screen. -/
theorem scrolling_shifts :
    (∀ (width height count : Nat) (screen : Screen), screen.Shaped width height count →
      ∀ (direction : Direction) (distance : Nat),
        ∃ after, screen.scroll direction distance = .ok after ∧
          Screen.Scrolled width height direction distance screen after) ∧
    ∀ (arch : Arch) (dialect : Dialect) (processor : Processor),
      processor.Reachable arch dialect →
      ∀ (opcode : Int) (direction : Direction) (count : Nat),
        Scrolls arch opcode direction count →
        ∃ screen lines, processor.execute opcode =
            ⟨{ processor with opcode, machine := { processor.machine with screen } }, lines,
              .ok ()⟩ ∧
          Screen.Scrolled arch.screenWidth arch.screenHeight direction
            (processor.machine.scrollDistance dialect count) processor.machine.screen screen := by
  constructor
  · intro width height count screen shaped direction distance
    obtain ⟨after, done, -⟩ := shaped.scroll direction distance
    exact ⟨after, done, shaped.scrolled done⟩
  · intro arch dialect processor reachable opcode direction count scrolls
    obtain ⟨word, digit, spelled, rfl, reading⟩ := scrolls.exists_decode
    have wellFormed := reachable.wellFormed
    obtain rfl := reachable.arch_eq
    obtain rfl := reachable.dialect_eq
    obtain ⟨lines, announced⟩ := Processor.exists_announce { processor with opcode } wellFormed.v
      (.scroll direction digit)
    obtain ⟨screen, effect, scrolled⟩ := wellFormed.perform_scroll
      (processor.roll (.scroll direction digit)).1 direction digit
    refine ⟨screen, lines, ?_, scrolled⟩
    rw [Processor.execute_of_instruction wellFormed spelled reading announced, effect]
    rfl

/-- A small screen is scrolled past its edge, and an XO-CHIP machine scrolls up by three pixels. -/
theorem scrolling_shifts_past_edge :
    let screen := { Screen.blank 4 2 2 false with mask := 2 }
    let processor := Processor.powerOn .xoChip (.standard .xoChip) false []
    (∃ after, screen.scroll .right (5 : Nat) = .ok after ∧
        Screen.Scrolled 4 2 .right 5 screen after) ∧
      ∃ screen lines, processor.execute 0x00D3 =
          ⟨{ processor with opcode := 0x00D3, machine := { processor.machine with screen } },
            lines, .ok ()⟩ ∧
        Screen.Scrolled 128 64 .up (processor.machine.scrollDistance (.standard .xoChip) 3)
          processor.machine.screen screen := by
  intro screen processor
  have shaped : screen.Shaped 4 2 2 := { Screen.shaped_blank 4 2 2 false with }
  have scrolls : Scrolls .xoChip 0x00D3 .up 3 := .up 3 rfl
  exact ⟨scrolling_shifts.1 4 2 2 screen shaped .right 5,
    scrolling_shifts.2 .xoChip (.standard .xoChip) processor
      (Processor.Reachable.powerOn .xoChip _ false []) 0x00D3 .up 3 scrolls⟩

end Chip8
