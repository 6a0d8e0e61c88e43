import Chip8.Proofs.Doubling
import Chip8.Proofs.Lasting
import Chip8.Proofs.ScrollDistance
import Chip8.Proofs.SpriteDrawing

/-!
# Whole pixels

An XO-CHIP machine that scrolls by logical pixels shows whole pixels in low resolution: whatever it
went through, its screen is a doubled one.  Drawing, clearing and scrolling keep it so, and both
planes are blanked whenever the resolution changes.
-/

namespace Chip8

/-- The instruction is about the display. -/
def Instruction.paints : Instruction → Bool
  | .clear | .draw _ _ _ | .scroll _ _ | .resolution _ | .selectPlanes _ => true
  | _ => false

namespace Machine

variable {arch : Arch} {dialect : Dialect} {machine before after : Machine}

/-! ## Instructions that leave the display alone -/

/-- Both machines show the same in the same resolution. -/
structure SameDisplay (before after : Machine) : Prop where
  /-- The screen. -/
  screen : after.screen = before.screen
  /-- The resolution. -/
  highRes : after.highRes = before.highRes

/-- Whatever the attempt leads to shows the same as the machine. -/
def KeepsDisplay (machine : Machine) (attempt : Except Fault Machine) : Prop :=
  ∀ other, attempt = .ok other → SameDisplay machine other

theorem KeepsDisplay.ok {other : Machine} (same : SameDisplay machine other) :
    KeepsDisplay machine (.ok other) := by
  rintro _ ⟨⟩
  exact same

theorem KeepsDisplay.bind {α : Type} {attempt : Except Fault α} {next : α → Except Fault Machine}
    (keeps : ∀ value, KeepsDisplay machine (next value)) :
    KeepsDisplay machine (attempt >>= next) := by
  rcases attempt with fault | value
  · intro other reached
    cases reached
  · exact keeps value

theorem KeepsDisplay.settle {attempt : Except Fault Machine}
    (keeps : KeepsDisplay machine attempt) :
    SameDisplay machine (machine.settle attempt).1 := by
  rcases attempt with fault | other
  · exact ⟨rfl, rfl⟩
  · exact keeps other rfl

theorem sameDisplay_combine (operation : Arithmetic) (x y : Digit) :
    SameDisplay machine (machine.combine dialect operation x y).1 := by
  rw [combine]
  rcases operation.apply dialect (machine.v.read x) (machine.v.read y) with ⟨result, _ | flag⟩ <;>
    exact ⟨rfl, rfl⟩

theorem sameDisplay_perform (machine : Machine) (random : UInt8) {instruction : Instruction}
    (quiet : instruction.paints = false) :
    SameDisplay machine (machine.perform arch dialect random instruction).1 := by
  cases instruction with
  | clear | draw | scroll | resolution | selectPlanes => cases quiet
  | ret | call | storeDecimal | setIndexLong | loadPattern =>
      exact KeepsDisplay.settle (.bind fun _ => .ok ⟨rfl, rfl⟩)
  | store x | load x =>
      refine KeepsDisplay.settle (.bind fun _ => .ok ?_)
      rw [passBlock]
      split <;> exact ⟨rfl, rfl⟩
  | skip condition =>
      rw [perform]
      split <;> exact ⟨rfl, rfl⟩
  | arithmetic operation x y => exact sameDisplay_combine operation x y
  | readDelay x =>
      rw [perform, readDelay]
      split <;> exact ⟨rfl, rfl⟩
  | awaitKey x =>
      rw [perform]
      split <;> exact ⟨rfl, rfl⟩
  | storeRange x y =>
      rw [perform, storeRange]
      split <;> exact ⟨rfl, rfl⟩
  | loadRange x y =>
      rw [perform, loadRange]
      split <;> exact ⟨rfl, rfl⟩
  | _ => exact ⟨rfl, rfl⟩

/-! ## Whole pixels -/

/-- In low resolution the screen shows a small one. -/
def Whole (machine : Machine) : Prop :=
  machine.highRes = false → ∃ small, Screen.Doubled 64 32 2 small machine.screen

theorem SameDisplay.whole (same : SameDisplay before after) (whole : before.Whole) :
    after.Whole := by
  intro low
  rw [same.screen]
  exact whole (same.highRes.symm.trans low)

/-- A large screen on which nothing is lit shows whole pixels. -/
theorem whole_of_unlit (shaped : machine.screen.Shaped 128 64 2)
    (low : machine.highRes = false → machine.screen.lowRes = true)
    (unlit : ∀ number < 2, (machine.screen.plane number).Unlit) : machine.Whole :=
  fun high => ⟨_, shaped.doubled_of_unlit (low high) unlit⟩

theorem whole_powerOn (dialect : Dialect) : (powerOn .xoChip dialect).Whole :=
  whole_of_unlit (wellFormed_powerOn .xoChip dialect).screen (fun _ => rfl)
    fun _ inside => unlit_powerOn .xoChip dialect inside

theorem whole_reset (wellFormed : machine.WellFormed .xoChip dialect) :
    (machine.reset .xoChip).Whole :=
  whole_of_unlit wellFormed.reset.screen (fun _ => rfl)
    fun _ inside => unlit_reset wellFormed.screen inside

theorem whole_setResolution (wellFormed : machine.WellFormed .xoChip dialect) (high : Bool) :
    (machine.setResolution .xoChip high).Whole := by
  have switched := wellFormed.setResolution rfl high
  refine whole_of_unlit switched.screen (fun low => ?_) fun number inside => ?_
  · rw [switched.lowRes, low]
    rfl
  · rw [show (machine.setResolution .xoChip high).screen.plane number =
      machine.screen.clearAll.plane number from rfl, Screen.plane_clearAll]
    exact Plane.unlit_clear (wellFormed.screen.planes_sized number inside)

namespace Whole

theorem clear (whole : machine.Whole) : { machine with screen := machine.screen.clear }.Whole := by
  intro low
  obtain ⟨small, doubled⟩ := whole low
  exact ⟨_, doubled.clear⟩

theorem select (whole : machine.Whole) {mask : Int} {screen : Screen}
    (selected : machine.screen.select mask = .ok screen) :
    { machine with screen }.Whole := by
  intro low
  obtain ⟨small, doubled⟩ := whole low
  rcases doubled.select mask with
    ⟨fault, -, refused⟩ | ⟨small', screen', -, selected', doubled'⟩
  · cases refused.symm.trans selected
  · cases selected'.symm.trans selected
    exact ⟨small', doubled'⟩

/-- In low resolution a logical distance is an even one. -/
theorem scroll (whole : machine.Whole) (logical : dialect .physicalScroll = false)
    (wellFormed : machine.WellFormed .xoChip dialect) (direction : Direction) (count : Digit) :
    ∃ screen, machine.scroll dialect direction count = .ok { machine with screen } ∧
      { machine with screen }.Whole := by
  obtain ⟨screen, scrolled, -⟩ := wellFormed.screen.scroll direction
    (count * machine.screen.scale)
  refine ⟨screen, ?_, fun low => ?_⟩
  · simp only [Machine.scroll, logical, Bool.false_eq_true, if_false, scrolled]
    rfl
  · obtain ⟨small, doubled⟩ := whole low
    rw [doubled.large_scale, Nat.mul_comm] at scrolled
    obtain ⟨small', large', -, scrolled', doubled'⟩ := doubled.scroll direction count.val
    obtain rfl := Except.ok.inj (scrolled'.symm.trans scrolled)
    exact ⟨small', doubled'⟩

/-- In low resolution a sprite is drawn on the small screen as well. -/
theorem draw (whole : machine.Whole) (wellFormed : machine.WellFormed .xoChip dialect)
    {x y rows : Digit} {other : Machine}
    (drawn : machine.draw .xoChip dialect x y rows = .ok other) : other.Whole := by
  rcases pictures_eq : machine.pictures .xoChip rows with fault | fetched
  · cases (draw_of_refused wellFormed.visible pictures_eq).symm.trans drawn
  · obtain ⟨wide, high⟩ := wellFormed.scale_le
    obtain ⟨left_nonneg, top_nonneg⟩ := wellFormed.corner_nonneg x y
    obtain ⟨screen, count, painted, -⟩ := wellFormed.screen.drawPictures wide high
      (dialect .clipCollision) (SpriteSize.ofRows .xoChip machine.highRes rows) left_nonneg
      top_nonneg fetched
    cases (wellFormed.draw_of_drawn pictures_eq painted).symm.trans drawn
    intro low
    obtain ⟨small, doubled⟩ := whole low
    -- Nothing is known of the small screen beyond the large one, so both are drawn on together.
    have alike : ∀ number ∈ machine.screen.selected,
        Screen.FlipsAlike (Screen.Doubled 64 32 2) number := fun number member =>
      Screen.Doubled.flipsAlike (by decide) (by decide) (wellFormed.screen.lt_of_selected member)
    obtain ⟨small', screen', count', -, painted', doubled'⟩ := Screen.drawPictures_matched alike
      doubled (dialect .clipCollision) (SpriteSize.ofRows .xoChip machine.highRes rows) left_nonneg
      top_nonneg fetched
    cases painted'.symm.trans painted
    exact ⟨small', doubled'⟩

theorem perform (whole : machine.Whole) (logical : dialect .physicalScroll = false)
    (wellFormed : machine.WellFormed .xoChip dialect) (random : UInt8)
    (instruction : Instruction) :
    (machine.perform .xoChip dialect random instruction).1.Whole := by
  by_cases quiet : instruction.paints = false
  · exact (machine.sameDisplay_perform random quiet).whole whole
  · cases instruction with
    | clear => exact whole.clear
    | draw x y rows =>
        rw [Machine.perform]
        split
        · exact whole
        · split
          case h_1 other drawn => exact whole.draw wellFormed drawn
          case h_2 => exact whole
    | scroll direction count =>
        obtain ⟨screen, scrolled, whole'⟩ := whole.scroll logical wellFormed direction count
        rw [Machine.perform, scrolled]
        exact whole'
    | resolution high => exact whole_setResolution wellFormed high
    | selectPlanes mask =>
        rw [Machine.perform]
        rcases selected : machine.screen.select mask.val with fault | screen
        · exact whole
        · exact whole.select selected
    | _ => exact absurd rfl quiet

end Whole

/-- With logical scroll distances, an XO-CHIP machine never loses its whole pixels. -/
theorem lasting_whole (logical : dialect .physicalScroll = false) :
    Lasting .xoChip dialect Whole where
  powerOn := whole_powerOn dialect
  reset _ wellFormed := whole_reset wellFormed
  load _ _ whole := whole
  tick _ whole := whole
  setKey _ _ whole := whole
  fetch _ _ _ _ whole := whole
  perform _ random instruction wellFormed whole :=
    whole.perform logical wellFormed random instruction

end Machine

/-- A step that scrolls does nothing else but advance. -/
theorem Processor.Reachable.step_of_scroll {processor : Processor} {arch : Arch}
    {dialect : Dialect} (reachable : processor.Reachable arch dialect) (keyFrame : Bool)
    {direction : Direction} {count : Digit}
    (facing : processor.facing? = some (.scroll direction count)) :
    ∃ screen, (processor.step keyFrame).processor.machine =
        { processor.machine.advance keyFrame with screen } ∧
      Screen.Scrolled arch.screenWidth arch.screenHeight direction
        (processor.machine.scrollDistance dialect count) processor.machine.screen screen := by
  obtain ⟨word, meets, decoded⟩ := Machine.facing?_eq_some_iff.mp facing
  have wellFormed := reachable.wellFormed_self
  have advanced := wellFormed.advance (wellFormed.inside_of_meets meets) keyFrame
  obtain ⟨screen, performed, scrolled⟩ := advanced.perform_scroll
    (processor.roll (.scroll direction count)).1 direction count
  refine ⟨screen, ?_, ?_⟩
  · rw [step_machine_of_meets wellFormed keyFrame meets decoded, performed]
  · rw [reachable.arch_eq, reachable.dialect_eq] at scrolled
    exact scrolled

/-- In low resolution, an XO-CHIP machine that scrolls by logical pixels has four equal cells in
every pixel of both planes, whatever was done to it. -/
theorem Bench.pixels_whole (dialect : Dialect) (logical : dialect .physicalScroll = false)
    (live : Bool) (dice : List UInt8) (operations : List Operation) :
    let machine := ((start .xoChip dialect live dice).run operations).processor.machine
    machine.highRes = false →
      ∀ number < 2, ∀ x < 64, ∀ y < 32, ∃ lit, ∀ row < 2, ∀ column < 2,
        (machine.screen.plane number).cells[(2 * y + row) * 128 + (2 * x + column)]? =
          some lit := by
  intro machine low number existing x x_lt y y_lt
  obtain ⟨small, doubled⟩ :=
    ((Machine.lasting_whole logical).history live dice operations).machine low
  have plane := doubled.plane number existing
  refine ⟨(small.plane number).lit (y * 64 + x), fun row row_lt column column_lt => ?_⟩
  have shown := plane.shows (2 * x + column) (by omega) (2 * y + row) (by omega)
  have cells : (machine.screen.plane number).cells.size = 2 * 64 * (2 * 32) :=
    plane.large_sized.cells
  rw [show (2 * y + row) / 2 = y by omega, show (2 * x + column) / 2 = x by omega] at shown
  rw [← shown]
  exact Plane.getElem?_of_inside (by omega)

/-- A program that draws a digit in the corner and scrolls it down shows a whole pixel of it. -/
theorem Bench.pixels_whole_after_scrolling :
    let operations : List Operation :=
      [.load #[0xD0, 0x05, 0x00, 0xC3], .step true, .step false]
    let machine :=
      ((start .xoChip (.standard .xoChip) false []).run operations).processor.machine
    Dialect.standard .xoChip .physicalScroll = false ∧ machine.highRes = false ∧
      ∀ row < 2, ∀ column < 2,
        (machine.screen.plane 0).cells[(2 * 3 + row) * 128 + (2 * 0 + column)]? = some true := by
  intro operations machine
  have fresh := Machine.wellFormed_powerOn .xoChip (.standard .xoChip)
  have fits : Machine.programStart + (#[0xD0, 0x05, 0x00, 0xC3] : Array UInt8).size ≤
    Arch.xoChip.memorySize := by decide
  obtain ⟨loaded, load, loaded_eq⟩ : ∃ loaded,
      (Machine.powerOn .xoChip (.standard .xoChip)).load #[0xD0, 0x05, 0x00, 0xC3] = .ok loaded ∧
        loaded = { Machine.powerOn .xoChip (.standard .xoChip) with
          memory := (Machine.powerOn .xoChip (.standard .xoChip)).memory.patch
            Machine.programStart #[0xD0, 0x05, 0x00, 0xC3] } :=
    ⟨_, fresh.load_of_fits fits, rfl⟩
  obtain ⟨drawn, drawn_eq⟩ : ∃ drawn, ((start .xoChip (.standard .xoChip) false []).run
    [.load #[0xD0, 0x05, 0x00, 0xC3], .step true]).processor = drawn := ⟨_, rfl⟩
  have reachable : drawn.Reachable .xoChip (.standard .xoChip) := ⟨false, [], _, drawn_eq⟩
  have split (bench : Bench) :
      (bench.run [.load #[0xD0, 0x05, 0x00, 0xC3], .step true]).processor =
          ((bench.run [.load #[0xD0, 0x05, 0x00, 0xC3]]).processor.step true).processor ∧
        (bench.run operations).processor = ((bench.run
          [.load #[0xD0, 0x05, 0x00, 0xC3], .step true]).processor.step false).processor :=
    ⟨rfl, rfl⟩
  -- The first step lights the corner, the second one moves it down by three pixels.
  obtain ⟨-, screen, v, stepped, repainted, lit⟩ :=
    Processor.lit_first_step false [] load (by decide) rfl
  have first : drawn.machine = { loaded with screen, v }.advance true := by
    rw [← stepped, ← drawn_eq, (split _).1, processor_run_load .xoChip (.standard .xoChip) false []
      fits, loaded_eq]
  have facing : drawn.facing? = some (.scroll .down 3) :=
    @Processor.facing?_of_patch _ _ _ 2 _ ⟨0x00C3⟩ _ fresh.memory (by rw [first, loaded_eq]; rfl)
      (by rw [first, loaded_eq]; rfl) (by decide) fits rfl (by rw [reachable.arch_eq]; rfl)
  obtain ⟨after, second, moved⟩ := reachable.step_of_scroll false facing
  have moved_eq : machine = { drawn.machine.advance false with screen := after } := by
    rw [← second, ← drawn_eq, ← (split _).2]
  have low : machine.highRes = false := by
    rw [moved_eq, first, loaded_eq]
    rfl
  -- Pixels are two cells wide, so three of them are six.
  have screen_eq : drawn.machine.screen = screen := by rw [first]; rfl
  have wide : screen.lowRes = true := by
    rw [repainted.lowRes, loaded_eq]
    rfl
  have selected : screen.mask.testBit 0 = true := by
    rw [repainted.mask, loaded_eq]
    rfl
  have planes : 0 < screen.planes.size := by
    rw [← screen_eq, reachable.wellFormed.screen.planes_size]
    exact Nat.two_pos
  have distance : drawn.machine.scrollDistance (.standard .xoChip) (3 : Digit) = 6 := by
    rw [Machine.scrollDistance, screen_eq, Screen.scale, if_pos wide]
    rfl
  rw [screen_eq, distance] at moved
  have shown : (after.plane 0).lit ((2 * 3 + 0) * 128 + (2 * 0 + 0)) = true :=
    (moved.shifted 0 planes selected 0 (by decide) 6 (by decide)).trans lit
  obtain ⟨common, cells⟩ :=
    pixels_whole (.standard .xoChip) rfl false [] operations low 0 Nat.two_pos 0 (by decide) 3
      (by decide)
  have corner : (machine.screen.plane 0).cells[(2 * 3 + 0) * 128 + (2 * 0 + 0)]? = some true := by
    rw [moved_eq, Plane.getElem?_of_inside (Plane.lt_of_lit shown), shown]
  have common_eq : common = true :=
    Option.some_inj.mp ((cells 0 Nat.two_pos 0 Nat.two_pos).symm.trans corner)
  exact ⟨rfl, low, common_eq ▸ cells⟩

end Chip8
