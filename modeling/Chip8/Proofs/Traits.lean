import Chip8.Proofs.History

/-!
# What the traits of a dialect decide

A trait concerns a few instructions, and some of them only in certain states: the wait for the frame
within a frame, the distance of scrolls while pixels are large, what happens at the edges of the
screen only a sprite that reaches over them.  Dialects that agree on what concerns an instruction
execute it alike.
-/

namespace Chip8

/-! ## Screens with other edges -/

namespace Screen

/-- The same screen, which wraps or not. -/
def rewrap (wraps : Bool) (screen : Screen) : Screen := { screen with wraps }

/-- The right screen is the left one with its edges changed, and both were repainted. -/
def Rewrapped (screen : Screen) (wraps : Bool) (left right : Screen) : Prop :=
  right = left.rewrap wraps ∧ Repainted screen left

variable {screen : Screen} {wraps counts counts' : Bool} {width height count : Nat} {x y : Int}

theorem rewrap_of_wraps (same : screen.wraps = wraps) : screen.rewrap wraps = screen := by
  subst same
  rfl

theorem locate_of_inside (x_nonneg : 0 ≤ x) (y_nonneg : 0 ≤ y) (x_lt : x < screen.logicalWidth)
    (y_lt : y < screen.logicalHeight) : screen.locate x y = .ok (some (x, y)) := by
  have sides : ¬ (screen.logicalWidth = 0 ∨ screen.logicalHeight = 0) := by omega
  have before : ¬ (screen.logicalWidth ≤ x ∨ screen.logicalHeight ≤ y) := by omega
  simp only [locate, if_neg sides, if_neg before, Int.fmod_eq_of_lt x_nonneg x_lt,
    Int.fmod_eq_of_lt y_nonneg y_lt, ite_self]

theorem locate_ne_none (wraps : screen.wraps = true) : screen.locate x y ≠ .ok none := by
  simp only [locate, if_pos wraps]
  split <;> simp

theorem select_rewrap (screen : Screen) (wraps : Bool) (mask : Int) :
    (screen.rewrap wraps).select mask = (·.rewrap wraps) <$> screen.select mask := by
  by_cases named : 0 ≤ mask ∧ mask < (1 <<< screen.planes.size : Nat)
  · rw [show screen.select mask = _ from if_pos named]
    exact if_pos named
  · rw [show screen.select mask = _ from if_neg named]
    exact if_neg named

theorem scroll_rewrap (screen : Screen) (wraps : Bool) (direction : Direction) (distance : Int) :
    (screen.rewrap wraps).scroll direction distance =
      (·.rewrap wraps) <$> screen.scroll direction distance := by
  rw [scroll, scroll, show (screen.rewrap wraps).selected = screen.selected from rfl]
  -- The planes to be scrolled are settled beforehand, so they do not go by the screen any more.
  generalize screen.selected = numbers
  induction numbers generalizing screen with
  | nil => rfl
  | cons number rest induction =>
      rw [List.foldlM_cons, List.foldlM_cons]
      rw [show ((screen.rewrap wraps).plane number).scroll (screen.rewrap wraps).width
        (screen.rewrap wraps).height direction distance =
          (screen.plane number).scroll screen.width screen.height direction distance from rfl]
      rcases (screen.plane number).scroll screen.width screen.height direction distance with
        fault | plane
      · rfl
      · exact induction (screen.withPlane number plane)

theorem flip_rewrap {number : Nat}
    (located : (screen.rewrap wraps).locate x y = screen.locate x y) :
    (screen.rewrap wraps).flip number x y =
      ((screen.flip number x y).1.rewrap wraps, (screen.flip number x y).2) := by
  simp only [flip, located]
  rcases screen.locate x y with fault | _ | ⟨column, row⟩ <;> rfl

/-- A screen meets the same as one with other edges on the screen itself.  With the same edges it
meets the same everywhere, but where it clips, what is clipped has to count alike. -/
theorem Shaped.countsAlike (shaped : screen.Shaped width height count)
    (wide : screen.scale ≤ width) (high : screen.scale ≤ height) {number : Nat}
    (existing : number ∈ screen.selected) (x_nonneg : 0 ≤ x) (y_nonneg : 0 ≤ y)
    (agree : x < screen.logicalWidth ∧ y < screen.logicalHeight ∨
      screen.wraps = wraps ∧ (wraps = true ∨ counts = counts')) :
    CountsAlike (Rewrapped screen wraps) counts counts' number x y := by
  rintro left _ ⟨rfl, repainted⟩
  have scale_eq : left.scale = screen.scale := by rw [scale, scale, repainted.lowRes]
  have visible : x < screen.logicalWidth ∧ y < screen.logicalHeight →
      left.locate x y = .ok (some (x, y)) ∧
        (left.rewrap wraps).locate x y = .ok (some (x, y)) := by
    rw [logicalWidth, logicalHeight, ← repainted.width, ← repainted.height, ← scale_eq]
    rintro ⟨x_lt, y_lt⟩
    exact ⟨locate_of_inside x_nonneg y_nonneg x_lt y_lt,
      locate_of_inside x_nonneg y_nonneg x_lt y_lt⟩
  have same_place : (left.rewrap wraps).locate x y = left.locate x y := by
    rcases agree with on_screen | ⟨same, -⟩
    · obtain ⟨located, located'⟩ := visible on_screen
      rw [located, located']
    · rw [rewrap_of_wraps (repainted.wraps.trans same)]
  have shaped' := shaped.repainted repainted
  rcases shaped'.locate_cases (by rw [scale_eq]; exact wide) (by rw [scale_eq]; exact high)
    (Or.inr ⟨x_nonneg, y_nonneg⟩) with clipped | ⟨column, row, located, fits_x, fits_y⟩
  · have flipped : left.flip number x y = (left, .ok .clipped) := by
      rw [Screen.flip, clipped]
    refine ⟨_, _, .clipped, flipped, ?_, ⟨rfl, repainted⟩, fun _ => ?_⟩
    · rw [flip_rewrap same_place, flipped]
    · rcases agree with on_screen | ⟨same, rfl | count⟩
      · cases clipped.symm.trans (visible on_screen).1
      · exact absurd clipped (locate_ne_none (repainted.wraps.trans same))
      · exact count
  · obtain ⟨contact, flipped, unclipped, -⟩ :=
      shaped'.flip_of_located (shaped.lt_of_selected existing) located fits_x fits_y
    have existing' : number ∈ left.selected := by
      rw [selected, repainted.mask, repainted.count]
      exact existing
    refine ⟨_, _, contact, flipped, ?_, ⟨rfl, ?_⟩, fun clipped => absurd clipped unclipped⟩
    · rw [flip_rewrap same_place, flipped]
    · exact repainted.trans (repainted_toggle _ existing')

end Screen

namespace Machine

/-- The same machine with a screen that wraps or not. -/
def rewrap (wraps : Bool) (machine : Machine) : Machine :=
  { machine with screen := machine.screen.rewrap wraps }

/-- The same machine with the edges of another dialect. -/
def inDialect (dialect : Dialect) (machine : Machine) : Machine :=
  machine.rewrap (!dialect .clipping)

/-- Some set bit of a sprite comes to lie past the right or the bottom edge of the screen. -/
def Overhangs (arch : Arch) (machine : Machine) (x y rows : Digit) : Prop :=
  let size := SpriteSize.ofRows arch machine.highRes rows
  let left := Int.fmod (machine.v.read x).toNat machine.screen.logicalWidth
  let top := Int.fmod (machine.v.read y).toNat machine.screen.logicalHeight
  ∃ pictures, machine.pictures arch rows = .ok pictures ∧
    ∃ number < machine.screen.selected.length, ∃ row < size.rows, ∃ column < size.width,
      size.sets pictures number row column = true ∧
        (machine.screen.logicalWidth ≤ left + column ∨ machine.screen.logicalHeight ≤ top + row)

end Machine

/-- The instruction may do something else if the trait is decided otherwise. -/
def Trait.Concerns (arch : Arch) (dialect : Dialect) (machine : Machine) :
    Trait → Instruction → Prop
  | .flagReset, .arithmetic operation _ _ => operation = .or ∨ operation = .and ∨ operation = .xor
  | .indexAdvance, .store _ | .indexAdvance, .load _ => True
  | .frameWait, .draw _ _ _ => machine.keyFrame = false
  | .clipping, .draw x y rows => machine.Overhangs arch x y rows
  | .shiftInPlace, .arithmetic operation x y =>
      (operation = .shiftRight ∨ operation = .shiftLeft) ∧ x ≠ y
  | .jumpByRegister, .jumpIndexed _ => True
  | .clipCollision, .draw x y rows => dialect .clipping = true ∧ machine.Overhangs arch x y rows
  | .physicalScroll, .scroll _ _ => machine.screen.scale = 2
  | _, _ => False

namespace Machine

variable {arch : Arch} {dialect dialect' : Dialect} {machine : Machine} {random : UInt8}
  {instruction : Instruction}

/-! ## Instructions and the edges of the screen -/

theorem holds_rewrap (machine : Machine) (wraps : Bool) (condition : Condition) :
    condition.holds (machine.rewrap wraps) = condition.holds machine := by
  cases condition <;> rfl

theorem combine_rewrap (machine : Machine) (wraps : Bool) (operation : Arithmetic) (x y : Digit) :
    (machine.rewrap wraps).combine dialect operation x y =
      ((machine.combine dialect operation x y).1.rewrap wraps,
        (machine.combine dialect operation x y).2) := by
  simp only [combine, rewrap]
  rcases (operation.apply dialect (machine.v.read x) (machine.v.read y)).2 with _ | flag <;> rfl

theorem passBlock_rewrap (machine : Machine) (wraps : Bool) (x : Digit) :
    (machine.rewrap wraps).passBlock arch dialect x =
      (machine.passBlock arch dialect x).rewrap wraps := by
  simp only [passBlock, rewrap]
  split <;> rfl

/-- Only drawing looks at what happens at the edges. -/
theorem perform_rewrap (machine : Machine) (wraps : Bool)
    (other : ∀ x y rows, instruction ≠ .draw x y rows) :
    (machine.rewrap wraps).perform arch dialect random instruction =
      ((machine.perform arch dialect random instruction).1.rewrap wraps,
        (machine.perform arch dialect random instruction).2) := by
  cases instruction with
  | draw x y rows => exact absurd rfl (other x y rows)
  | skip condition =>
      rw [perform, perform, holds_rewrap]
      cases condition.holds machine <;> rfl
  | arithmetic operation x y => exact machine.combine_rewrap wraps operation x y
  | awaitKey x =>
      simp only [perform]
      rw [show (machine.rewrap wraps).lowestKey? = machine.lowestKey? from rfl]
      rcases machine.lowestKey? with _ | key <;> rfl
  | readDelay x =>
      refine settle_map (rewrap wraps) machine ?_
      by_cases byte : 0 ≤ machine.delay ∧ machine.delay ≤ 0xFF
      · rw [show machine.readDelay x = _ from if_pos byte]
        exact if_pos byte
      · rw [show machine.readDelay x = _ from if_neg byte]
        exact if_neg byte
  | resolution high =>
      simp only [perform, setResolution, rewrap]
      split <;> rfl
  | store x | load x =>
      refine settle_map (rewrap wraps) machine ?_
      refine ((map_bind _ _ _).trans ?_).symm
      simp only [map_pure, ← passBlock_rewrap]
      rfl
  | scroll direction count =>
      refine settle_map (rewrap wraps) machine ?_
      simp only [scroll]
      rw [show (machine.rewrap wraps).screen.scale = machine.screen.scale from rfl,
        show (machine.rewrap wraps).screen = machine.screen.rewrap wraps from rfl]
      generalize ((if dialect .physicalScroll then count.val
        else count * machine.screen.scale : Nat) : Int) = distance
      rw [Screen.scroll_rewrap]
      rcases machine.screen.scroll direction distance with fault | screen <;> rfl
  | selectPlanes mask =>
      refine settle_map (rewrap wraps) machine ?_
      rw [show (machine.rewrap wraps).screen.select mask.val = _ from
        machine.screen.select_rewrap wraps mask.val]
      rcases machine.screen.select mask.val with fault | screen <;> rfl
  | ret | call _ | storeDecimal x | setIndexLong | loadPattern =>
      refine settle_map (rewrap wraps) machine ?_
      refine ((map_bind _ _ _).trans ?_).symm
      rfl
  | storeRange x y =>
      simp only [perform, storeRange]
      rw [show (machine.rewrap wraps).checkRange (range x y) = machine.checkRange (range x y)
        from rfl]
      rcases machine.checkRange (range x y) with fault | _ <;> rfl
  | loadRange x y =>
      simp only [perform, loadRange]
      rw [show (machine.rewrap wraps).checkRange (range x y) = machine.checkRange (range x y)
        from rfl]
      rcases machine.checkRange (range x y) with fault | _ <;> rfl
  | _ => rfl

/-! ## Instructions and what a dialect decides -/

theorem combine_of_agree (operation : Arithmetic) (x y : Digit)
    (agree : ∀ trait : Trait,
      trait.Concerns arch dialect machine (.arithmetic operation x y) →
        dialect' trait = dialect trait) :
    machine.combine dialect' operation x y = machine.combine dialect operation x y := by
  have flagReset : operation = .or ∨ operation = .and ∨ operation = .xor →
      dialect' .flagReset = dialect .flagReset := fun reset => agree .flagReset reset
  have shiftInPlace : operation = .shiftRight ∨ operation = .shiftLeft → x ≠ y →
      dialect' .shiftInPlace = dialect .shiftInPlace :=
    fun shifts apart => agree .shiftInPlace ⟨shifts, apart⟩
  have applied : operation.apply dialect' (machine.v.read x) (machine.v.read y) =
      operation.apply dialect (machine.v.read x) (machine.v.read y) := by
    cases operation with
    | or | and | xor => simp only [Arithmetic.apply, flagReset (by simp)]
    | shiftRight | shiftLeft =>
        by_cases same : x = y
        · simp only [Arithmetic.apply, same, ite_self]
        · simp only [Arithmetic.apply, shiftInPlace (by simp) same]
    | copy | add | subtract | subtractFrom => rfl
  simp only [combine, applied]

/-- Dialects that agree on the traits that concern an instruction carry it out alike on one
machine.  Drawing is told apart, as it looks at the edges of the screen. -/
theorem perform_of_agree (other : ∀ x y rows, instruction ≠ .draw x y rows)
    (agree : ∀ trait : Trait, trait.Concerns arch dialect machine instruction →
      dialect' trait = dialect trait) :
    machine.perform arch dialect' random instruction =
      machine.perform arch dialect random instruction := by
  cases instruction with
  | draw x y rows => exact absurd rfl (other x y rows)
  | arithmetic operation x y => exact combine_of_agree operation x y agree
  | store x | load x => simp only [perform, passBlock, agree .indexAdvance trivial]
  | jumpIndexed address => simp only [perform, jumpRegister, agree .jumpByRegister trivial]
  | scroll direction count =>
      by_cases large : machine.screen.scale = 2
      · simp only [perform, scroll, agree .physicalScroll large]
      · have single : machine.screen.scale = 1 := by
          rw [Screen.scale] at large ⊢
          split at large
          case isTrue => exact absurd rfl large
          case isFalse small => rw [if_neg small]
        simp only [perform, scroll, single, Nat.mul_one, ite_self]
  | _ => rfl

/-! ## Sprites and what a dialect decides -/

theorem inDialect_of_clipping (wellFormed : machine.WellFormed arch dialect)
    (same : dialect' .clipping = dialect .clipping) : machine.inDialect dialect' = machine := by
  rw [inDialect, rewrap, same, Screen.rewrap_of_wraps wellFormed.wraps]

theorem WellFormed.inDialect (wellFormed : machine.WellFormed arch dialect) (dialect' : Dialect) :
    (machine.inDialect dialect').WellFormed arch dialect' :=
  { wellFormed with
    screen :=
      { width_eq := wellFormed.screen.width_eq
        height_eq := wellFormed.screen.height_eq
        planes_size := wellFormed.screen.planes_size
        planes_sized := wellFormed.screen.planes_sized }
    wraps := rfl }

/-- What happens at the edges shows only if a sprite reaches over them, and whether lost pixels
count only if they are lost. -/
theorem WellFormed.draw_inDialect (wellFormed : machine.WellFormed arch dialect) (x y rows : Digit)
    (clipping : machine.Overhangs arch x y rows → dialect' .clipping = dialect .clipping)
    (clipCollision : machine.Overhangs arch x y rows → dialect .clipping = true →
      dialect' .clipCollision = dialect .clipCollision) :
    (machine.inDialect dialect').draw arch dialect' x y rows =
      (·.inDialect dialect') <$> machine.draw arch dialect x y rows := by
  have wellFormed' := wellFormed.inDialect dialect'
  rcases refusal : blockFault? arch machine.index (machine.spriteBytes arch rows) with _ | fault
  · obtain ⟨fetched, pictures_eq⟩ := wellFormed.exists_pictures refusal
    obtain ⟨wide, high⟩ := wellFormed.scale_le
    obtain ⟨left_nonneg, top_nonneg⟩ := wellFormed.corner_nonneg x y
    let size := SpriteSize.ofRows arch machine.highRes rows
    let left := Int.fmod (machine.v.read x).toNat machine.screen.logicalWidth
    let top := Int.fmod (machine.v.read y).toNat machine.screen.logicalHeight
    have alike : ∀ place number, machine.screen.selected[place]? = some number →
        ∀ row < size.rows, ∀ column < size.width, size.sets fetched place row column →
          Screen.CountsAlike (Screen.Rewrapped machine.screen (!dialect' .clipping))
            (dialect .clipCollision) (dialect' .clipCollision) number (left + column)
            (top + row) := by
      intro place number found row row_lt column column_lt set
      refine wellFormed.screen.countsAlike wide high (List.mem_of_getElem? found)
        (Int.add_nonneg left_nonneg (Int.natCast_nonneg _))
        (Int.add_nonneg top_nonneg (Int.natCast_nonneg _)) ?_
      by_cases beyond : machine.screen.logicalWidth ≤ left + column ∨
        machine.screen.logicalHeight ≤ top + row
      · have overhangs : machine.Overhangs arch x y rows :=
          ⟨fetched, pictures_eq, place, (List.getElem?_eq_some_iff.mp found).1, row, row_lt,
            column, column_lt, set, beyond⟩
        right
        rw [wellFormed.wraps, clipping overhangs]
        cases clips : dialect .clipping
        · exact ⟨rfl, Or.inl rfl⟩
        · exact ⟨rfl, Or.inr (clipCollision overhangs clips).symm⟩
      · left
        omega
    obtain ⟨screen, _, count, drawn, drawn', rfl, -⟩ :=
      Screen.drawPictures_matched_of_sets alike ⟨rfl, .refl machine.screen⟩
    rw [wellFormed.draw_of_drawn pictures_eq drawn,
      wellFormed'.draw_of_drawn pictures_eq drawn']
    rfl
  · rw [wellFormed.draw_of_fault refusal, wellFormed'.draw_of_fault refusal]
    rfl

theorem mustWait_of_agree {x y rows : Digit}
    (agree : ∀ trait : Trait, trait.Concerns arch dialect machine (.draw x y rows) →
      dialect' trait = dialect trait) :
    (machine.inDialect dialect').mustWait dialect' = machine.mustWait dialect := by
  rw [show (machine.inDialect dialect').mustWait dialect' = machine.mustWait dialect' from rfl]
  rcases opens : machine.keyFrame
  · rw [mustWait, mustWait, agree .frameWait opens]
  · simp only [mustWait, opens, Bool.not_true, Bool.and_false]

/-- Dialects that agree on what concerns an instruction carry it out alike. -/
theorem WellFormed.perform_inDialect (wellFormed : machine.WellFormed arch dialect)
    (agree : ∀ trait : Trait, trait.Concerns arch dialect machine instruction →
      dialect' trait = dialect trait) :
    (machine.inDialect dialect').perform arch dialect' random instruction =
      ((machine.perform arch dialect random instruction).1.inDialect dialect',
        (machine.perform arch dialect random instruction).2) := by
  by_cases drawing : ∃ x y rows, instruction = .draw x y rows
  · obtain ⟨x, y, rows, rfl⟩ := drawing
    have drawn := wellFormed.draw_inDialect x y rows (agree .clipping)
      fun overhangs clips => agree .clipCollision ⟨clips, overhangs⟩
    simp only [perform, mustWait_of_agree agree, drawn]
    cases machine.mustWait dialect
    · rcases machine.draw arch dialect x y rows with fault | after <;> rfl
    · rfl
  · have other (x y rows : Digit) : instruction ≠ .draw x y rows :=
      fun same => drawing ⟨x, y, rows, same⟩
    rw [Machine.inDialect, perform_rewrap machine _ other, perform_of_agree other agree]
    rfl

end Machine

namespace Processor

variable {arch : Arch} {dialect dialect' : Dialect} {processor : Processor}

/-- The same processor in another dialect. -/
def inDialect (dialect : Dialect) (processor : Processor) : Processor :=
  { processor with dialect, machine := processor.machine.inDialect dialect }

theorem execute_inDialect
    (wellFormed : processor.machine.WellFormed processor.arch processor.dialect)
    {opcode : Int} {word : Word} (spelled : Word.ofInt? opcode = some word)
    (agree : ∀ instruction, word.decode processor.arch = .instruction instruction →
      ∀ trait : Trait,
        trait.Concerns processor.arch processor.dialect processor.machine instruction →
          dialect' trait = processor.dialect trait) :
    ((processor.inDialect dialect').execute opcode).result = (processor.execute opcode).result ∧
      ((processor.inDialect dialect').execute opcode).processor =
        (processor.execute opcode).processor.inDialect dialect' := by
  have wellFormed' := wellFormed.inDialect dialect'
  rcases reading : word.decode processor.arch with instruction | instruction | _
  · obtain ⟨lines, announced⟩ :=
      exists_announce { processor with opcode } wellFormed.v instruction
    obtain ⟨lines', announced'⟩ :=
      exists_announce { processor.inDialect dialect' with opcode } wellFormed'.v instruction
    have rolled : (processor.inDialect dialect').roll instruction = processor.roll instruction := by
      cases instruction <;> rfl
    have performed : (processor.inDialect dialect').machine.perform
        (processor.inDialect dialect').arch (processor.inDialect dialect').dialect
        (processor.roll instruction).1 instruction =
          ((processor.machine.perform processor.arch processor.dialect
            (processor.roll instruction).1 instruction).1.inDialect dialect', _) :=
      wellFormed.perform_inDialect (agree instruction reading)
    rw [execute_of_instruction wellFormed spelled reading announced,
      @execute_of_instruction (processor.inDialect dialect') _ _ _ _ wellFormed' spelled reading
        announced', rolled, performed]
    exact ⟨rfl, rfl⟩
  · obtain ⟨lines, announced⟩ :=
      exists_announce { processor with opcode } wellFormed.v instruction
    obtain ⟨lines', announced'⟩ :=
      exists_announce { processor.inDialect dialect' with opcode } wellFormed'.v instruction
    rw [execute_of_reserved spelled reading announced,
      @execute_of_reserved (processor.inDialect dialect') _ _ _ _ spelled reading announced']
    exact ⟨rfl, rfl⟩
  · rw [execute_of_unknown spelled reading,
      @execute_of_unknown (processor.inDialect dialect') _ _ spelled reading]
    exact ⟨rfl, rfl⟩

/-- Two dialects that differ in one trait execute a word alike unless the trait concerns the
instruction in it.  Unless that trait is the one about the edges of the screen, the machines are the
same before and afterwards. -/
theorem Reachable.traits_isolated (reachable : processor.Reachable arch dialect) {trait : Trait}
    (differ : ∀ other, other ≠ trait → dialect' other = dialect other) (word : Word)
    (unconcerned : ∀ instruction, word.decode arch = .instruction instruction →
      ¬ trait.Concerns arch dialect processor.machine instruction) :
    let left := processor.execute word.value.val
    let right := (processor.inDialect dialect').execute word.value.val
    right.result = left.result ∧
      right.processor = left.processor.inDialect dialect' ∧
      (trait ≠ .clipping →
        (processor.inDialect dialect').machine = processor.machine ∧
          right.processor.machine = left.processor.machine) := by
  have wellFormed := reachable.wellFormed
  obtain rfl := reachable.arch_eq
  obtain rfl := reachable.dialect_eq
  obtain ⟨result, after⟩ := execute_inDialect wellFormed word.ofInt?_value
    fun instruction reading other concerned => differ other (by
      rintro rfl
      exact unconcerned instruction reading concerned)
  refine ⟨result, after, fun apart => ?_⟩
  have clipping := differ .clipping (Ne.symm apart)
  refine ⟨Machine.inDialect_of_clipping wellFormed clipping, ?_⟩
  -- The processor is in its own dialect already, and so it is after executing.
  have own : processor.inDialect processor.dialect = processor := by
    rw [inDialect, Machine.inDialect_of_clipping wellFormed rfl]
  obtain ⟨-, stays⟩ := execute_inDialect wellFormed word.ofInt?_value fun _ _ _ _ => rfl
  rw [own] at stays
  rw [after]
  conv_rhs => rw [stays]
  simp only [inDialect, Machine.inDialect, clipping]

/-- A picture of five rows in the corner of a screen that clips is drawn as on one that wraps. -/
theorem Reachable.traits_isolated_in_corner :
    let processor := Processor.powerOn .superChip (.standard .superChip) false []
    let dialect' := Function.update (Dialect.standard .superChip) .clipping false
    let word : Word := ⟨0xD015⟩
    let left := processor.execute word.value.val
    let right := (processor.inDialect dialect').execute word.value.val
    processor.Reachable .superChip (.standard .superChip) ∧
      (∀ other, other ≠ .clipping → dialect' other = Dialect.standard .superChip other) ∧
      (∀ instruction, word.decode .superChip = .instruction instruction →
        ¬ Trait.Concerns .superChip (.standard .superChip) processor.machine .clipping
          instruction) ∧
      right.result = left.result ∧
      right.processor = left.processor.inDialect dialect' := by
  have reachable := Reachable.powerOn .superChip (.standard .superChip) false []
  have differ : ∀ other, other ≠ .clipping →
      Function.update (Dialect.standard .superChip) .clipping false other =
        Dialect.standard .superChip other :=
    fun other apart => Function.update_of_ne apart _ _
  have unconcerned : ∀ instruction,
      Word.decode .superChip ⟨0xD015⟩ = .instruction instruction →
        ¬ Trait.Concerns .superChip (.standard .superChip)
          (Processor.powerOn .superChip (.standard .superChip) false []).machine .clipping
          instruction := by
    rintro _ ⟨⟩ ⟨pictures, -, number, -, row, row_lt, column, column_lt, -, beyond⟩
    have small : row < 5 ∧ column < 8 := ⟨row_lt, column_lt⟩
    rcases beyond with wide | high
    · have inside : (64 : Int) ≤ 0 + column := wide
      omega
    · have inside : (32 : Int) ≤ 0 + row := high
      omega
  obtain ⟨result, after, -⟩ := traits_isolated reachable differ ⟨0xD015⟩ unconcerned
  exact ⟨reachable, differ, unconcerned, result, after⟩

end Processor

end Chip8
