import Chip8.Processor

/-!
# What an instruction can be refused for

Once a word has been decoded, nothing that is done about the instruction is refused as unsupported:
not the accesses to memory, stack, registers and screen, and so not the execution as a whole.  This
holds of every machine, well formed or not.
-/

namespace Chip8

/-- Whatever the computation is refused for, it is not for an instruction that the architecture does
not have. -/
def Understood {α : Type} (computation : Except Fault α) : Prop :=
  ∀ report, computation ≠ .error (.unsupported report)

namespace Understood

variable {α β σ : Type}

theorem ok (value : α) : Understood (.ok value) := nofun

/-- A fault is understood whatever it keeps from being computed. -/
theorem relay {fault : Fault} (understood : Understood (.error fault : Except Fault α)) :
    Understood (.error fault : Except Fault β) := by
  intro report refused
  cases refused
  exact understood report rfl

theorem bind {first : Except Fault α} {next : α → Except Fault β} (understood : Understood first)
    (further : ∀ value, Understood (next value)) : Understood (first >>= next) := by
  cases first with
  | ok value => exact further value
  | error fault => exact understood.relay

theorem map {computation : Except Fault α} (understood : Understood computation)
    (change : α → β) : Understood (computation.map change) := by
  cases computation with
  | ok value => exact ok _
  | error fault => exact understood.relay

theorem foldlM {body : σ → α → Except Fault σ}
    (understood : ∀ state turn, Understood (body state turn)) (turns : List α) (state : σ) :
    Understood (turns.foldlM body state) := by
  induction turns generalizing state with
  | nil => exact ok state
  | cons turn rest induction =>
      rw [List.foldlM_cons]
      exact (understood state turn).bind induction

end Understood

/-! ## Parts of the machine -/

namespace Store

variable {α : Type} (store : Store α)

theorem understood_check (address : Int) : Understood (store.check address) := by
  unfold check
  split <;> exact nofun

theorem understood_read [Inhabited α] (address : Int) : Understood (store.read address) :=
  (store.understood_check address).bind fun _ => .ok _

theorem understood_readBlock (address count : Int) : Understood (store.readBlock address count) :=
  (store.understood_check _).bind fun _ => .ok _

theorem understood_write (address : Int) (value : α) : Understood (store.write address value) :=
  (store.understood_check address).bind fun _ => .ok _

theorem understood_writeBlock (address : Int) (block : Array α) :
    Understood (store.writeBlock address block) :=
  (store.understood_check _).bind fun _ => .ok _

theorem understood_fill (address count : Int) (value : α) :
    Understood (store.fill address count value) := by
  unfold fill
  split
  · exact .ok store
  · exact (store.understood_check _).bind fun _ => .ok _

end Store

namespace BoundedStack

variable {α : Type} (stack : BoundedStack α)

theorem understood_push (item : α) : Understood (stack.push item) := by
  unfold push
  split <;> exact nofun

theorem understood_pop [Zero α] : Understood stack.pop := by
  unfold pop
  split <;> exact nofun

end BoundedStack

theorem Registers.understood_demand (registers : Registers) (needed : List Digit) :
    Understood (registers.demand needed) := by
  unfold demand
  split <;> exact nofun

theorem Plane.understood_flipCells (positions : List Int) (lit : Bool) (plane : Plane) :
    Understood (plane.flipCells positions lit).2 := by
  induction positions generalizing lit plane with
  | nil => exact .ok lit
  | cons position rest induction =>
      rw [flipCells]
      split
      · exact nofun
      · exact induction _ _

namespace Screen

variable (screen : Screen)

theorem understood_scroll (direction : Direction) (count : Int) :
    Understood (screen.scroll direction count) := by
  refine Understood.foldlM (fun screen number => ?_) _ _
  have scrolled : Understood
      ((screen.plane number).scroll screen.width screen.height direction count) :=
    .foldlM (fun plane _ => plane.understood_fill _ _ _) _ _
  exact scrolled.bind fun _ => .ok _

theorem understood_select (mask : Int) : Understood (screen.select mask) := by
  unfold select
  split <;> exact nofun

theorem understood_locate (x y : Int) : Understood (screen.locate x y) := by
  simp only [locate]
  repeat' split
  all_goals exact nofun

theorem understood_flip (number : Nat) (x y : Int) : Understood (screen.flip number x y).2 := by
  have located := screen.understood_locate x y
  unfold flip
  split
  case h_1 fault refused => exact (refused ▸ located).relay
  case h_2 => exact .ok _
  case h_3 => exact (Plane.understood_flipCells _ _ _).map _

theorem understood_drawRow (countClipped : Bool) (number : Nat) (left top : Int)
    (width bits : Nat) : Understood (screen.drawRow countClipped number left top width bits) := by
  refine Understood.foldlM (fun (screen, collided) column => ?_) _ _
  have flipped := screen.understood_flip number (left + column) top
  simp only
  split
  · rcases met : screen.flip number (left + column) top with ⟨after, fault | contact⟩
    · rw [met] at flipped
      exact flipped.relay
    · cases contact <;> exact .ok _
  · exact .ok _

theorem understood_drawPicture (countClipped : Bool) (size : SpriteSize) (picture : Array UInt8)
    (number : Nat) (left top : Int) :
    Understood (screen.drawPicture countClipped size picture number left top) :=
  Understood.foldlM (fun (screen, _) _ => (screen.understood_drawRow _ _ _ _ _ _).bind
    fun _ => .ok _) _ _

theorem understood_drawPictures (countClipped : Bool) (size : SpriteSize) (left top : Int)
    (numbers : List Nat) (pictures : Array UInt8) :
    Understood (screen.drawPictures countClipped size left top numbers pictures) := by
  induction numbers generalizing screen pictures with
  | nil => exact .ok _
  | cons number rest induction =>
      exact (screen.understood_drawPicture _ _ _ _ _ _).bind
        fun (screen, _) => (induction screen _).bind fun _ => .ok _

end Screen

/-! ## Instructions -/

namespace Machine

variable {arch : Arch} {dialect : Dialect} (machine : Machine)

theorem understood_settle {result : Except Fault Machine} (understood : Understood result) :
    Understood (machine.settle result).2 := by
  cases result with
  | ok other => exact .ok ()
  | error fault => exact understood.relay

theorem understood_operand : Understood machine.operand :=
  (Store.understood_readBlock _ _ _).bind fun _ => .ok _

theorem understood_combine (operation : Arithmetic) (x y : Digit) :
    Understood (machine.combine dialect operation x y).2 := by
  simp only [combine]
  split
  · exact Registers.understood_demand _ _
  · exact .ok ()

theorem understood_asByte (number : Nat) : Understood (asByte number) := by
  unfold asByte
  split <;> exact nofun

theorem understood_draw (x y rows : Digit) :
    Understood (machine.draw arch dialect x y rows) := by
  simp only [draw]
  split
  · exact nofun
  · split <;> refine Understood.bind ?_ fun _ =>
      (Screen.understood_drawPictures _ _ _ _ _ _ _).bind fun _ =>
        (understood_asByte _).bind fun _ => .ok _
    · exact .ok #[]
    · exact Store.understood_readBlock _ _ _

theorem understood_storeEach (v : Registers) (address : Int) (registers : List Digit)
    (memory : Memory) : Understood (storeEach v address registers memory).2 := by
  induction registers generalizing address memory with
  | nil => exact .ok ()
  | cons register rest induction =>
      have written : Understood (v.demand [register] *> memory.write address (v.read register)) :=
        (v.understood_demand _).bind fun _ => memory.understood_write _ _
      rw [storeEach]
      split
      case h_1 fault refused => exact (refused ▸ written).relay
      case h_2 => exact induction _ _

theorem understood_loadEach (memory : Memory) (address : Int) (registers : List Digit)
    (v : Registers) : Understood (loadEach memory address registers v).2 := by
  induction registers generalizing address v with
  | nil => exact .ok ()
  | cons register rest induction =>
      have read : Understood (memory.read address <* v.demand [register]) :=
        (memory.understood_read _).bind fun _ => (v.understood_demand _).map _
      rw [loadEach]
      split
      case h_1 fault refused => exact (refused ▸ read).relay
      case h_2 => exact induction _ _

theorem understood_checkRange (registers : List Digit) :
    Understood (machine.checkRange registers) :=
  Store.understood_check _ _

theorem understood_storeRange (x y : Digit) : Understood (machine.storeRange x y).2 := by
  have checked := machine.understood_checkRange (range x y)
  unfold storeRange
  split
  case h_1 fault refused => exact (refused ▸ checked).relay
  case h_2 => exact understood_storeEach _ _ _ _

theorem understood_loadRange (x y : Digit) : Understood (machine.loadRange x y).2 := by
  have checked := machine.understood_checkRange (range x y)
  unfold loadRange
  split
  case h_1 fault refused => exact (refused ▸ checked).relay
  case h_2 => exact understood_loadEach _ _ _ _

theorem understood_perform (random : UInt8) (instruction : Instruction) :
    Understood (machine.perform arch dialect random instruction).2 := by
  cases instruction with
  | ret => exact machine.understood_settle (machine.stack.understood_pop.bind fun _ => .ok _)
  | call address =>
      exact machine.understood_settle ((machine.stack.understood_push _).bind fun _ => .ok _)
  | arithmetic operation x y => exact machine.understood_combine operation x y
  | draw x y rows =>
      have drawn : Understood (machine.draw arch dialect x y rows) :=
        machine.understood_draw x y rows
      rw [perform]
      split
      · exact .ok ()
      · split
        case h_1 => exact Registers.understood_demand _ _
        case h_2 fault refused => exact (refused ▸ drawn).relay
  | readDelay x =>
      refine machine.understood_settle ?_
      unfold readDelay
      split <;> exact nofun
  | awaitKey x =>
      rw [perform]
      split <;> exact .ok ()
  | storeDecimal x | store x =>
      exact machine.understood_settle ((Store.understood_writeBlock _ _ _).bind fun _ => .ok _)
  | load x | loadPattern =>
      exact machine.understood_settle ((Store.understood_readBlock _ _ _).bind fun _ => .ok _)
  | scroll direction count =>
      exact machine.understood_settle ((Screen.understood_scroll _ _ _).bind fun _ => .ok _)
  | storeRange x y => exact machine.understood_storeRange x y
  | loadRange x y => exact machine.understood_loadRange x y
  | setIndexLong => exact machine.understood_settle (machine.understood_operand.bind fun _ => .ok _)
  | selectPlanes mask =>
      exact machine.understood_settle ((Screen.understood_select _ _).bind fun _ => .ok _)
  | _ => exact .ok ()

/-- No machine refuses an instruction as one that its architecture does not have. -/
theorem understood_execute (random : UInt8) (instruction : Instruction) :
    Understood (machine.execute arch dialect random instruction).2 := by
  have demanded := machine.v.understood_demand (machine.operands dialect instruction)
  unfold execute
  split
  case h_1 fault refused => exact (refused ▸ demanded).relay
  case h_2 => exact machine.understood_perform random instruction

end Machine

/-! ## Announcements and reports -/

namespace Processor

variable (processor : Processor)

theorem understood_announce (instruction : Instruction) :
    Understood (processor.announce instruction) := by
  unfold announce
  split
  · rcases instruction.mnemonic? processor.dialect processor.machine with _ | text
    · exact .ok []
    · simp only [Option.toList_some, List.mapM_cons, List.mapM_nil, line]
      exact ((Registers.understood_demand _ _).bind fun _ => .ok _).bind fun _ => .ok _
  · exact .ok []

theorem understood_report (text : String) : Understood (processor.report text) :=
  (Registers.understood_demand _ _).bind fun _ =>
    (Registers.understood_demand _ _).bind fun _ => .ok _

/-- A report on an instruction that the architecture does not have names the number that was handed
over and the address it was fetched from. -/
theorem report_of_unsupported {report : CrashReport}
    (reported : processor.unsupported = .unsupported report) :
    report.opcode = processor.opcode ∧ report.address = processor.fetchedFrom := by
  unfold unsupported at reported
  split at reported
  case h_1 fault refused =>
    rw [reported] at refused
    exact absurd refused (processor.understood_report unknownText report)
  case h_2 =>
    cases reported
    exact ⟨rfl, rfl⟩

end Processor

end Chip8
