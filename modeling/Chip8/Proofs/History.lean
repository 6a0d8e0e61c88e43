import Chip8.Proofs.Step

/-!
# Histories of a processor

A processor that is switched on is then operated in any order: programs are loaded, single
instructions executed, timers ticked, keys moved, the machine is reset, kept, and put back as it was
kept.  An operation that is refused or stopped by a fault is as good as any other.  Every machine
that comes about this way is well formed.
-/

namespace Chip8

/-- What may be done to a processor. -/
inductive Operation where
  /-- Put a program into memory. -/
  | load (program : Array UInt8)
  /-- Execute one instruction. -/
  | step (keyFrame : Bool)
  /-- Count the timers down. -/
  | tick
  /-- Press or release a key. -/
  | setKey (key : Int) (held : Bool)
  /-- Switch off and on. -/
  | reset
  /-- Keep the machine as it is. -/
  | snapshot
  /-- Go back to one of the machines that were kept, the first being number zero. -/
  | restore (number : Nat)

/-- A processor and the machines that were kept of it. -/
structure Bench where
  /-- The processor. -/
  processor : Processor
  /-- The machines that were kept, oldest first. -/
  kept : List Machine

namespace Bench

/-- A processor that has just been switched on.  The dice hold all random bytes to come. -/
def start (arch : Arch) (dialect : Dialect) (live : Bool) (dice : List UInt8) : Bench where
  processor := .powerOn arch dialect live dice
  kept := []

/-- Go over to another processor, or stay with this one if there is none. -/
def adopt (bench : Bench) : Except Fault Processor → Bench
  | .ok processor => { bench with processor }
  | .error _ => bench

/-- The bench after an operation. -/
def operate (bench : Bench) : Operation → Bench
  | .load program => bench.adopt (bench.processor.load program)
  | .step keyFrame => { bench with processor := (bench.processor.step keyFrame).processor }
  | .tick => { bench with processor := bench.processor.tick }
  | .setKey key held => bench.adopt (bench.processor.setKey key held)
  | .reset => { bench with processor := bench.processor.reset }
  | .snapshot => { bench with kept := bench.kept ++ [bench.processor.machine] }
  | .restore number =>
      match bench.kept[number]? with
      | some machine => { bench with processor := bench.processor.restore machine }
      | none => bench

/-- The bench after operations, one after the other. -/
def run (bench : Bench) (operations : List Operation) : Bench := operations.foldl operate bench

/-- The processor and every machine that was kept of it are in order. -/
structure InOrder (arch : Arch) (dialect : Dialect) (bench : Bench) : Prop where
  /-- The architecture stays. -/
  arch_eq : bench.processor.arch = arch
  /-- The dialect stays. -/
  dialect_eq : bench.processor.dialect = dialect
  /-- The machine is well formed. -/
  machine : bench.processor.machine.WellFormed arch dialect
  /-- So is every machine that was kept. -/
  kept : ∀ machine ∈ bench.kept, machine.WellFormed arch dialect

variable {arch : Arch} {dialect : Dialect} {bench : Bench}

theorem inOrder_start (arch : Arch) (dialect : Dialect) (live : Bool) (dice : List UInt8) :
    (start arch dialect live dice).InOrder arch dialect where
  arch_eq := rfl
  dialect_eq := rfl
  machine := Machine.wellFormed_powerOn arch dialect
  kept := List.forall_mem_nil _

namespace InOrder

/-- Another well-formed machine in the same processor. -/
theorem replace (inOrder : bench.InOrder arch dialect) {machine : Machine}
    (wellFormed : machine.WellFormed arch dialect) :
    { bench with processor := { bench.processor with machine } }.InOrder arch dialect :=
  { inOrder with machine := wellFormed }

theorem load (inOrder : bench.InOrder arch dialect) (program : Array UInt8) :
    (bench.operate (.load program)).InOrder arch dialect := by
  rw [operate, Processor.load]
  rcases loaded : bench.processor.machine.load program with fault | machine
  · exact inOrder
  · exact inOrder.replace (inOrder.machine.load loaded)

theorem setKey (inOrder : bench.InOrder arch dialect) (key : Int) (held : Bool) :
    (bench.operate (.setKey key held)).InOrder arch dialect := by
  rw [operate, Processor.setKey]
  rcases accepted : bench.processor.machine.setKey key held with fault | machine
  · exact inOrder
  · exact inOrder.replace (inOrder.machine.setKey accepted)

theorem step (inOrder : bench.InOrder arch dialect) (keyFrame : Bool) :
    (bench.operate (.step keyFrame)).InOrder arch dialect := by
  obtain ⟨rfl, rfl, machine, kept⟩ := inOrder
  obtain ⟨arch_eq, dialect_eq, wellFormed⟩ := Processor.wellFormed_step machine keyFrame
  exact ⟨arch_eq, dialect_eq, wellFormed, kept⟩

theorem reset (inOrder : bench.InOrder arch dialect) :
    (bench.operate .reset).InOrder arch dialect := by
  rw [operate, Processor.reset]
  refine ⟨inOrder.arch_eq, inOrder.dialect_eq, ?_, inOrder.kept⟩
  rw [inOrder.arch_eq]
  exact inOrder.machine.reset

/-- No operation brings a machine out of order. -/
theorem operate (inOrder : bench.InOrder arch dialect) (operation : Operation) :
    (bench.operate operation).InOrder arch dialect := by
  cases operation with
  | load program => exact inOrder.load program
  | step keyFrame => exact inOrder.step keyFrame
  | tick => exact inOrder.replace inOrder.machine.tick
  | setKey key held => exact inOrder.setKey key held
  | reset => exact inOrder.reset
  | snapshot =>
      refine { inOrder with kept := ?_ }
      intro machine member
      rw [Bench.operate, List.mem_append, List.mem_singleton] at member
      rcases member with before | rfl
      · exact inOrder.kept machine before
      · exact inOrder.machine
  | restore number =>
      rw [Bench.operate]
      rcases found : bench.kept[number]? with _ | machine
      · exact inOrder
      · exact inOrder.replace (inOrder.kept machine (List.mem_of_getElem? found))

theorem run (inOrder : bench.InOrder arch dialect) (operations : List Operation) :
    (bench.run operations).InOrder arch dialect := by
  induction operations generalizing bench with
  | nil => exact inOrder
  | cons operation rest induction => exact induction (inOrder.operate operation)

end InOrder

end Bench

/-! ## Reachable processors -/

/-- A processor that operations can bring about with an architecture and a dialect. -/
def Processor.Reachable (arch : Arch) (dialect : Dialect) (processor : Processor) : Prop :=
  ∃ live dice operations,
    ((Bench.start arch dialect live dice).run operations).processor = processor

namespace Processor.Reachable

variable {arch : Arch} {dialect : Dialect} {processor : Processor}

theorem powerOn (arch : Arch) (dialect : Dialect) (live : Bool) (dice : List UInt8) :
    (Processor.powerOn arch dialect live dice).Reachable arch dialect :=
  ⟨live, dice, [], rfl⟩

theorem arch_eq (reachable : processor.Reachable arch dialect) : processor.arch = arch := by
  obtain ⟨live, dice, operations, rfl⟩ := reachable
  exact ((Bench.inOrder_start arch dialect live dice).run operations).arch_eq

theorem dialect_eq (reachable : processor.Reachable arch dialect) :
    processor.dialect = dialect := by
  obtain ⟨live, dice, operations, rfl⟩ := reachable
  exact ((Bench.inOrder_start arch dialect live dice).run operations).dialect_eq

theorem wellFormed (reachable : processor.Reachable arch dialect) :
    processor.machine.WellFormed arch dialect := by
  obtain ⟨live, dice, operations, rfl⟩ := reachable
  exact ((Bench.inOrder_start arch dialect live dice).run operations).machine

theorem wellFormed_self (reachable : processor.Reachable arch dialect) :
    processor.machine.WellFormed processor.arch processor.dialect := by
  rw [reachable.arch_eq, reachable.dialect_eq]
  exact reachable.wellFormed

end Processor.Reachable

/-- Whatever is done to a processor, and whatever random bytes it gets, its machine stays well
formed, and its screen shows large pixels exactly on a later architecture without high
resolution. -/
theorem Bench.machine_invariant (arch : Arch) (dialect : Dialect) (live : Bool)
    (dice : List UInt8) (operations : List Operation) :
    let machine := ((start arch dialect live dice).run operations).processor.machine
    machine.WellFormed arch dialect ∧
      machine.screen.scale = (if arch ≠ .chip8 ∧ machine.highRes = false then 2 else 1) ∧
      machine.screen.logicalWidth * machine.screen.scale = arch.screenWidth ∧
      machine.screen.logicalHeight * machine.screen.scale = arch.screenHeight := by
  intro machine
  have wellFormed : machine.WellFormed arch dialect :=
    ((inOrder_start arch dialect live dice).run operations).machine
  exact ⟨wellFormed, wellFormed.scale_eq, wellFormed.logical_eq⟩

end Chip8
