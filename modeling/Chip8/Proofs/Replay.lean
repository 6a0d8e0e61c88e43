import Chip8.Proofs.History

/-!
# Replaying from a kept machine

A machine that was kept does not say which number was executed last and where it was fetched.  No
operation looks at either before it has set them anew, so two processors that differ in nothing else
cannot be told apart, and a processor that goes back to a kept machine repeats what it did from
there.
-/

namespace Chip8

/-! ## What a host sees -/

/-- What an operation shows to the host. -/
structure Response where
  /-- The machine afterwards. -/
  machine : Machine
  /-- Lines announced on the way. -/
  lines : List String
  /-- The result, or what stopped it. -/
  result : Except Fault Unit

namespace Bench

/-- What an operation announces and what comes of it.  Keeping a machine and going back to one
always succeed. -/
def answer (bench : Bench) : Operation → List String × Except Fault Unit
  | .load program => ([], (bench.processor.load program).map fun _ => ())
  | .step keyFrame =>
      let outcome := bench.processor.step keyFrame
      (outcome.lines, outcome.result)
  | .setKey key held => ([], (bench.processor.setKey key held).map fun _ => ())
  | .tick | .reset | .snapshot | .restore _ => ([], .ok ())

/-- What operations show, one after the other. -/
def transcript (bench : Bench) : List Operation → List Response
  | [] => []
  | operation :: rest =>
      let after := bench.operate operation
      let (lines, result) := bench.answer operation
      ⟨after.processor.machine, lines, result⟩ :: after.transcript rest

/-- The same bench with other random bytes to come. -/
def withDice (bench : Bench) (dice : List UInt8) : Bench :=
  { bench with processor := { bench.processor with dice } }

end Bench

namespace Processor

variable {processor left right : Processor}

/-! ## Processors that cannot be told apart -/

/-- The processors differ at most in the number last executed and in where it was fetched. -/
def Alike (left right : Processor) : Prop :=
  ∃ opcode fetchedFrom, right = { left with opcode, fetchedFrom }

theorem execute_withOpcode (processor : Processor) (opcode number : Int) :
    { processor with opcode }.execute number = processor.execute number := by
  simp only [execute]

namespace Alike

theorem refl (processor : Processor) : Alike processor processor := ⟨_, _, rfl⟩

theorem machine_eq (alike : Alike left right) : right.machine = left.machine := by
  obtain ⟨opcode, fetchedFrom, rfl⟩ := alike
  rfl

theorem withMachine (alike : Alike left right) (machine : Machine) :
    Alike { left with machine } { right with machine } := by
  obtain ⟨opcode, fetchedFrom, rfl⟩ := alike
  exact ⟨opcode, fetchedFrom, rfl⟩

theorem reset (alike : Alike left right) : Alike left.reset right.reset := by
  obtain ⟨opcode, fetchedFrom, rfl⟩ := alike
  simp only [Processor.reset]
  exact ⟨_, _, rfl⟩

/-- A step notes where it fetches and what, before it looks at either. -/
theorem step (alike : Alike left right) (keyFrame : Bool) :
    (right.step keyFrame).lines = (left.step keyFrame).lines ∧
      (right.step keyFrame).result = (left.step keyFrame).result ∧
      Alike (left.step keyFrame).processor (right.step keyFrame).processor := by
  have operand_eq : right.machine.operand = left.machine.operand := by rw [alike.machine_eq]
  obtain ⟨opcode, fetchedFrom, rfl⟩ := alike
  rcases read : left.machine.operand with fault | value
  · rw [step_of_unread keyFrame read, step_of_unread keyFrame (operand_eq.trans read)]
    exact ⟨rfl, rfl, opcode, left.machine.pc, rfl⟩
  · have advanced : { left with opcode, fetchedFrom }.advance keyFrame =
        { left.advance keyFrame with opcode } := rfl
    rw [step_of_operand keyFrame read, step_of_operand keyFrame (operand_eq.trans read), advanced,
      execute_withOpcode]
    exact ⟨rfl, rfl, .refl _⟩

end Alike

/-! ## What never changes -/

/-- The processors have the same architecture, dialect, label and debugging mode. -/
def SameSetting (before after : Processor) : Prop :=
  ∃ machine opcode fetchedFrom dice,
    after = { before with machine, opcode, fetchedFrom, dice }

theorem SameSetting.refl (processor : Processor) : SameSetting processor processor :=
  ⟨_, _, _, _, rfl⟩

theorem SameSetting.trans {first second third : Processor} (left : SameSetting first second)
    (right : SameSetting second third) : SameSetting first third := by
  obtain ⟨_, _, _, _, rfl⟩ := left
  obtain ⟨_, _, _, _, rfl⟩ := right
  exact ⟨_, _, _, _, rfl⟩

theorem sameSetting_execute (processor : Processor) (opcode : Int) :
    SameSetting processor (processor.execute opcode).processor := by
  simp only [execute]
  repeat' split
  all_goals exact ⟨_, _, _, _, rfl⟩

theorem sameSetting_step (processor : Processor) (keyFrame : Bool) :
    SameSetting processor (processor.step keyFrame).processor := by
  rcases read : processor.machine.operand with fault | value
  · rw [step_of_unread keyFrame read]
    exact ⟨_, _, _, _, rfl⟩
  · rw [step_of_operand keyFrame read]
    exact .trans ⟨_, _, _, _, rfl⟩ (sameSetting_execute (processor.advance keyFrame) value)

end Processor

namespace Bench

open Processor (Alike SameSetting sameSetting_step)

variable {left right : Bench}

theorem sameSetting_operate (bench : Bench) (operation : Operation) :
    SameSetting bench.processor (bench.operate operation).processor := by
  cases operation with
  | load program =>
      rw [operate, Processor.load]
      rcases bench.processor.machine.load program with fault | machine <;> exact ⟨_, _, _, _, rfl⟩
  | step keyFrame => exact sameSetting_step bench.processor keyFrame
  | setKey key held =>
      rw [operate, Processor.setKey]
      rcases bench.processor.machine.setKey key held with fault | machine <;>
        exact ⟨_, _, _, _, rfl⟩
  | tick => exact ⟨_, _, _, _, rfl⟩
  | reset =>
      rw [operate, Processor.reset]
      exact ⟨_, _, _, _, rfl⟩
  | snapshot => exact .refl _
  | restore number =>
      rw [operate]
      split <;> exact ⟨_, _, _, _, rfl⟩

theorem sameSetting_run (bench : Bench) (operations : List Operation) :
    SameSetting bench.processor (bench.run operations).processor := by
  induction operations generalizing bench with
  | nil => exact .refl _
  | cons operation rest induction =>
      exact (bench.sameSetting_operate operation).trans (induction (bench.operate operation))

/-- No operation throws away a machine that was kept. -/
theorem kept_operate (bench : Bench) (operation : Operation) :
    bench.kept <+: (bench.operate operation).kept := by
  cases operation with
  | load program =>
      rw [operate]
      rcases bench.processor.load program with fault | processor <;> exact List.prefix_rfl
  | setKey key held =>
      rw [operate]
      rcases bench.processor.setKey key held with fault | processor <;> exact List.prefix_rfl
  | snapshot => exact List.prefix_append _ _
  | restore number =>
      rw [operate]
      split <;> exact List.prefix_rfl
  | step | tick | reset => simp only [operate, List.prefix_rfl]

theorem kept_run (bench : Bench) (operations : List Operation) :
    bench.kept <+: (bench.run operations).kept := by
  induction operations generalizing bench with
  | nil => exact List.prefix_rfl
  | cons operation rest induction =>
      exact (bench.kept_operate operation).trans (induction (bench.operate operation))

/-! ## Replaying -/

/-- Processors that are alike answer alike and stay alike. -/
theorem alike_operate (alike : Alike left.processor right.processor) {operation : Operation}
    (stays : ∀ number, operation ≠ .restore number) :
    right.answer operation = left.answer operation ∧
      Alike (left.operate operation).processor (right.operate operation).processor := by
  cases operation with
  | load program =>
      simp only [answer, operate, Processor.load, alike.machine_eq]
      rcases left.processor.machine.load program with fault | machine
      · exact ⟨rfl, alike⟩
      · exact ⟨rfl, alike.withMachine machine⟩
  | step keyFrame =>
      obtain ⟨lines, result, alike'⟩ := alike.step keyFrame
      exact ⟨Prod.ext lines result, alike'⟩
  | tick =>
      refine ⟨rfl, ?_⟩
      rw [operate, operate, Processor.tick, Processor.tick, alike.machine_eq]
      exact alike.withMachine _
  | setKey key held =>
      simp only [answer, operate, Processor.setKey, alike.machine_eq]
      rcases left.processor.machine.setKey key held with fault | machine
      · exact ⟨rfl, alike⟩
      · exact ⟨rfl, alike.withMachine machine⟩
  | reset => exact ⟨rfl, alike.reset⟩
  | snapshot => exact ⟨rfl, alike⟩
  | restore number => exact absurd rfl (stays number)

theorem transcript_eq (alike : Alike left.processor right.processor) {operations : List Operation}
    (stays : ∀ number, .restore number ∉ operations) :
    right.transcript operations = left.transcript operations := by
  induction operations generalizing left right with
  | nil => rfl
  | cons operation rest induction =>
      have first : ∀ number, operation ≠ .restore number := by
        rintro number rfl
        exact stays number List.mem_cons_self
      obtain ⟨answer_eq, alike'⟩ := alike_operate alike first
      have later := induction alike' fun number member =>
        stays number (List.mem_cons_of_mem operation member)
      rw [transcript, transcript, answer_eq, alike'.machine_eq, later]

/-- After a machine was kept, and whatever was done in the meantime, going back to it and then on
shows the same as going on right away: the same machines, announcements, results and faults.  In the
meantime the machine may have been gone back to as often as one likes. -/
theorem restore_replays (bench : Bench) (meantime sequel : List Operation)
    (stays : ∀ number, .restore number ∉ sequel) (dice : List UInt8) :
    let restored :=
      ((bench.operate .snapshot).run meantime).operate (.restore bench.kept.length)
    restored.processor.machine = bench.processor.machine ∧
      (restored.withDice dice).transcript sequel = (bench.withDice dice).transcript sequel := by
  have found : ((bench.operate .snapshot).run meantime).kept[bench.kept.length]? =
      some bench.processor.machine := by
    obtain ⟨later, kept_eq⟩ := (bench.operate .snapshot).kept_run meantime
    rw [← kept_eq, operate]
    simp
  obtain ⟨machine, opcode, fetchedFrom, dice', setting⟩ :=
    (bench.operate .snapshot).sameSetting_run meantime
  have restored_eq : (((bench.operate .snapshot).run meantime).operate
      (.restore bench.kept.length)).processor =
        { bench.processor with opcode, fetchedFrom, dice := dice' } := by
    simp only [operate] at found setting ⊢
    simp only [found, Processor.restore, setting]
  refine ⟨?_, transcript_eq ?_ stays⟩
  · rw [restored_eq]
  · exact ⟨opcode, fetchedFrom, by simp only [withDice, restored_eq]⟩

/-- A crash is replayed after another program has crashed in the meantime. -/
theorem restore_replays_crash :
    let bench := start .chip8 (.standard .chip8) true []
    let meantime : List Operation :=
      [.load #[0x00, 0xFF], .step true, .reset, .restore 0, .step false, .tick]
    let sequel : List Operation := [.setKey 3 true, .load #[0x51, 0x22], .step true, .reset]
    let restored := ((bench.operate .snapshot).run meantime).operate (.restore bench.kept.length)
    (∀ number, .restore number ∉ sequel) ∧
      restored.processor.machine = bench.processor.machine ∧
      (restored.withDice [7]).transcript sequel = (bench.withDice [7]).transcript sequel :=
  have stays : ∀ number, Operation.restore number ∉
      [.setKey 3 true, .load #[0x51, 0x22], .step true, .reset] := by simp
  ⟨stays, restore_replays (start .chip8 (.standard .chip8) true [])
    [.load #[0x00, 0xFF], .step true, .reset, .restore 0, .step false, .tick] _ stays [7]⟩

end Bench

end Chip8
