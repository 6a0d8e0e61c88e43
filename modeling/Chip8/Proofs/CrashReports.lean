import Chip8.Proofs.ReportText
import Chip8.Proofs.Restart
import Chip8.Proofs.Unsupported

/-!
# Crash reports lose nothing

Two processors whose reports are the same text have the same registers, timers, flags and return
addresses, were stopped at the same address and by the same number.  This holds of the report alone
and of the message that is shown when an instruction is declined.
-/

namespace Chip8

namespace Processor

variable {arch arch' : Arch} {dialect dialect' : Dialect} {processor left right : Processor}
  {outcome : Outcome Unit} {report report' : CrashReport}

/-- What a full report shows of a processor. -/
def readout (processor : Processor) : Machine.Readout :=
  processor.machine.readout processor.fetchedFrom processor.opcode

/-- What comes of an instruction when the processor steps to it, or when its number is handed over
for execution. -/
inductive Attempt (processor : Processor) : Outcome Unit → Prop
  /-- The instruction is fetched. -/
  | step (keyFrame : Bool) : Attempt processor (processor.step keyFrame)
  /-- The instruction is handed over. -/
  | execute (opcode : Int) : Attempt processor (processor.execute opcode)

/-- A full report is made of the processor, in which the number of its architecture can be told from
what follows. -/
structure Reports (processor : Processor) (report : CrashReport) : Prop where
  /-- Nothing that the report lists is missing. -/
  reportable : processor.machine.Reportable
  /-- The number of the architecture ends before the bracket behind it. -/
  label : ')' ∉ processor.label.toList
  /-- The processor is what the report is made of. -/
  report_eq : report =
    { arch := processor.label
      opcode := processor.opcode
      address := processor.fetchedFrom
      state := processor.machine.fullReport processor.fetchedFrom processor.opcode unknownText }

/-- Everything that a report lists can be read from the text of the report. -/
theorem Reports.readout_eq (reports : left.Reports report) (reports' : right.Reports report')
    (same : report.text = report'.text) : left.readout = right.readout := by
  obtain ⟨⟨v, flags⟩, label, rfl⟩ := reports
  obtain ⟨⟨v', flags'⟩, label', rfl⟩ := reports'
  have state := congrArg CrashReport.state (CrashReport.text_injective label label' same)
  exact (Machine.eq_of_fullReport v v' flags flags' state).1

/-! ## What is reported -/

theorem reports_of_unsupported (reportable : processor.machine.Reportable)
    (label : ')' ∉ processor.label.toList)
    (reported : processor.unsupported = .unsupported report) : processor.Reports report := by
  have full := report_of_full reportable.registers reportable.flags unknownText
  simp only [unsupported, full, Fault.unsupported.injEq] at reported
  exact ⟨reportable, label, reported.symm⟩

/-- A number that is declined leaves the processor that is reported. -/
theorem reports_of_execute (reportable : processor.machine.Reportable)
    (label : ')' ∉ processor.label.toList) {opcode : Int}
    (declined : (processor.execute opcode).result = .error (.unsupported report)) :
    (processor.execute opcode).processor.Reports report := by
  rcases spelled : Word.ofInt? opcode with _ | word
  · simp only [execute, spelled] at declined
    cases declined
  · rcases reading : word.decode processor.arch with instruction | instruction | _
    · exact absurd declined (understood_of_documented spelled
        (Word.decode_reads_iff.mp ⟨instruction, reading⟩) report)
    · obtain ⟨lines, announced⟩ :=
        exists_announce { processor with opcode } reportable.registers instruction
      rw [execute_of_reserved spelled reading announced] at declined ⊢
      exact reports_of_unsupported reportable label (Except.error.inj declined)
    · rw [execute_of_unknown spelled reading] at declined ⊢
      exact reports_of_unsupported reportable label (Except.error.inj declined)

theorem reports_of_step (reportable : processor.machine.Reportable)
    (label : ')' ∉ processor.label.toList) {keyFrame : Bool}
    (declined : (processor.step keyFrame).result = .error (.unsupported report)) :
    (processor.step keyFrame).processor.Reports report := by
  rcases read : processor.machine.operand with fault | value
  · have understood := processor.machine.understood_operand
    rw [read] at understood
    rw [step_of_unread keyFrame read] at declined
    exact absurd declined (understood.relay report)
  · rw [step_of_operand keyFrame read] at declined ⊢
    exact @reports_of_execute (processor.advance keyFrame) report
      ⟨reportable.registers, reportable.flags⟩ label value declined

namespace Reachable

/-- The label of a processor is the number of its architecture. -/
theorem label_eq (reachable : processor.Reachable arch dialect) :
    processor.label = toString arch.code := by
  obtain ⟨live, dice, _, _, _, _, setting⟩ := reachable.inOrder.setting
  rw [setting]
  rfl

theorem reports_of_attempt (reachable : processor.Reachable arch dialect)
    (attempt : processor.Attempt outcome)
    (declined : outcome.result = .error (.unsupported report)) :
    outcome.processor.Reports report := by
  have reportable := reachable.wellFormed.reportable
  have label : ')' ∉ processor.label.toList := by
    rw [reachable.label_eq]
    cases arch <;> decide
  cases attempt with
  | step keyFrame => exact reports_of_step reportable label declined
  | execute opcode => exact reports_of_execute reportable label declined

/-- Reports of any two processors are written whatever the text of the instruction is, and they
differ unless the processors agree in all that is listed; and so do the messages that are shown when
both decline an instruction. -/
theorem readout_of_report (reachable : left.Reachable arch dialect)
    (reachable' : right.Reachable arch' dialect') :
    (∀ text text', ∃ shown shown',
      left.report text = .ok shown ∧ right.report text' = .ok shown' ∧
        (shown = shown' → left.readout = right.readout ∧ text = text')) ∧
    ∀ outcome outcome' report report', left.Attempt outcome → right.Attempt outcome' →
      outcome.result = .error (.unsupported report) →
      outcome'.result = .error (.unsupported report') →
      (Fault.unsupported report).message = (Fault.unsupported report').message →
      outcome.processor.readout = outcome'.processor.readout := by
  obtain ⟨v, flags⟩ := reachable.wellFormed.reportable
  obtain ⟨v', flags'⟩ := reachable'.wellFormed.reportable
  constructor
  · intro text text'
    exact ⟨_, _, report_of_full v flags text, report_of_full v' flags' text',
      Machine.eq_of_fullReport v v' flags flags'⟩
  · intro outcome outcome' report report' attempt attempt' declined declined' same
    exact (reachable.reports_of_attempt attempt declined).readout_eq
      (reachable'.reports_of_attempt attempt' declined') same

/-- Reports do not list keys, so holding one makes no difference to a report, nor to what is read
from it. -/
theorem readout_of_report_with_held_key :
    let bench := Bench.start .chip8 (.standard .chip8) true []
    let left := (bench.run [.load #[0x51, 0x22]]).processor
    let right := (bench.run [.load #[0x51, 0x22], .setKey 3 true]).processor
    left.Reachable .chip8 (.standard .chip8) ∧ right.Reachable .chip8 (.standard .chip8) ∧
      left.report "CLS" = right.report "CLS" ∧ left.readout = right.readout ∧
      ∃ report report', (left.step true).result = .error (.unsupported report) ∧
        (right.step false).result = .error (.unsupported report') ∧
        ((Fault.unsupported report).message = (Fault.unsupported report').message →
          (left.step true).processor.readout = (right.step false).processor.readout) := by
  intro bench left right
  have reachable : left.Reachable .chip8 (.standard .chip8) := ⟨true, [], _, rfl⟩
  have reachable' : right.Reachable .chip8 (.standard .chip8) := ⟨true, [], _, rfl⟩
  obtain ⟨determined, shown⟩ := readout_of_report reachable reachable'
  -- Said of every processor, so that the loaded one is not computed.
  have unseen (processor : Processor) (keys : Vector Bool 16) :
      { processor with machine := { processor.machine with keys } }.report "CLS" =
        processor.report "CLS" := rfl
  have same : left.report "CLS" = right.report "CLS" := (unseen left _).symm
  obtain ⟨text, text', written, written', determines⟩ := determined "CLS" "CLS"
  have readout_eq : left.readout = right.readout :=
    (determines (Except.ok.inj (written.symm.trans (same.trans written')))).1
  have fits : Machine.programStart + (#[0x51, 0x22] : Array UInt8).size ≤
    Arch.chip8.memorySize := by decide
  have meets : left.machine.Meets ⟨0x5122⟩ := by
    rw [show left = _ from Bench.processor_run_load .chip8 (.standard .chip8) true [] fits]
    exact @Machine.meets_of_patch _ _ _ 0 _ _
      (Machine.wellFormed_powerOn .chip8 (.standard .chip8)).memory rfl rfl (by decide) fits rfl
  have kept (machine : Machine) (keys : Vector Bool 16) (meets : machine.Meets ⟨0x5122⟩) :
      { machine with keys }.Meets ⟨0x5122⟩ := meets
  have meets' : right.machine.Meets ⟨0x5122⟩ := kept left.machine _ meets
  have undocumented : ¬ Word.Documented .chip8 ⟨0x5122⟩ := by decide
  obtain ⟨report, declined⟩ := left.unsupported_of_meets reachable.wellFormed_self true meets
    (reachable.arch_eq ▸ undocumented)
  obtain ⟨report', declined'⟩ := right.unsupported_of_meets reachable'.wellFormed_self false meets'
    (reachable'.arch_eq ▸ undocumented)
  exact ⟨reachable, reachable', same, readout_eq, report, report', declined, declined',
    shown _ _ report report' (.step true) (.step false) declined declined'⟩

end Reachable

end Processor

end Chip8
