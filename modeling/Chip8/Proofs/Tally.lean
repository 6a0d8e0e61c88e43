import Mathlib.Algebra.BigOperators.Group.List.Basic
import Mathlib.Data.List.DropRight
import Chip8.Proofs.Spinning
import Chip8.Session.Play

/-!
# Frames and instructions reported

A session reports its performance every now and then: the frames completed since the last report and
the instructions that were due in them.  Whatever the clock shows and however frames end in between,
be it that a device fails in the middle of one, each completed frame goes into exactly one report or
is still to be reported, with as many instructions as the requests of that very frame have left for
it.
-/

namespace Chip8

/-- What is noted of a run. -/
inductive Note where
  /-- The devices take a report of that many frames and instructions. -/
  | report (frames : Nat) (instructions : Int)
  /-- A frame is completed, with that many instructions. -/
  | completed (instructions : Int)
deriving DecidableEq, Repr

namespace Note

/-- Frames and instructions that are reported. -/
def report? : Note → Option (Nat × Int)
  | .report frames instructions => some (frames, instructions)
  | .completed _ => none

/-- Instructions of a frame that is completed. -/
def completed? : Note → Option Int
  | .report _ _ => none
  | .completed instructions => some instructions

/-- Frames and instructions of each report. -/
def reports (notes : List Note) : List (Nat × Int) := notes.filterMap report?

/-- Instructions of each completed frame. -/
def completions (notes : List Note) : List Int := notes.filterMap completed?

/-- Instructions of each frame that has been completed since the last report. -/
def unreported (notes : List Note) : List Int :=
  completions (notes.rtakeWhile fun note => note.report?.isNone)

end Note

/-- The report that a signal is. -/
def Signal.note? : Signal → Option Note
  | .performance frames instructions => some (.report frames instructions)
  | _ => none

theorem Signal.note?_eq_none {signal : Signal}
    (other : ∀ frames instructions, signal ≠ .performance frames instructions) :
    signal.note? = none := by
  cases signal with
  | performance frames instructions => exact absurd rfl (other frames instructions)
  | _ => rfl

theorem Signal.IsAside.note?_eq_none {signal : Signal} (aside : signal.IsAside) :
    signal.note? = none :=
  Signal.note?_eq_none fun _ _ same => by rwa [same] at aside

/-- The signals that devices take, of those that they are passed in order. -/
def accepted {δ ε : Type} (react : δ → Signal → δ × Option ε) : List Signal → δ → List Signal
  | [], _ => []
  | signal :: rest, devices =>
      match react devices signal with
      | (_, some _) => []
      | (devices, none) => signal :: accepted react rest devices

namespace Performance

variable {δ ε : Type} (react : δ → Signal → δ × Option ε)

/-- The performance a turn later. -/
def take (performance : Performance δ) : Turn → Performance δ
  | .frame now input => (performance.frame react now input).1
  | .resume now => { performance with session := performance.session.resume now }

/-- The performance after turns, one after the other and whatever comes of each. -/
def run (performance : Performance δ) (turns : List Turn) : Performance δ :=
  turns.foldl (take react) performance

/-- The signals that the devices take in a turn. -/
def heardIn (performance : Performance δ) : Turn → List Signal
  | .frame now input =>
      accepted react (performance.session.frame now input).signals performance.devices
  | .resume _ => []

/-- The signals that the devices take in turns. -/
def heard (performance : Performance δ) : List Turn → List Signal
  | [] => []
  | turn :: rest => performance.heardIn react turn ++ (performance.take react turn).heard rest

/-- What is noted of a turn: the report of a frame, if the devices take one, and that the frame is
completed, unless it ends the session. -/
def notesIn (performance : Performance δ) : Turn → List Note
  | .frame now input =>
      (performance.heardIn react (.frame now input)).filterMap Signal.note? ++
        match (performance.frame react now input).2 with
        | none => [.completed (performance.session.prepared now input).ticks]
        | some _ => []
  | .resume _ => []

/-- What is noted of turns. -/
def notes (performance : Performance δ) : List Turn → List Note
  | [] => []
  | turn :: rest => performance.notesIn react turn ++ (performance.take react turn).notes rest

end Performance

/-! ## Notes and counters -/

namespace Note

/-- Two counters agree with what has been noted: they show what is still to be reported, every
report was right, and nothing has been lost or told twice. -/
structure Balanced (frames : Nat) (instructions : Int) (notes : List Note) : Prop where
  /-- Frames since the last report. -/
  length_unreported : frames = (unreported notes).length
  /-- Instructions since the last report. -/
  sum_unreported : instructions = (unreported notes).sum
  /-- Every report. -/
  right : ∀ earlier told told' later, notes = earlier ++ .report told told' :: later →
    told = (unreported earlier).length ∧ told' = (unreported earlier).sum
  /-- All frames. -/
  length_completions : ((reports notes).map Prod.fst).sum + frames = (completions notes).length
  /-- All instructions. -/
  sum_completions : ((reports notes).map Prod.snd).sum + instructions = (completions notes).sum

variable {frames : Nat} {instructions : Int} {notes : List Note}

theorem unreported_report (notes : List Note) (frames : Nat) (instructions : Int) :
    unreported (notes ++ [.report frames instructions]) = [] := by
  rw [unreported, List.rtakeWhile_concat_neg _ _ _ (by exact nofun)]
  rfl

theorem unreported_completed (notes : List Note) (instructions : Int) :
    unreported (notes ++ [.completed instructions]) = unreported notes ++ [instructions] := by
  rw [unreported, List.rtakeWhile_concat_pos _ _ _ rfl, completions, List.filterMap_append]
  rfl

theorem reports_report (notes : List Note) (frames : Nat) (instructions : Int) :
    reports (notes ++ [.report frames instructions]) = reports notes ++ [(frames, instructions)] :=
  List.filterMap_append

theorem reports_completed (notes : List Note) (instructions : Int) :
    reports (notes ++ [.completed instructions]) = reports notes :=
  List.filterMap_append.trans (List.append_nil _)

theorem completions_report (notes : List Note) (frames : Nat) (instructions : Int) :
    completions (notes ++ [.report frames instructions]) = completions notes :=
  List.filterMap_append.trans (List.append_nil _)

theorem completions_completed (notes : List Note) (instructions : Int) :
    completions (notes ++ [.completed instructions]) = completions notes ++ [instructions] :=
  List.filterMap_append

/-- What stands before a report among notes that one more note has been added to. -/
theorem split_concat {earlier later : List Note} {last : Note} {told : Nat} {told' : Int}
    (split : notes ++ [last] = earlier ++ .report told told' :: later) :
    (notes = earlier ∧ last = .report told told') ∨
      ∃ rest, notes = earlier ++ .report told told' :: rest := by
  rcases List.eq_nil_or_concat later with rfl | ⟨rest, final, rfl⟩
  · obtain ⟨same, last_eq⟩ := List.append_inj' split rfl
    exact Or.inl ⟨same, List.singleton_inj.mp last_eq⟩
  · rw [List.concat_eq_append, ← List.cons_append, ← List.append_assoc] at split
    exact Or.inr ⟨rest, (List.append_inj' split rfl).1⟩

theorem balanced_nil : Balanced 0 0 [] where
  length_unreported := rfl
  sum_unreported := rfl
  right _ _ _ _ split := absurd split.symm (List.append_ne_nil_of_right_ne_nil _ nofun)
  length_completions := rfl
  sum_completions := rfl

namespace Balanced

/-- A report begins a new count. -/
theorem report (balanced : Balanced frames instructions notes) :
    Balanced 0 0 (notes ++ [.report frames instructions]) where
  length_unreported := by rw [unreported_report]; rfl
  sum_unreported := by rw [unreported_report]; rfl
  right earlier told told' later split := by
    rcases split_concat split with ⟨rfl, last⟩ | ⟨rest, before⟩
    · cases last
      exact ⟨balanced.length_unreported, balanced.sum_unreported⟩
    · exact balanced.right earlier told told' rest before
  length_completions := by
    rw [reports_report, completions_report, List.map_append, List.sum_append, List.map_singleton,
      List.sum_singleton, Nat.add_zero]
    exact balanced.length_completions
  sum_completions := by
    rw [reports_report, completions_report, List.map_append, List.sum_append, List.map_singleton,
      List.sum_singleton, Int.add_zero]
    exact balanced.sum_completions

/-- A completed frame is counted. -/
theorem completed (balanced : Balanced frames instructions notes) (more : Int) :
    Balanced (frames + 1) (instructions + more) (notes ++ [.completed more]) where
  length_unreported := by
    rw [unreported_completed, List.length_append, ← balanced.length_unreported]
    rfl
  sum_unreported := by
    rw [unreported_completed, List.sum_append, ← balanced.sum_unreported, List.sum_singleton]
  right earlier told told' later split := by
    rcases split_concat split with ⟨-, last⟩ | ⟨rest, before⟩
    · cases last
    · exact balanced.right earlier told told' rest before
  length_completions := by
    rw [reports_completed, completions_completed, List.length_append,
      ← balanced.length_completions, ← Nat.add_assoc]
    rfl
  sum_completions := by
    rw [reports_completed, completions_completed, List.sum_append, List.sum_singleton,
      ← balanced.sum_completions, Int.add_assoc]

end Balanced

end Note

/-! ## Parts of a frame -/

/-- The counters of a session agree with what has been noted whenever a signal is sent, if those
before it were taken, and afterwards if all of them were. -/
inductive Steady (after : Session) : List Note → List Sent → Prop
  /-- Nothing more is sent. -/
  | done {past : List Note} (balanced : Note.Balanced after.frames after.instructions past) :
      Steady after past []
  /-- A signal is sent, then others if it is taken. -/
  | send {past : List Note} {entry : Sent} {rest : List Sent}
      (balanced : Note.Balanced entry.session.frames entry.session.instructions past)
      (others : Steady after (past ++ entry.signal.note?.toList) rest) :
      Steady after past (entry :: rest)

theorem filterMap_note?_cons (signal : Signal) (rest : List Signal) :
    (signal :: rest).filterMap Signal.note? =
      signal.note?.toList ++ rest.filterMap Signal.note? := by
  rw [List.filterMap_cons]
  cases signal.note? <;> rfl

namespace Steady

variable {before middle after : Session} {past : List Note} {sent first second : List Sent}

theorem append (one : Steady middle past first)
    (other : Steady after (past ++ (first.map Sent.signal).filterMap Signal.note?) second) :
    Steady after past (first ++ second) := by
  induction one with
  | done => exact (List.append_nil _ ▸ other :)
  | send balanced _ induction =>
      refine .send balanced (induction ?_)
      rwa [List.append_assoc, ← filterMap_note?_cons]

/-- Nothing is reported and nothing counted. -/
theorem of_silent (balanced : Note.Balanced before.frames before.instructions past)
    (silent : ∀ entry ∈ sent, entry.signal.note? = none ∧
      entry.session.frames = before.frames ∧ entry.session.instructions = before.instructions)
    (kept : after.frames = before.frames ∧ after.instructions = before.instructions) :
    Steady after past sent := by
  induction sent with
  | nil => exact .done (by rwa [kept.1, kept.2])
  | cons entry rest induction =>
      obtain ⟨⟨unnoted, frames, instructions⟩, others⟩ := List.forall_mem_cons.mp silent
      refine .send (by rwa [frames, instructions]) ?_
      rw [unnoted, Option.toList_none, List.append_nil]
      exact induction others

theorem of_aside (balanced : Note.Balanced before.frames before.instructions past)
    (aside : before.Aside after sent) : Steady after past sent := by
  refine of_silent balanced (fun entry member => ?_) ⟨aside.after.frames, aside.after.instructions⟩
  obtain ⟨unlike, along⟩ := aside.sent entry member
  exact ⟨unlike.note?_eq_none, along.frames, along.instructions⟩

theorem balanced (steady : Steady after past sent) :
    Note.Balanced after.frames after.instructions
      (past ++ (sent.map Sent.signal).filterMap Signal.note?) := by
  induction steady with
  | done balanced => exact (List.append_nil _).symm ▸ balanced
  | send _ _ induction =>
      rwa [List.map_cons, filterMap_note?_cons, ← List.append_assoc]

/-- At whatever signal devices fail, the counters agree with what they have taken. -/
theorem convey (steady : Steady after past sent) {δ ε : Type}
    (react : δ → Signal → δ × Option ε) (devices : δ) :
    let counted := (Chip8.convey react sent devices).2.elim after Prod.fst
    Note.Balanced counted.frames counted.instructions
      (past ++ (accepted react (sent.map Sent.signal) devices).filterMap Signal.note?) := by
  induction steady generalizing devices with
  | done balanced => exact (List.append_nil _).symm ▸ balanced
  | @send past entry rest balanced _ induction =>
      rw [List.map_cons, accepted, Chip8.convey]
      rcases react devices entry.signal with ⟨devices, _ | error⟩
      · dsimp only
        rw [filterMap_note?_cons, ← List.append_assoc]
        exact induction devices
      · exact (List.append_nil past).symm ▸ balanced

end Steady

namespace Session

variable {session : Session} {past : List Note}

/-- A report tells the counters and begins a new count. -/
theorem steady_reportPerformance
    (balanced : Note.Balanced session.frames session.instructions past) (now : Float) :
    let progress := session.reportPerformance now
    Steady progress.session past progress.sent := by
  rw [reportPerformance]
  split
  case isTrue => exact .done balanced
  case isFalse =>
    split
    case isTrue => exact .send balanced (.done balanced.report)
    case isFalse => exact .done balanced

/-- The last part of a completed frame counts only after all of it is told. -/
theorem steady_finish (balanced : Note.Balanced session.frames session.instructions past) :
    Steady session past session.finish.sent := by
  refine .of_silent balanced (fun entry member => ?_) ⟨rfl, rfl⟩
  obtain ⟨other, _, _, _, same⟩ := exists_of_mem_finish_sent _ entry member
  rw [Signal.note?_eq_none other, same]
  exact ⟨rfl, rfl, rfl⟩

/-- A frame is counted if it is completed, after all of it is told. -/
theorem steady_frame (balanced : Note.Balanced session.frames session.instructions past)
    (now : Float) (input : Input) :
    let progress := session.frame now input
    ∃ counted, Steady counted past progress.sent ∧
      ((progress.result ≠ .ok true ∧ progress.session = counted) ∨
        (progress.result = .ok true ∧ progress.session.frames = counted.frames + 1 ∧
          progress.session.instructions =
            counted.instructions + (session.prepared now input).ticks)) := by
  intro progress
  have opening := steady_reportPerformance balanced now
  rcases session.frame_aside now input with
    ⟨other, others, aside, sent⟩ | ⟨others, aside, framed⟩
  · refine ⟨progress.session, ?_, Or.inl ⟨other, rfl⟩⟩
    rw [sent]
    exact opening.append (.of_aside opening.balanced aside)
  · have told := opening.append (.of_aside opening.balanced aside)
    rw [show progress = _ from framed]
    exact ⟨_, told.append (steady_finish told.balanced), Or.inr ⟨rfl, rfl, rfl⟩⟩

end Session

namespace Performance

variable {δ ε : Type} (react : δ → Signal → δ × Option ε) {performance : Performance δ}
  {past : List Note}

/-- However a frame ends, the counters agree with what has been noted. -/
theorem balanced_take
    (balanced : Note.Balanced performance.session.frames performance.session.instructions past)
    (turn : Turn) :
    let after := (performance.take react turn).session
    Note.Balanced after.frames after.instructions (past ++ performance.notesIn react turn) := by
  cases turn with
  | resume now => exact (List.append_nil past).symm ▸ balanced
  | frame now input =>
      obtain ⟨counted, steady, ended⟩ := Session.steady_frame balanced now input
      have conveyed := steady.convey react performance.devices
      simp only [take, notesIn, heardIn, frame, Progress.signals]
      rw [← List.append_assoc]
      generalize convey react (performance.session.frame now input).sent performance.devices =
        conveyance at conveyed ⊢
      rcases conveyance with ⟨devices, _ | ⟨session, error⟩⟩
      · dsimp only [Option.elim] at conveyed ⊢
        rcases ended with ⟨other, kept⟩ | ⟨completed, frames, instructions⟩
        · rw [kept]
          rcases result : (performance.session.frame now input).result with stop | _ | _
          · exact (List.append_nil _).symm ▸ conveyed
          · exact (List.append_nil _).symm ▸ conveyed
          · exact absurd result other
        · rw [completed, frames, instructions]
          exact conveyed.completed _
      · exact (List.append_nil _).symm ▸ conveyed

theorem balanced_run
    (balanced : Note.Balanced performance.session.frames performance.session.instructions past)
    (turns : List Turn) :
    let after := (performance.run react turns).session
    Note.Balanced after.frames after.instructions (past ++ performance.notes react turns) := by
  induction turns generalizing performance past with
  | nil => exact (List.append_nil past).symm ▸ balanced
  | cons turn rest induction =>
      rw [notes, ← List.append_assoc]
      exact induction (balanced_take react balanced turn)

/-- The reports among the notes of turns are those that the devices take. -/
theorem filter_notes (performance : Performance δ) (turns : List Turn) :
    (performance.notes react turns).filter (·.report?.isSome) =
      (performance.heard react turns).filterMap Signal.note? := by
  have told (signals : List Signal) : ∀ note ∈ signals.filterMap Signal.note?,
      note.report?.isSome := by
    intro note member
    obtain ⟨signal, -, noted⟩ := List.mem_filterMap.mp member
    cases signal with
    | performance frames instructions =>
        cases noted
        rfl
    | _ => cases noted
  induction turns generalizing performance with
  | nil => rfl
  | cons turn rest induction =>
      rw [notes, heard, List.filter_append, List.filterMap_append, induction]
      congr 1
      cases turn with
      | resume now => rfl
      | frame now input =>
          rw [notesIn, List.filter_append, List.filter_eq_self.mpr (told _)]
          split <;> exact List.append_nil _

end Performance

/-! ## A display that fails -/

/-- A frame tells nothing of the performance but its report. -/
theorem Session.filterMap_note?_frame (session : Session) (now : Float) (input : Input) :
    (session.frame now input).signals.filterMap Signal.note? =
      (session.reportPerformance now).signals.filterMap Signal.note? := by
  have silent {sent : List Sent} (unnoted : ∀ entry ∈ sent, entry.signal.note? = none) :
      (sent.map Sent.signal).filterMap Signal.note? = [] :=
    List.filterMap_eq_nil_iff.mpr (List.forall_mem_map.mpr unnoted)
  have between {after : Session} {others : List Sent}
      (aside : (session.reportPerformance now).session.Aside after others) :
      (others.map Sent.signal).filterMap Signal.note? = [] :=
    silent fun entry member => (aside.sent entry member).1.note?_eq_none
  simp only [Progress.signals]
  rcases session.frame_aside now input with ⟨-, others, aside, sent⟩ | ⟨others, aside, framed⟩
  · rw [sent, List.map_append, List.filterMap_append, between aside, List.append_nil]
  · have ending (later : Session) :
        (later.finish.sent.map Sent.signal).filterMap Signal.note? = [] :=
      silent fun entry member =>
        Signal.note?_eq_none (later.exists_of_mem_finish_sent entry member).1
    rw [framed, List.map_append, List.map_append, List.filterMap_append, List.filterMap_append,
      between aside, ending _, List.append_nil, List.append_nil]

theorem convey_append_of_taken {δ ε : Type} {react : δ → Signal → δ × Option ε} {devices : δ}
    {first : List Sent} (taken : ∀ entry ∈ first, react devices entry.signal = (devices, none))
    (second : List Sent) :
    convey react (first ++ second) devices = convey react second devices ∧
      accepted react ((first ++ second).map Sent.signal) devices =
        first.map Sent.signal ++ accepted react (second.map Sent.signal) devices := by
  induction first with
  | nil => exact ⟨rfl, rfl⟩
  | cons entry rest induction =>
      obtain ⟨head, others⟩ := List.forall_mem_cons.mp taken
      rw [List.cons_append, List.map_cons, List.map_cons, convey, accepted, head]
      exact ⟨(induction others).1, congrArg (entry.signal :: ·) (induction others).2⟩

/-- If no device but the display can fail, a frame that the machine completes is counted unless the
picture is refused. -/
theorem Performance.take_of_completed {δ ε : Type} {react : δ → Signal → δ × Option ε}
    (deaf : ∀ devices signal, (∀ colours, signal ≠ .frame colours) →
      react devices signal = (devices, none))
    {performance : Performance δ} {now : Float} {input : Input}
    (completed : (performance.session.frame now input).result = .ok true) :
    ∃ processor rate pattern,
      let shown := { performance.session.prepared now input with processor, rate, pattern }
      let counted := { shown with
        frames := shown.frames + 1
        instructions := shown.instructions + shown.ticks }
      let reports := (performance.session.reportPerformance now).signals.filterMap Signal.note?
      let reaction := react performance.devices (.frame processor.machine.screen.colours)
      (performance.session.frame now input).session.processor = processor ∧
      performance.take react (.frame now input) =
        ⟨if reaction.2.isNone then counted else shown, performance.readings + 1, reaction.1⟩ ∧
      performance.notesIn react (.frame now input) =
        reports ++ if reaction.2.isNone then [.completed shown.ticks] else [] := by
  obtain ⟨told, processor, rate, pattern, framed, others⟩ := Session.exists_picture completed
  refine ⟨processor, rate, pattern, ?_⟩
  intro shown counted reports reaction
  have same : (performance.session.frame now input).session = counted := by rw [framed]
  have reported : (told.map Sent.signal).filterMap Signal.note? = reports := by
    have all := performance.session.filterMap_note?_frame now input
    rw [framed, Progress.signals, List.map_append, List.filterMap_append] at all
    exact (List.append_nil _).symm.trans all
  -- Everything before the picture is taken, so that the rest hangs on the picture alone.
  have taken (entry : Sent) (member : entry ∈ told) :
      react performance.devices entry.signal = (performance.devices, none) :=
    deaf _ _ (others entry member)
  have conveyed : convey react (performance.session.frame now input).sent performance.devices =
      convey react [⟨.frame processor.machine.screen.colours, shown⟩] performance.devices := by
    rw [framed]
    exact (convey_append_of_taken taken _).1
  have heard : accepted react (performance.session.frame now input).signals performance.devices =
      told.map Sent.signal ++
        accepted react [.frame processor.machine.screen.colours] performance.devices := by
    rw [framed]
    exact (convey_append_of_taken taken _).2
  refine ⟨congrArg Session.processor same, ?_⟩
  rcases reacted : reaction with ⟨devices, _ | error⟩
  all_goals
    simp only [take, notesIn, heardIn, frame, conveyed, heard, completed, same,
      List.filterMap_append, reported, convey, accepted, show react _ _ = _ from reacted]
    exact ⟨rfl, by rw [List.append_assoc]; rfl⟩

/-! ## From the start of a session -/

namespace Performance

/-- From the start of a session, on any devices and whatever it is asked for at whatever times, each
report that the devices take shows how many frames have been completed since the one before and for
how many instructions, and the counters show what is still to be reported.  A frame that is quit or
fails, in the machine or in a device, is not counted, and every other one goes into one report or is
still in the counters. -/
theorem frames_reported_once {δ ε : Type} (react : δ → Signal → δ × Option ε)
    {processor : Processor} {program : Array UInt8} {ticks : Int} {opening : Session × List Signal}
    (started : Session.start processor program ticks = .ok opening) (readings : Nat) (devices : δ)
    (turns : List Turn) :
    let performance : Performance δ := ⟨opening.1, readings, devices⟩
    let notes := performance.notes react turns
    let after := performance.run react turns
    (performance.heard react turns).filterMap Signal.note? = notes.filter (·.report?.isSome) ∧
    (∀ earlier frames instructions later,
      notes = earlier ++ .report frames instructions :: later →
        frames = (Note.unreported earlier).length ∧
          instructions = (Note.unreported earlier).sum) ∧
    (after.session.frames = (Note.unreported notes).length ∧
      after.session.instructions = (Note.unreported notes).sum) ∧
    ((Note.reports notes).map Prod.fst).sum + after.session.frames =
      (Note.completions notes).length ∧
    ((Note.reports notes).map Prod.snd).sum + after.session.instructions =
      (Note.completions notes).sum := by
  intro performance notes after
  have fresh : Note.Balanced opening.1.frames opening.1.instructions [] := by
    obtain ⟨loaded, -, rfl⟩ := Session.exists_of_start started
    exact Note.balanced_nil
  have balanced : Note.Balanced after.session.frames after.session.instructions notes :=
    @balanced_run _ _ react performance _ fresh turns
  exact ⟨(performance.filter_notes react turns).symm, balanced.right,
    ⟨balanced.length_unreported, balanced.sum_unreported⟩, balanced.length_completions,
    balanced.sum_completions⟩

/-- A display that refuses every other picture, next to devices that never fail. -/
def everyOther (refusing : Bool) : Signal → Bool × Option Unit
  | .frame _ => (!refusing, if refusing then some () else none)
  | _ => (refusing, none)

/-- A program that spins.  The first picture is shown and the second one refused, the third frame is
quit, and the fourth begins with the report and has more instructions. -/
theorem frames_reported_once_despite_failure :
    ∃ opening, Session.start (.powerOn .chip8 (.standard .chip8) false []) #[0x12, 0x00] 1 =
        .ok opening ∧
      let performance : Performance Bool := ⟨opening.1, 0, false⟩
      let turns : List Turn :=
        [.frame (-1) .idle, .frame (-1) .idle, .frame (-1) .quit,
          .frame 0 ⟨[.faster], Vector.replicate 16 false⟩]
      performance.notes everyOther turns = [.completed 1, .report 1 1, .completed 6] ∧
        (performance.run everyOther turns).session.frames = 1 ∧
        (performance.run everyOther turns).session.instructions = 6 := by
  obtain ⟨opening, started, spins, fresh⟩ :=
    Session.exists_spinning_start .chip8 (.standard .chip8) false [] 1
  refine ⟨opening, started, ?_⟩
  intro performance turns
  have deaf (refusing : Bool) (signal : Signal) (other : ∀ colours, signal ≠ .frame colours) :
      everyOther refusing signal = (refusing, none) := by
    cases signal with
    | frame colours => exact absurd rfl (other colours)
    | _ => rfl
  have silent {session : Session} (early : session.nextReport = 0) :
      session.reportPerformance (-1) = ⟨session, [], .ok ()⟩ := by
    have undue : ¬ session.nextReport ≤ -1 := by
      rw [early]
      decide
    rw [Session.reportPerformance, if_neg (by simp [undue]), if_neg undue]
  -- A frame of one instruction before the report is due.
  have spun {session : Session} (spins : session.processor.Spins) (early : session.nextReport = 0)
      (single : session.ticks = 1) (readings : Nat) (refusing : Bool) :
      ∃ after : Session, (after.processor.Spins ∧ after.nextReport = 0 ∧ after.ticks = 1) ∧
        take everyOther ⟨session, readings, refusing⟩ (.frame (-1) .idle) =
          ⟨after, readings + 1, !refusing⟩ ∧
        notesIn everyOther ⟨session, readings, refusing⟩ (.frame (-1) .idle) =
          if refusing then [] else [.completed 1] := by
    obtain ⟨completed, spinning, -⟩ :=
      @Session.frame_of_spins session spins (-1) (by decide) .idle fun _ => ⟨rfl, rfl⟩
    obtain ⟨processor, rate, pattern, same, taken, noted⟩ :=
      @take_of_completed _ _ _ deaf ⟨session, readings, refusing⟩ _ _ completed
    have prepared : session.prepared (-1) .idle = session := by
      rw [Session.prepared, silent early]
      rfl
    rw [same] at spinning
    simp only [prepared, silent early] at taken noted
    refine ⟨_, ?_, taken, noted.trans ?_⟩
    · cases refusing <;> exact ⟨spinning, early, single⟩
    · rw [single]
      cases refusing <;> rfl
  obtain ⟨first, ⟨spins₁, early₁, single₁⟩, taken₁, noted₁⟩ :=
    spun spins (congrArg Session.nextReport fresh) (congrArg Session.ticks fresh) 0 false
  replace taken₁ : take everyOther ⟨opening.1, 0, false⟩ (.frame (-1) .idle) =
    ⟨first, 1, true⟩ := taken₁
  obtain ⟨second, ⟨spins₂, early₂, single₂⟩, taken₂, noted₂⟩ := spun spins₁ early₁ single₁ 1 true
  replace taken₂ : take everyOther ⟨first, 1, true⟩ (.frame (-1) .idle) = ⟨second, 2, false⟩ :=
    taken₂
  have quits : second.frame (-1) .quit = ⟨second, [], .ok false⟩ := by
    rw [Session.frame, silent early₂]
    rfl
  have taken₃ : take everyOther ⟨second, 2, false⟩ (.frame (-1) .quit) = ⟨second, 3, false⟩ := by
    simp only [take, frame, quits]
    rfl
  have noted₃ : notesIn everyOther ⟨second, 2, false⟩ (.frame (-1) .quit) = [] := by
    simp only [notesIn, heardIn, frame, quits]
    rfl
  -- What the report shows is told by the theorem for the three frames before it.
  have counters : second.frames = 1 ∧ second.instructions = 1 := by
    have told := (frames_reported_once everyOther started 0 false
      [.frame (-1) .idle, .frame (-1) .idle, .frame (-1) .quit]).2.2.1
    simp only [run, List.foldl_cons, List.foldl_nil, notes, taken₁, taken₂, taken₃, noted₁, noted₂,
      noted₃] at told
    exact told
  have due : second.reportPerformance 0 =
      ⟨{ second with nextReport := Session.wholeSeconds 0 + 1.0, frames := 0, instructions := 0 },
        [⟨.performance 1 1, { second with nextReport := Session.wholeSeconds 0 + 1.0 }⟩],
        .ok ()⟩ := by
    have reached : second.nextReport ≤ 0 := by
      rw [early₂]
      decide
    have finite : (0 : Float).isInf = false := by decide
    rw [Session.reportPerformance, if_neg (by simp [finite]), if_pos reached, counters.1, counters.2]
  obtain ⟨completed, -⟩ := @Session.frame_of_spins second spins₂ 0 (by decide)
    ⟨[.faster], Vector.replicate 16 false⟩ fun _ => ⟨rfl, rfl⟩
  obtain ⟨_, _, _, -, -, noted₄⟩ := @take_of_completed _ _ _ deaf ⟨second, 3, false⟩ _ _ completed
  have pace : (second.prepared 0 ⟨[.faster], Vector.replicate 16 false⟩).ticks = 6 := by
    rw [Session.prepared, due]
    exact congrArg (· + 5) single₂
  have noted : performance.notes everyOther turns = [.completed 1, .report 1 1, .completed 6] := by
    simp only [performance, turns, notes, taken₁, taken₂, taken₃, noted₁, noted₂, noted₃, noted₄,
      due, pace]
    rfl
  obtain ⟨-, -, ⟨frames, instructions⟩, -⟩ :=
    frames_reported_once everyOther started 0 false turns
  rw [show notes _ _ _ = _ from noted] at frames instructions
  exact ⟨noted, frames, instructions⟩

end Performance

end Chip8
