import Chip8.Proofs.SessionOrder

/-!
# The order of a frame

A frame begins with the requests of the user, one after the other up to one to quit.  What a request
does is told here without looking at how a session goes about it: a reset is told by a machine that
was switched on, and the machine that is put back is looked up among all requests of the session.
Only then the keys are taken over, the instructions of the frame executed, the first of them alone
opening the frame, and the timers counted down.
-/

namespace Chip8

namespace Course

variable {arch : Arch} {dialect : Dialect} {course : Course}

/-! ## What requests do -/

/-- The course after a request. -/
def heed (course : Course) (action : HostAction) : Course :=
  let session := course.session
  let processor := session.processor
  { session :=
      match action with
      | .reset => { session with processor := processor.restarted session.program }
      | .saveState => { session with saved := some processor.machine }
      | .loadState =>
          match latest HostAction.kept? course.requests with
          | some machine => { session with processor := { processor with machine } }
          | none => session
      | .faster => { session with ticks := session.ticks + 5 }
      | .slower => { session with ticks := max 5 (session.ticks - 5) }
      | .toggleMute => { session with muted := !session.muted }
      | .quit | .nextPalette | .previousPalette | .unknown _ => session
    signals := course.signals ++
      match action with
      | .nextPalette => [.nextPalette]
      | .previousPalette => [.previousPalette]
      | .toggleMute =>
          if session.muted then [.sound (.mute false)]
          else [.sound (.mute true), .sound (.buzzer false)]
      | _ => []
    requests := course.requests ++ [(action, processor.machine)] }

namespace InOrder

theorem apply_eq (inOrder : course.InOrder arch dialect) {action : HostAction}
    (known : ∀ name, action ≠ .unknown name) :
    ∃ told, course.session.apply action = ⟨(course.heed action).session, told, .ok ()⟩ ∧
      (course.heed action).signals = course.signals ++ told.map Sent.signal := by
  cases action with
  | unknown name => exact absurd rfl (known name)
  | reset => exact ⟨[], inOrder.session.restart_eq, rfl⟩
  | loadState =>
      refine ⟨[], ?_, rfl⟩
      rw [Session.apply, heed, inOrder.saved]
      rcases latest HostAction.kept? course.requests with _ | machine <;> rfl
  | toggleMute =>
      refine ⟨_, rfl, ?_⟩
      rw [heed, Sound.toggleMute]
      rcases course.session.muted <;> rfl
  | _ => exact ⟨_, rfl, rfl⟩

theorem heed (inOrder : course.InOrder arch dialect) {action : HostAction}
    (known : ∀ name, action ≠ .unknown name) : (course.heed action).InOrder arch dialect := by
  obtain ⟨told, applied, -⟩ := inOrder.apply_eq known
  have session := inOrder.session.apply action
  have saved := course.session.saved_apply action
  rw [applied] at session saved
  refine ⟨session, ?_⟩
  have requests : (course.heed action).requests =
    course.requests ++ [(action, course.session.processor.machine)] := rfl
  rw [saved, inOrder.saved, requests, latest_append, latest_singleton]

/-- Known requests are applied in order up to one to quit, and none of them is refused. -/
theorem applyAll_eq (inOrder : course.InOrder arch dialect) {actions : List HostAction}
    (known : ∀ name, .unknown name ∉ actions) :
    ∃ told,
      let heeded := (actions.takeWhile (· ≠ .quit)).foldl Course.heed course
      Session.applyAll actions course.session =
        ⟨heeded.session, told, .ok (decide (.quit ∉ actions))⟩ ∧
      heeded.signals = course.signals ++ told.map Sent.signal ∧
      heeded.requests = course.requests ++ Session.requested actions course.session := by
  induction actions generalizing course with
  | nil => exact ⟨[], rfl, (List.append_nil _).symm, (List.append_nil _).symm⟩
  | cons action rest induction =>
      by_cases quits : action = .quit
      · subst quits
        exact ⟨[], by simp [Session.applyAll], by simp, by simp [Session.requested]⟩
      · have first (name : String) : action ≠ .unknown name :=
          fun same => known name (same ▸ List.mem_cons_self)
        have others (name : String) : .unknown name ∉ rest :=
          fun member => known name (List.mem_cons_of_mem _ member)
        obtain ⟨told, applied, signals⟩ := inOrder.apply_eq first
        obtain ⟨told', applied', signals', requests'⟩ := induction (inOrder.heed first) others
        have requests : (course.heed action).requests =
          course.requests ++ [(action, course.session.processor.machine)] := rfl
        have heeds : (action :: rest).takeWhile (· ≠ .quit) =
            action :: rest.takeWhile (· ≠ .quit) :=
          List.takeWhile_cons_of_pos (decide_eq_true quits)
        refine ⟨told ++ told', ?_, ?_, ?_⟩
        · rw [Session.applyAll_cons quits, Progress.andThen, applied, heeds]
          simp [applied', Ne.symm quits]
        · rw [heeds, List.foldl_cons, signals', signals, List.append_assoc, List.map_append]
        · rw [heeds, List.foldl_cons, requests', requests, Session.requested_cons quits, applied,
            List.append_assoc]
          rfl

end InOrder

/-! ## What follows the requests -/

/-- The processor with the keys that are held. -/
def keyed (course : Course) (held : Vector Bool 16) : Processor :=
  { course.session.processor with
    machine := { course.session.processor.machine with keys := held } }

/-- The steps of the next frame. -/
def steps (course : Course) : List Event := Event.frame course.session.ticks.toNat

/-- What follows the requests of a frame. -/
inductive Followed (heeded : Course) (held : Vector Bool 16) (after : Course) :
    Except Stop Bool → Prop
  /-- All steps succeed, then the timers are ticked, and the devices are told of it. -/
  | completed {rate : Option Nat} {pattern : Option Registers} {frames : Nat} {instructions : Int}
      (commands : List Sound.Command) (succeeds : (heeded.keyed held).Succeeds heeded.steps)
      (session : after.session =
        { heeded.session with
          processor := ((heeded.keyed held).play heeded.steps).tick
          rate, pattern, frames, instructions })
      (signals : after.signals = heeded.signals ++
        ((heeded.keyed held).lines heeded.steps).map .line ++ commands.map .sound ++
        [.frame after.session.processor.machine.screen.colours])
      (requests : after.requests = heeded.requests) :
      Followed heeded held after (.ok true)
  /-- A step fails after those before it have succeeded, and it ends the frame. -/
  | failed {done rest : List Event} {event : Event} {fault : Fault}
      (split : heeded.steps = done ++ event :: rest)
      (succeeds : (heeded.keyed held).Succeeds done)
      (fails : (((heeded.keyed held).play done).happen event).result = .error fault)
      (session : after.session =
        { heeded.session with processor := (heeded.keyed held).play (done ++ [event]) })
      (signals : after.signals = heeded.signals ++
        ((heeded.keyed held).lines (done ++ [event])).map .line)
      (requests : after.requests = heeded.requests) :
      Followed heeded held after (.error (.fault fault))

theorem followed_of_failed {heeded : Course} {held : Vector Bool 16} {later : Session}
    {lines : List Sent} {stop : Stop}
    (executed : (heeded.session.holdKeys held).execute = ⟨later, lines, .error stop⟩) :
    heeded.Followed held ⟨later, heeded.signals ++ lines.map Sent.signal, heeded.requests⟩
      (.error stop) := by
  rcases (heeded.session.holdKeys held).execute_cases with
    ⟨-, ran⟩ | ⟨done, event, rest, fault, split, succeeds, fails, ran⟩
  · cases executed.symm.trans ran
  · cases executed.symm.trans ran
    exact .failed split succeeds fails rfl (congrArg _ List.map_map) rfl

theorem followed_of_executed {heeded : Course} {held : Vector Bool 16} {later : Session}
    {lines : List Sent}
    (executed : (heeded.session.holdKeys held).execute = ⟨later, lines, .ok ()⟩) :
    heeded.Followed held
      ⟨later.finish.session, heeded.signals ++ lines.map Sent.signal ++ later.finish.signals,
        heeded.requests⟩
      (.ok true) := by
  rcases (heeded.session.holdKeys held).execute_cases with
    ⟨succeeds, ran⟩ | ⟨_, _, _, _, -, -, -, ran⟩
  · cases executed.symm.trans ran
    obtain ⟨commands, told⟩ := Session.exists_finish_signals
      { heeded.session with processor := (heeded.keyed held).play heeded.steps }
    refine .completed commands succeeds rfl ?_ rfl
    rw [List.map_map]
    exact (congrArg (_ ++ ·) told).trans (List.append_assoc ..).symm
  · cases executed.symm.trans ran

/-- In a frame with known requests, unless the clock shows no finite time when a report is due,
those before the first request to quit are carried out in order.  If there is one, nothing else
happens.  Otherwise the machine has the keys that are held, whatever the requests did to it, and
takes as many steps as the requests have left for a frame, the first alone opening it. -/
theorem Reachable.frame_in_order (reachable : course.Reachable arch dialect) (now : Float)
    {input : Input} (known : ∀ name, .unknown name ∉ input.actions) :
    let result := (course.session.frame now input).result
    let after := course.take (.frame now input)
    let heeded := (input.actions.takeWhile (· ≠ .quit)).foldl heed (course.report now)
    (course.session.nextReport ≤ now ∧ now.isInf = true ∧ result = .error .endlessTime ∧
        after = course) ∨
      (.quit ∈ input.actions ∧ result = .ok false ∧ after = heeded) ∨
      (.quit ∉ input.actions ∧ heeded.Followed input.held after result) := by
  intro result after heeded
  -- However the frame ends, its requests have been carried out by then.
  have heeding {opened : Session} {report : List Sent}
      (reported : course.session.reportPerformance now = ⟨opened, report, .ok ()⟩) :
      ∃ told, Session.applyAll input.actions opened =
          ⟨heeded.session, told, .ok (decide (.quit ∉ input.actions))⟩ ∧
        heeded.signals = course.signals ++ (report ++ told).map Sent.signal ∧
        heeded.requests = course.requests ++ requestedIn course.session now input := by
    obtain ⟨told, applied, signals, requests⟩ := (reachable.inOrder.report now).applyAll_eq known
    have session : (course.report now).session = opened := by rw [Course.report, reported]
    have before : (course.report now).signals = course.signals ++ report.map Sent.signal := by
      rw [Course.report, reported]
      rfl
    rw [session] at applied requests
    rw [before, List.append_assoc, ← List.map_append] at signals
    rw [requestedIn_of_reported reported]
    exact ⟨told, applied, signals, requests⟩
  have ended := course.session.frame_ended now input
  have after_eq : after = ⟨(course.session.frame now input).session,
      course.signals ++ (course.session.frame now input).signals,
      course.requests ++ requestedIn course.session now input⟩ := rfl
  generalize progress_eq : course.session.frame now input = progress at ended after_eq
  have result_eq : result = progress.result := congrArg Progress.result progress_eq
  rw [result_eq, after_eq]
  cases ended with
  | endless due infinite reported =>
      exact Or.inl ⟨due, infinite, rfl, by simp [Progress.signals, requestedIn, reported]⟩
  | refused reported applied =>
      obtain ⟨told, applied', -⟩ := heeding reported
      cases applied.symm.trans applied'
  | quit reported applied =>
      obtain ⟨told, applied', signals, requests⟩ := heeding reported
      obtain ⟨rfl, rfl, quits⟩ := Progress.mk.inj (applied.symm.trans applied')
      have asked : .quit ∈ input.actions :=
        not_not.mp (of_decide_eq_false (Except.ok.inj quits).symm)
      exact Or.inr (Or.inl ⟨asked, rfl, by rw [Progress.signals, ← signals, ← requests]⟩)
  | stopped reported applied executed =>
      obtain ⟨told, applied', signals, requests⟩ := heeding reported
      obtain ⟨rfl, rfl, stays⟩ := Progress.mk.inj (applied.symm.trans applied')
      have goesOn : .quit ∉ input.actions := of_decide_eq_true (Except.ok.inj stays).symm
      rw [Progress.signals, ← requests, List.map_append, ← List.append_assoc, ← signals]
      exact Or.inr (Or.inr ⟨goesOn, followed_of_failed executed⟩)
  | finished reported applied executed =>
      obtain ⟨told, applied', signals, requests⟩ := heeding reported
      obtain ⟨rfl, rfl, stays⟩ := Progress.mk.inj (applied.symm.trans applied')
      have goesOn : .quit ∉ input.actions := of_decide_eq_true (Except.ok.inj stays).symm
      rw [Progress.signals, ← requests, List.map_append, List.map_append, ← List.append_assoc,
        ← List.append_assoc, ← signals]
      exact Or.inr (Or.inr ⟨goesOn, followed_of_executed executed⟩)

/-- A frame that keeps the machine, and one that slows down, resets and goes back to it, with a key
held. -/
theorem Reachable.frame_in_order_after_saving :
    ∃ opening, Session.start (.powerOn .superChip (.standard .superChip) false []) #[0x00, 0xE0]
        30 = .ok opening ∧
      let course := (start opening).run [.frame 0 ⟨[.saveState], Vector.replicate 16 false⟩]
      let input : Input := ⟨[.slower, .reset, .loadState], (Vector.replicate 16 false).set 5 true⟩
      course.Reachable .superChip (.standard .superChip) ∧
        (∀ name, .unknown name ∉ input.actions) ∧
        (input.actions.foldl heed (course.report 0)).Followed input.held
          (course.take (.frame 0 input)) (course.session.frame 0 input).result := by
  have started : Session.start (.powerOn .superChip (.standard .superChip) false []) #[0x00, 0xE0]
    30 = .ok _ := rfl
  refine ⟨_, started, ?_⟩
  intro course input
  have reachable : course.Reachable .superChip (.standard .superChip) :=
    ⟨_, _, _, _, _, .powerOn _ _ false [], started, rfl⟩
  have known : ∀ name, .unknown name ∉ input.actions := by simp [input]
  refine ⟨reachable, known, ?_⟩
  rcases reachable.frame_in_order 0 known with ⟨-, infinite, -⟩ | ⟨quits, -⟩ | ⟨-, followed⟩
  · exact absurd infinite (by decide)
  · exact absurd quits (by decide)
  · exact followed

end Course

end Chip8
