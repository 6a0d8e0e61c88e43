import Chip8.Processor

/-!
# Steps in frames

A run of steps that is divided into frames of one length.  The first step of every frame is its key
frame, and the timers count down when its last step is finished.  A frame of length zero never
ends, so that such a run has a single key frame and its timers stand still.
-/

namespace Chip8.Processor

/-- What a run amounts to. -/
structure Run (α : Type) where
  /-- The outcome of all steps together. -/
  outcome : Outcome Unit
  /-- What was observed after each finished step, before the timers counted down. -/
  observed : Array α

/-- Whether a step of this number, counted from zero, is the first one of its frame. -/
def opensFrame (length number : Nat) : Bool := number % length == 0

/-- Count the timers down if this many finished steps make whole frames. -/
def endStep (length finished : Nat) (processor : Processor) : Processor :=
  if finished % length = 0 then processor.tick else processor

/-- Take `count` steps in frames of the given length, up to the first that fails, after `lines`
have been announced and `observed` been made. -/
def stepFrames {α : Type} (length : Nat) (observe : Machine → α) :
    Nat → Array String → Array α → Processor → Run α
  | 0, lines, observed, processor => ⟨⟨processor, lines.toList, .ok ()⟩, observed⟩
  | count + 1, lines, observed, processor =>
      let outcome := processor.step (opensFrame length observed.size)
      let lines := lines ++ outcome.lines
      match outcome.result with
      | .error fault => ⟨⟨outcome.processor, lines.toList, .error fault⟩, observed⟩
      | .ok () =>
          let observed := observed.push (observe outcome.processor.machine)
          stepFrames length observe count lines observed
            (outcome.processor.endStep length observed.size)

end Chip8.Processor
