import Chip8.Proofs.Course
import Chip8.Sound.Mixer

/-!
# What the loudspeaker plays

In the audio system every sound that is made is a thing of its own, and loops from when it is
started until it is stopped.  Whatever is asked of a new sound device, nothing loops there but the
current sound, once, and only while the device says that it plays.  The current sound is made of
the rate and the pattern that were given last, whichever of them came first.
-/

namespace Chip8.Sound

/-- What the owner of a sound device asks of it. -/
inductive Request where
  | rate (hertz : Int)
  | pattern (bytes : Array UInt8)
  | buzzer (on : Bool)
  | toggleMute
deriving DecidableEq, Repr

namespace Request

/-- The commands that a request consists of. -/
def commands (muted : Bool) : Request → List Command
  | .rate hertz => [.rate hertz]
  | .pattern bytes => [.pattern bytes]
  | .buzzer on => [.buzzer on]
  | .toggleMute => Sound.toggleMute muted

/-- The rate that a request gives. -/
def rate? : Request → Option Int
  | .rate hertz => some hertz
  | _ => none

/-- The pattern that a request gives. -/
def pattern? : Request → Option (Array UInt8)
  | .pattern bytes => some bytes
  | _ => none

theorem rate?_eq_some_iff {request : Request} {hertz : Int} :
    request.rate? = some hertz ↔ request = .rate hertz := by
  cases request <;> simp [rate?]

theorem pattern?_eq_some_iff {request : Request} {bytes : Array UInt8} :
    request.pattern? = some bytes ↔ request = .pattern bytes := by
  cases request <;> simp [pattern?]

end Request

/-- Every pattern among the requests can be stretched at every rate among them. -/
def Stretchable (requests : List Request) : Prop :=
  ∀ bytes hertz, .pattern bytes ∈ requests → .rate hertz ∈ requests →
    ∃ wave, stretch bytes hertz = .ok wave

theorem exists_stretch {bytes : Array UInt8} {hertz : Int} (nonzero : hertz ≠ 0)
    (bounded : hertz.natAbs < floatBound * mixerRate)
    (long : ¬ Float.ofNat (bytes.size * 8) / (Float.ofInt hertz / Float.ofNat mixerRate) ≤ -1) :
    ∃ wave, stretch bytes hertz = .ok wave := by
  simp only [stretch, if_neg nonzero, if_neg (Nat.not_le_of_lt bounded), if_neg long]
  exact ⟨_, rfl⟩

/-- The sound that the requests lead to: none until both a pattern and a rate are given. -/
def soundOf (requests : List Request) : Option Wave := do
  let bytes ← latest Request.pattern? requests
  let hertz ← latest Request.rate? requests
  (stretch bytes hertz).toOption

namespace Mixer

/-- React to a request. -/
def answer (mixer : Mixer) (request : Request) : Reaction :=
  obeyAll (request.commands mixer.muted) mixer

/-- React to several requests in turn, up to the first that fails. -/
def answerAll : List Request → Mixer → Reaction
  | [], mixer => ⟨mixer, [], none⟩
  | request :: rest, mixer =>
      let first := mixer.answer request
      match first.error with
      | some _ => first
      | none =>
          let others := answerAll rest first.mixer
          { others with calls := first.calls ++ others.calls }

theorem obeyAll_singleton (command : Command) (mixer : Mixer) :
    obeyAll [command] mixer = mixer.obey command := by
  rcases obeyed : mixer.obey command with ⟨after, calls, _ | error⟩ <;> simp [obeyAll, obeyed]

end Mixer

/-- The sounds of an audio system.  They are numbered from one, in the order in which they are
made. -/
structure Loudspeaker where
  /-- The waves that sounds were made from. -/
  made : List Wave
  /-- The sounds that loop, each as often as it was started. -/
  looping : List Nat
deriving DecidableEq, Repr

namespace Loudspeaker

/-- No sound is made yet. -/
def silent : Loudspeaker := ⟨[], []⟩

/-- Calls that name no sound are about the one made last. -/
def hear (speaker : Loudspeaker) : Call → Loudspeaker
  | .make wave => { speaker with made := speaker.made ++ [wave] }
  | .loop => { speaker with looping := speaker.looping ++ [speaker.made.length] }
  | .stop => { speaker with looping := speaker.looping.filter (· ≠ speaker.made.length) }
  | .disconnect => { speaker with looping := [] }
  | .prepare .. | .connect | .volume _ => speaker

def hearAll (speaker : Loudspeaker) (calls : List Call) : Loudspeaker := calls.foldl hear speaker

/-- Nothing loops but the sound made last, and that only once. -/
def Orderly (speaker : Loudspeaker) : Prop :=
  speaker.looping = [] ∨ speaker.made ≠ [] ∧ speaker.looping = [speaker.made.length]

/-- The sounds are in order at the start and after each of the calls. -/
def OrderlyThroughout (speaker : Loudspeaker) (calls : List Call) : Prop :=
  ∀ heard, heard <+: calls → (speaker.hearAll heard).Orderly

variable {speaker : Loudspeaker}

theorem hearAll_append (first second : List Call) :
    speaker.hearAll (first ++ second) = (speaker.hearAll first).hearAll second := List.foldl_append

theorem orderlyThroughout_nil : speaker.OrderlyThroughout [] ↔ speaker.Orderly := by
  simp [OrderlyThroughout, hearAll]

theorem orderlyThroughout_cons {call : Call} {rest : List Call} :
    speaker.OrderlyThroughout (call :: rest) ↔
      speaker.Orderly ∧ (speaker.hear call).OrderlyThroughout rest := by
  constructor
  · intro orderly
    exact ⟨orderly [] List.nil_prefix,
      fun heard before => orderly (call :: heard) ((List.prefix_cons_inj call).mpr before)⟩
  · rintro ⟨first, later⟩ heard before
    rcases List.prefix_cons_iff.mp before with rfl | ⟨tail, rfl, tailBefore⟩
    · exact first
    · exact later tail tailBefore

theorem OrderlyThroughout.append {first second : List Call}
    (orderly : speaker.OrderlyThroughout first)
    (later : (speaker.hearAll first).OrderlyThroughout second) :
    speaker.OrderlyThroughout (first ++ second) := by
  induction first generalizing speaker with
  | nil => exact later
  | cons call rest induction =>
      obtain ⟨now, next⟩ := orderlyThroughout_cons.mp orderly
      exact orderlyThroughout_cons.mpr ⟨now, induction next later⟩

/-- While nothing loops, a sound that is made stays silent. -/
theorem hearAll_make (wave : Wave) (quiet : speaker.looping = []) :
    let calls := [Call.make wave, .volume Mixer.loudness]
    speaker.OrderlyThroughout calls ∧
      speaker.hearAll calls = ⟨speaker.made ++ [wave], []⟩ := by
  refine ⟨?_, by simp [hearAll, hear, quiet]⟩
  simp [orderlyThroughout_cons, orderlyThroughout_nil, hear, Orderly, quiet]

/-- The sound that loops is stopped before another is made and started. -/
theorem hearAll_replace (wave : Wave) (known : speaker.made ≠ [])
    (loud : speaker.looping = [speaker.made.length]) :
    let calls := [Call.stop, .make wave, .volume Mixer.loudness, .loop]
    speaker.OrderlyThroughout calls ∧
      speaker.hearAll calls =
        ⟨speaker.made ++ [wave], [(speaker.made ++ [wave]).length]⟩ := by
  refine ⟨?_, by simp [hearAll, hear, loud]⟩
  simp [orderlyThroughout_cons, orderlyThroughout_nil, hear, Orderly, loud, known]

/-- Switching starts the sound made last if it did not loop, and stops it if it did. -/
theorem hearAll_switch {playing on : Bool}
    (looping : speaker.looping = if playing then [speaker.made.length] else [])
    (known : playing = true ∨ on = true → speaker.made ≠ []) :
    let calls :=
      if on && !playing then [Call.loop] else if playing && !on then [.stop] else []
    speaker.OrderlyThroughout calls ∧
      speaker.hearAll calls =
        { speaker with looping := if on then [speaker.made.length] else [] } := by
  obtain ⟨waves, loops⟩ := speaker
  obtain rfl : loops = if playing then [waves.length] else [] := looping
  cases playing <;> cases on
  case false.false => exact ⟨orderlyThroughout_nil.mpr (Or.inl rfl), rfl⟩
  case false.true =>
    refine ⟨?_, rfl⟩
    have exists_sound := known (Or.inr rfl)
    simp [orderlyThroughout_cons, orderlyThroughout_nil, hear, Orderly, exists_sound]
  case true.false =>
    refine ⟨?_, by simp [hearAll, hear]⟩
    have exists_sound := known (Or.inl rfl)
    simp [orderlyThroughout_cons, orderlyThroughout_nil, hear, Orderly, exists_sound]
  case true.true =>
    exact ⟨orderlyThroughout_nil.mpr (Or.inr ⟨known (Or.inl rfl), rfl⟩), rfl⟩

end Loudspeaker

/-- A sound device and the audio system after a history of requests to a new device. -/
structure Settled (past : List Request) (mixer : Mixer) (speaker : Loudspeaker) : Prop where
  hertz : mixer.hertz = latest Request.rate? past
  bits : mixer.bits = latest Request.pattern? past
  wave : mixer.wave = soundOf past
  made : speaker.made.getLast? = mixer.wave
  looping : speaker.looping = if mixer.playing then [speaker.made.length] else []
  audible : mixer.playing = true → mixer.muted = false ∧ mixer.wave.isSome
  muted : mixer.muted = decide (past.count .toggleMute % 2 = 1)

/-- A device settles after a request: it does not fail, the sounds are in order at all times, and
afterwards everything is as the longer history says. -/
structure Settles (past : List Request) (speaker : Loudspeaker) (reaction : Reaction) : Prop where
  error : reaction.error = none
  orderly : speaker.OrderlyThroughout reaction.calls
  settled : Settled past reaction.mixer (speaker.hearAll reaction.calls)

variable {past requests : List Request} {mixer : Mixer} {speaker : Loudspeaker}

theorem mem_of_latest_rate? {hertz : Int} (given : latest Request.rate? requests = some hertz) :
    .rate hertz ∈ requests := by
  obtain ⟨request, member, shown⟩ := List.exists_of_findSome?_eq_some given
  rw [← Request.rate?_eq_some_iff.mp shown]
  exact List.mem_reverse.mp member

theorem mem_of_latest_pattern? {bytes : Array UInt8}
    (given : latest Request.pattern? requests = some bytes) : .pattern bytes ∈ requests := by
  obtain ⟨request, member, shown⟩ := List.exists_of_findSome?_eq_some given
  rw [← Request.pattern?_eq_some_iff.mp shown]
  exact List.mem_reverse.mp member

theorem exists_latest {α : Type} (show? : Request → Option α) {request : Request} {value : α}
    (member : request ∈ requests) (shown : show? request = some value) :
    ∃ last, latest show? requests = some last := by
  refine Option.isSome_iff_exists.mp (List.findSome?_isSome_iff.mpr ?_)
  exact ⟨request, List.mem_reverse.mpr member, shown ▸ rfl⟩

theorem soundOf_eq {bytes : Array UInt8} {hertz : Int} {wave : Wave}
    (pattern : latest Request.pattern? requests = some bytes)
    (rate : latest Request.rate? requests = some hertz)
    (stretched : stretch bytes hertz = .ok wave) : soundOf requests = some wave := by
  rw [soundOf, pattern, rate, Option.bind_eq_bind, Option.bind_some, Option.bind_eq_bind,
    Option.bind_some, stretched]
  rfl

theorem soundOf_eq_none (ungiven : latest Request.pattern? requests = none ∨
    latest Request.rate? requests = none) : soundOf requests = none := by
  rw [soundOf]
  rcases ungiven with pattern | rate
  · rw [pattern]
    rfl
  · rw [rate]
    rcases latest Request.pattern? requests with _ | bytes <;> rfl

/-- No other request mutes or unmutes. -/
theorem Settled.muted_concat (settled : Settled past mixer speaker) {request : Request}
    (other : request ≠ .toggleMute) :
    mixer.muted = decide ((past ++ [request]).count .toggleMute % 2 = 1) := by
  rw [settled.muted, List.count_append, List.count_singleton, beq_eq_false_iff_ne.mpr other]
  rfl

theorem Settled.ne_nil (settled : Settled past mixer speaker) (playing : mixer.playing = true) :
    speaker.made ≠ [] := by
  rintro none_made
  have made := settled.made
  rw [none_made] at made
  have known := (settled.audible playing).2
  rw [← made] at known
  cases known

theorem Settled.orderly (settled : Settled past mixer speaker) : speaker.Orderly := by
  have looping := settled.looping
  rcases playing : mixer.playing with _ | _
  · rw [playing] at looping
    exact Or.inl looping
  · rw [playing] at looping
    exact Or.inr ⟨settled.ne_nil playing, looping⟩

theorem Settled.not_playing (settled : Settled past mixer speaker) (muted : mixer.muted = true) :
    mixer.playing = false := by
  refine Bool.eq_false_iff.mpr fun playing => ?_
  have unmuted := (settled.audible playing).1
  exact Bool.noConfusion (muted.symm.trans unmuted)

/-! ## One request -/

/-- When the wave is made anew, the new sound takes over from the old one. -/
theorem Settled.settles_rebuild (settled : Settled past mixer speaker) (request : Request)
    (other : request ≠ .toggleMute) (stretchable : Stretchable (past ++ [request])) :
    Settles (past ++ [request]) speaker
      { mixer with
        hertz := latest Request.rate? (past ++ [request])
        bits := latest Request.pattern? (past ++ [request]) }.rebuild := by
  have muted := settled.muted_concat other
  have unmade (ungiven : latest Request.pattern? (past ++ [request]) = none ∨
      latest Request.rate? (past ++ [request]) = none) :
      mixer.wave = soundOf (past ++ [request]) := by
    rw [soundOf_eq_none ungiven, settled.wave, soundOf_eq_none]
    rw [latest_concat, latest_concat, Option.or_eq_none_iff, Option.or_eq_none_iff] at ungiven
    exact ungiven.imp And.right And.right
  -- Unless both are given now, they were not before, and there was no sound.
  rw [Mixer.rebuild]
  rcases bits : latest Request.pattern? (past ++ [request]) with _ | bytes
  · exact ⟨rfl, Loudspeaker.orderlyThroughout_nil.mpr settled.orderly,
      ⟨rfl, bits.symm, unmade (Or.inl bits), settled.made, settled.looping, settled.audible,
        muted⟩⟩
  · rcases hertz : latest Request.rate? (past ++ [request]) with _ | rate
    · exact ⟨rfl, Loudspeaker.orderlyThroughout_nil.mpr settled.orderly,
        ⟨hertz.symm, bits.symm, unmade (Or.inr hertz), settled.made, settled.looping,
          settled.audible, muted⟩⟩
    · obtain ⟨wave, stretched⟩ :=
        stretchable bytes rate (mem_of_latest_pattern? bits) (mem_of_latest_rate? hertz)
      have sound := soundOf_eq bits hertz stretched
      have looping := settled.looping
      simp only [stretched]
      rcases playing : mixer.playing with _ | _
      · have quiet : speaker.looping = [] := by rw [looping, playing]; rfl
        obtain ⟨orderly, heard⟩ := Loudspeaker.hearAll_make wave quiet
        exact ⟨rfl, orderly, heard ▸
          ⟨hertz.symm, bits.symm, sound.symm, List.getLast?_concat, rfl, nofun, muted⟩⟩
      · have loud : speaker.looping = [speaker.made.length] := by rw [looping, playing]; rfl
        obtain ⟨orderly, heard⟩ :=
          Loudspeaker.hearAll_replace wave (settled.ne_nil playing) loud
        exact ⟨rfl, orderly, heard ▸
          ⟨hertz.symm, bits.symm, sound.symm, List.getLast?_concat, rfl,
            fun _ => ⟨(settled.audible playing).1, rfl⟩, muted⟩⟩

theorem soundOf_concat {request : Request} (noRate : request.rate? = none)
    (noPattern : request.pattern? = none) : soundOf (past ++ [request]) = soundOf past := by
  rw [soundOf, soundOf, latest_append_of_silent past (List.forall_mem_singleton.mpr noRate),
    latest_append_of_silent past (List.forall_mem_singleton.mpr noPattern)]

/-- A request that gives neither a rate nor a pattern at most starts or stops the current sound. -/
theorem Settled.settles_switch (settled : Settled past mixer speaker) (request : Request)
    (noRate : request.rate? = none) (noPattern : request.pattern? = none) {playing muted : Bool}
    (audible : playing = true → muted = false ∧ mixer.wave.isSome)
    (mutes : muted = decide ((past ++ [request]).count .toggleMute % 2 = 1)) :
    Settles (past ++ [request]) speaker
      ⟨{ mixer with playing, muted },
        if playing && !mixer.playing then [.loop]
        else if mixer.playing && !playing then [.stop]
        else [], none⟩ := by
  have known (sounds : mixer.playing = true ∨ playing = true) : speaker.made ≠ [] := by
    rcases sounds with before | after
    · exact settled.ne_nil before
    · rw [← List.getLast?_isSome, settled.made]
      exact (audible after).2
  obtain ⟨orderly, heard⟩ := Loudspeaker.hearAll_switch settled.looping known
  refine ⟨rfl, orderly, heard ▸ ⟨?_, ?_, ?_, settled.made, rfl, audible, mutes⟩⟩
  · exact settled.hertz.trans
      (latest_append_of_silent past (List.forall_mem_singleton.mpr noRate)).symm
  · exact settled.bits.trans
      (latest_append_of_silent past (List.forall_mem_singleton.mpr noPattern)).symm
  · exact settled.wave.trans (soundOf_concat noRate noPattern).symm

/-- One request keeps a settled device settled. -/
theorem Settled.settles (settled : Settled past mixer speaker) (request : Request)
    (stretchable : Stretchable (past ++ [request])) :
    Settles (past ++ [request]) speaker (mixer.answer request) := by
  rw [Mixer.answer]
  cases request with
  | rate hertz =>
      have given : latest Request.rate? (past ++ [.rate hertz]) = some hertz :=
        latest_concat past (.rate hertz)
      have bits : latest Request.pattern? (past ++ [.rate hertz]) = mixer.bits :=
        (latest_concat past (.rate hertz)).trans settled.bits.symm
      rw [Request.commands, Mixer.obeyAll_singleton, Mixer.obey]
      split
      case isTrue same =>
        have sound : soundOf (past ++ [.rate hertz]) = soundOf past := by
          rw [soundOf, soundOf, given, bits, ← settled.hertz, ← settled.bits, same]
        exact ⟨rfl, Loudspeaker.orderlyThroughout_nil.mpr settled.orderly,
          ⟨same.trans given.symm, bits.symm, settled.wave.trans sound.symm, settled.made,
            settled.looping, settled.audible, settled.muted_concat nofun⟩⟩
      case isFalse =>
        have rebuilt := settled.settles_rebuild (.rate hertz) (by nofun) stretchable
        rw [given, bits] at rebuilt
        exact rebuilt
  | pattern bytes =>
      have given : latest Request.pattern? (past ++ [.pattern bytes]) = some bytes :=
        latest_concat past (.pattern bytes)
      have hertz : latest Request.rate? (past ++ [.pattern bytes]) = mixer.hertz :=
        (latest_concat past (.pattern bytes)).trans settled.hertz.symm
      have rebuilt := settled.settles_rebuild (.pattern bytes) (by nofun) stretchable
      rw [given, hertz] at rebuilt
      rw [Request.commands, Mixer.obeyAll_singleton]
      exact rebuilt
  | buzzer on =>
      rw [Request.commands, Mixer.obeyAll_singleton]
      refine settled.settles_switch (.buzzer on) rfl rfl ?_ (settled.muted_concat nofun)
      intro sounds
      simp only [Bool.and_eq_true, Bool.not_eq_true'] at sounds
      exact ⟨sounds.1.2, sounds.2⟩
  | toggleMute =>
      have toggled : (!mixer.muted) =
          decide ((past ++ [Request.toggleMute]).count .toggleMute % 2 = 1) := by
        rw [List.count_append, List.count_singleton_self, settled.muted, ← decide_not]
        exact decide_eq_decide.mpr (by omega)
      have silent : false = true → (!mixer.muted) = false ∧ mixer.wave.isSome := nofun
      have switched := settled.settles_switch .toggleMute rfl rfl silent toggled
      rcases muted : mixer.muted with _ | _
      · rw [muted] at switched
        simpa [Request.commands, toggleMute, Mixer.obeyAll, Mixer.obey, Mixer.buzz] using switched
      -- A muted device does not play, so nothing is left to be stopped when it is unmuted.
      · rw [muted, settled.not_playing muted] at switched
        have playing := settled.not_playing muted
        obtain ⟨bits, hertz, wave, _, _⟩ := mixer
        obtain rfl := playing
        exact switched

/-! ## Runs -/

theorem Stretchable.of_append {first second : List Request}
    (stretchable : Stretchable (first ++ second)) : Stretchable first :=
  fun bytes hertz pattern rate =>
    stretchable bytes hertz (List.mem_append_left _ pattern) (List.mem_append_left _ rate)

theorem Settled.settles_all (settled : Settled past mixer speaker)
    (stretchable : Stretchable (past ++ requests)) :
    Settles (past ++ requests) speaker (mixer.answerAll requests) := by
  induction requests generalizing past mixer speaker with
  | nil =>
      rw [List.append_nil]
      exact ⟨rfl, Loudspeaker.orderlyThroughout_nil.mpr settled.orderly, settled⟩
  | cons request rest induction =>
      rw [List.append_cons] at stretchable ⊢
      have first := settled.settles request stretchable.of_append
      have others := induction first.settled stretchable
      rw [Mixer.answerAll, first.error]
      refine ⟨others.error, first.orderly.append others.orderly, ?_⟩
      rw [Loudspeaker.hearAll_append]
      exact others.settled

/-- A device that was just opened is settled, and nothing loops. -/
theorem settles_open : Settles [] .silent ⟨.idle, Mixer.openCalls, none⟩ := by
  refine ⟨rfl, ?_, ⟨rfl, rfl, rfl, rfl, rfl, nofun, rfl⟩⟩
  simp [Mixer.openCalls, Loudspeaker.orderlyThroughout_cons, Loudspeaker.orderlyThroughout_nil,
    Loudspeaker.hear, Loudspeaker.Orderly, Loudspeaker.silent]

theorem exists_of_soundOf {wave : Wave} (sound : soundOf requests = some wave) :
    ∃ bytes hertz, latest Request.pattern? requests = some bytes ∧
      latest Request.rate? requests = some hertz ∧ stretch bytes hertz = .ok wave := by
  obtain ⟨bytes, pattern, sound⟩ := Option.bind_eq_some_iff.mp sound
  obtain ⟨hertz, rate, sound⟩ := Option.bind_eq_some_iff.mp sound
  refine ⟨bytes, hertz, pattern, rate, ?_⟩
  rcases stretched : stretch bytes hertz with error | made
  · rw [stretched] at sound
    cases sound
  · rw [stretched] at sound
    exact congrArg Except.ok (Option.some.inj sound)

theorem isSome_soundOf (stretchable : Stretchable requests) :
    (soundOf requests).isSome ↔
      (∃ hertz, .rate hertz ∈ requests) ∧ ∃ bytes, .pattern bytes ∈ requests := by
  constructor
  · intro sound
    obtain ⟨wave, sound⟩ := Option.isSome_iff_exists.mp sound
    obtain ⟨bytes, hertz, pattern, rate, -⟩ := exists_of_soundOf sound
    exact ⟨⟨hertz, mem_of_latest_rate? rate⟩, bytes, mem_of_latest_pattern? pattern⟩
  · rintro ⟨⟨hertz, rate⟩, bytes, pattern⟩
    obtain ⟨lastRate, rate⟩ := exists_latest Request.rate? rate rfl
    obtain ⟨lastPattern, pattern⟩ := exists_latest Request.pattern? pattern rfl
    obtain ⟨wave, stretched⟩ :=
      stretchable lastPattern lastRate (mem_of_latest_pattern? pattern) (mem_of_latest_rate? rate)
    rw [soundOf_eq pattern rate stretched]
    rfl

/-- Whatever is asked of a new sound device, no stray sound is left looping.  The current sound is
there once a rate and a pattern are given, in either order, and made of those given last.  At every
moment nothing loops but the sound made last, started once; between requests it loops exactly if the
device plays, which it does not while it is muted; and asking for the buzzer makes it play exactly
if it is not muted and has a sound. -/
theorem no_stray_sound (requests : List Request) (stretchable : Stretchable requests) :
    let reaction := Mixer.idle.answerAll requests
    let mixer := reaction.mixer
    let calls := Mixer.openCalls ++ reaction.calls
    let speaker := Loudspeaker.silent.hearAll calls
    reaction.error = none ∧
      (mixer.wave.isSome ↔
        (∃ hertz, .rate hertz ∈ requests) ∧ ∃ bytes, .pattern bytes ∈ requests) ∧
      (∀ wave, mixer.wave = some wave →
        ∃ bytes hertz, latest Request.pattern? requests = some bytes ∧
          latest Request.rate? requests = some hertz ∧ stretch bytes hertz = .ok wave) ∧
      speaker.made.getLast? = mixer.wave ∧
      speaker.looping = (if mixer.playing then [speaker.made.length] else []) ∧
      (mixer.muted = true ↔ requests.count .toggleMute % 2 = 1) ∧
      (mixer.muted = true → speaker.looping = []) ∧
      Loudspeaker.silent.OrderlyThroughout calls ∧
      (∀ on, let after := (mixer.answer (.buzzer on)).mixer
        (after.playing = true ↔ on = true ∧ after.muted = false ∧ after.wave.isSome)) ∧
      ∀ others, latest Request.pattern? others = latest Request.pattern? requests →
        latest Request.rate? others = latest Request.rate? requests → Stretchable others →
        (Mixer.idle.answerAll others).mixer.wave = mixer.wave := by
  intro reaction mixer calls speaker
  have opened := settles_open
  have answered := opened.settled.settles_all stretchable
  have settled : Settled requests mixer speaker := by
    have settled := answered.settled
    rwa [← Loudspeaker.hearAll_append] at settled
  refine ⟨answered.error, ?_, ?_, settled.made, settled.looping, ?_, ?_,
    opened.orderly.append answered.orderly, ?_, ?_⟩
  · rw [settled.wave]
    exact isSome_soundOf stretchable
  · intro wave sound
    rw [settled.wave] at sound
    exact exists_of_soundOf sound
  · rw [settled.muted, decide_eq_true_iff]
  · intro muted
    rw [settled.looping, settled.not_playing muted]
    rfl
  · intro on
    rw [Mixer.answer, Request.commands, Mixer.obeyAll_singleton]
    simp [Mixer.obey, Mixer.buzz, and_assoc]
  · intro others pattern rate stretchable
    have settled' := (opened.settled.settles_all stretchable).settled
    rw [settled.wave, settled'.wave, List.nil_append, soundOf, soundOf, pattern, rate]

/-- A device is asked for the buzzer before it has a sound, is given a pattern and a rate while it
is muted, and another rate while it plays. -/
theorem no_stray_sound_when_retuned :
    let requests : List Request :=
      [.buzzer true, .toggleMute, .pattern #[0xF0], .rate 4000, .toggleMute, .buzzer true,
        .rate 8000]
    let mixer := (Mixer.idle.answerAll requests).mixer
    Stretchable requests ∧ mixer.wave.isSome := by
  intro requests mixer
  have stretchable : Stretchable requests := by
    intro bytes hertz pattern rate
    obtain rfl : bytes = #[0xF0] := by simpa [requests] using pattern
    have rates : hertz = 4000 ∨ hertz = 8000 := by simpa [requests] using rate
    rcases rates with rfl | rfl <;> exact exists_stretch (by decide) (by decide) (by decide)
  obtain ⟨-, sound, -⟩ := no_stray_sound requests stretchable
  exact ⟨stretchable, sound.mpr ⟨⟨4000, by decide⟩, #[0xF0], by decide⟩⟩

end Chip8.Sound
