import Chip8.Sound.Wave

/-!
# Mixer

The sound device.  It plays a wave in a loop while the buzzer is on, and makes a new wave when the
rate or the pattern changes.  Every call to the audio system is recorded in order.
-/

namespace Chip8.Sound

/-- What a sound device is asked to do. -/
inductive Command where
  /-- Play the pattern at a rate in bits a second. -/
  | rate (hertz : Int)
  /-- Play another pattern. -/
  | pattern (bytes : Array UInt8)
  /-- Turn the buzzer on or off. -/
  | buzzer (on : Bool)
  /-- Mute or unmute. -/
  | mute (on : Bool)
deriving DecidableEq, Repr

/-- A call to the audio system. -/
inductive Call where
  /-- Choose the format: rate, sample bits, channels, buffer length and permitted changes. -/
  | prepare (rate bits channels buffer changes : Nat)
  /-- Open the audio device. -/
  | connect
  /-- Close the audio device. -/
  | disconnect
  /-- Make a sound from a wave. -/
  | make (wave : Wave)
  /-- Set the volume of the sound, in percent. -/
  | volume (percent : Nat)
  /-- Play the sound in an endless loop. -/
  | loop
  /-- Stop the sound. -/
  | stop
deriving DecidableEq, Repr

/-- A sound device. -/
structure Mixer where
  /-- The pattern, once one is known. -/
  bits : Option (Array UInt8)
  /-- The rate, once one is known. -/
  hertz : Option Int
  /-- The wave being played or ready to be played. -/
  wave : Option Wave
  /-- Whether the sound is on. -/
  playing : Bool
  /-- Whether sound is suppressed. -/
  muted : Bool
deriving DecidableEq, Repr

/-- A device after a request, with the calls made and what went wrong, if anything. -/
structure Reaction where
  /-- The device afterwards. -/
  mixer : Mixer
  /-- Calls to the audio system, in order. -/
  calls : List Call
  /-- What ended the reaction early. -/
  error : Option WaveError

namespace Mixer

/-- A silent device that has neither rate nor pattern. -/
def idle : Mixer where
  bits := none
  hertz := none
  wave := none
  playing := false
  muted := false

/-- The calls that open a device: 8-bit samples on one channel, and no format but that one. -/
def openCalls : List Call := [.prepare mixerRate 8 1 512 0, .connect]

/-- Loudness of the sound, in percent. -/
def loudness : Nat := 10

/-- Make the wave anew once both rate and pattern are known.  A sound that is on is stopped first
and goes on with the new wave. -/
def rebuild (mixer : Mixer) : Reaction :=
  match mixer.bits, mixer.hertz with
  | some bits, some hertz =>
      let stopping := if mixer.playing then [Call.stop] else []
      match stretch bits hertz with
      | .error error => ⟨mixer, stopping, some error⟩
      | .ok wave =>
          ⟨{ mixer with wave := some wave },
            stopping ++ [.make wave, .volume loudness] ++ (if mixer.playing then [.loop] else []),
            none⟩
  | _, _ => ⟨mixer, [], none⟩

/-- Turn the sound on or off.  It is on only if it is asked for, not muted and known. -/
def buzz (mixer : Mixer) (on : Bool) : Reaction :=
  let on := on && !mixer.muted && mixer.wave.isSome
  let calls :=
    if on && !mixer.playing then [Call.loop]
    else if mixer.playing && !on then [.stop]
    else []
  ⟨{ mixer with playing := on }, calls, none⟩

/-- React to a request.  Asking again for the rate that is set changes nothing, while a pattern is
always taken anew. -/
def obey (mixer : Mixer) : Command → Reaction
  | .rate hertz =>
      if mixer.hertz = some hertz then
        ⟨mixer, [], none⟩
      else
        { mixer with hertz := some hertz }.rebuild
  | .pattern bytes => { mixer with bits := some bytes }.rebuild
  | .buzzer on => mixer.buzz on
  | .mute on => ⟨{ mixer with muted := on }, [], none⟩

/-- The calls that close a device. -/
def closeCalls (mixer : Mixer) : List Call :=
  (if mixer.wave.isSome then [.stop] else []) ++ [.disconnect]

end Mixer

/-- The requests by which the mute switch is flipped: muting also turns the buzzer off. -/
def toggleMute (muted : Bool) : List Command :=
  if muted then [.mute false] else [.mute true, .buzzer false]

namespace Mixer

/-- React to several requests in turn, up to the first that fails. -/
def obeyAll : List Command → Mixer → Reaction
  | [], mixer => ⟨mixer, [], none⟩
  | command :: rest, mixer =>
      let first := mixer.obey command
      match first.error with
      | some _ => first
      | none =>
          let others := obeyAll rest first.mixer
          { others with calls := first.calls ++ others.calls }

end Mixer

end Chip8.Sound
