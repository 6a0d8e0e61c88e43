import Chip8.Sound.Pitch

/-!
# Waves

A sampled sound is a string of bits played at a rate that no mixer offers.  Here it is stretched to
the mixer's own rate: every bit becomes a run of silent or full samples.
-/

namespace Chip8.Sound

/-- Samples at the mixer's rate, each silent or full. -/
abbrev Wave := Array Bool

/-- Why a pattern cannot be stretched. -/
inductive WaveError where
  /-- The rate is zero, so no bit would ever end. -/
  | zeroRate
  /-- The rate is so far below zero that the wave would have a negative length. -/
  | negativeLength
  /-- The rate is so far from zero that no floating-point number says how fast it runs through the
  bits. -/
  | rateTooLarge
deriving DecidableEq, Repr

/-- Samples a second that the mixer plays. -/
def mixerRate : Nat := 44100

/-- The bit of a pattern at a position, counted from the top bit of the first byte. -/
def patternBit (pattern : Array UInt8) (position : Nat) : Bool :=
  (pattern.getD (position / 8) 0).toNat.testBit (7 - position % 8)

/-- The whole part of a number that is not negative. -/
def wholePart (number : Float) : Nat := number.toUInt64.toNat

/-- Stretch a pattern that is to be played at a rate in bits a second. -/
def stretch (pattern : Array UInt8) (rate : Int) : Except WaveError Wave :=
  let step := Float.ofInt rate / Float.ofNat mixerRate
  if rate = 0 then
    .error .zeroRate
  else if floatBound * mixerRate ≤ rate.natAbs then
    .error .rateTooLarge
  else
    let length := Float.ofNat (pattern.size * 8) / step
    if length ≤ -1 then
      .error .negativeLength
    else
      .ok <| Array.ofFn (n := wholePart length) fun sample =>
        patternBit pattern (wholePart (Float.ofNat sample * step))

end Chip8.Sound
