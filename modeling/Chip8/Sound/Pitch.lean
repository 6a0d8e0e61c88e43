/-!
# Pitch

The rate at which the sampled sound is played, in bits a second: 4000 at pitch 64, and twice as
much for each 48 steps of pitch.  For the pitches that a register holds the rate is exact; further
up or down the scale it is what floating-point numbers make of it.
-/

namespace Chip8.Sound

/-- Whether a whole number of hertz is at most half a hertz above the exact rate
`4000 * 2 ^ ((pitch - 64) / 48)`, decided by comparing 48th powers. -/
def withinRate (pitch : UInt8) (hertz : Nat) : Bool :=
  (2 * hertz - 1).pow 48 <<< 64 ≤ Nat.pow 8000 48 <<< pitch.toNat

/-- The whole number of hertz nearest to the exact rate of a pitch. -/
def rate (pitch : UInt8) : Nat :=
  (List.range 16).foldr (fun bit hertz =>
    if withinRate pitch (hertz + 1 <<< bit) then hertz + 1 <<< bit else hertz) 0

/-- The whole number nearest to `mantissa * 2 ^ exponent`; a half goes to the even neighbour. -/
def nearest (mantissa : Nat) : Int → Nat
  | .ofNat exponent => mantissa <<< exponent
  | .negSucc below =>
      let unit := 1 <<< (below + 1)
      let whole := mantissa / unit
      let rest := mantissa % unit
      if unit < 2 * rest ∨ (unit = 2 * rest ∧ whole % 2 = 1) then whole + 1 else whole

/-- The whole number nearest to a floating-point number that is finite and not negative. -/
def nearestWhole (number : Float) : Nat :=
  let bits := number.toBits.toNat
  let exponent : Nat := bits >>> 52
  if exponent = 0 then
    nearest bits (-1074)
  else
    nearest (bits % 1 <<< 52 + 1 <<< 52) (exponent - 1075)

/-- Numbers of at least this size, above or below zero, are too large for a floating-point number:
they would be rounded to `2 ^ 1024`. -/
def floatBound : Nat := 1 <<< 1024 - 1 <<< 970

/-- The rate of any pitch, unless floating-point numbers cannot tell it. -/
def rate? (pitch : Int) : Option Nat :=
  if 0 ≤ pitch ∧ pitch ≤ 0xFF then
    some (rate (.ofNat pitch.toNat))
  else if floatBound ≤ (pitch - 64).natAbs then
    none
  else
    let hertz := 4000 * Float.pow 2 (Float.ofInt (pitch - 64) / 48)
    if hertz.isInf then none else some (nearestWhole hertz)

end Chip8.Sound
