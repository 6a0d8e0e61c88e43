import Chip8.Text.Blank
import Chip8.Text.DecimalDigit

/-!
# Numerals

Whole numbers as people write them: blanks around them, a sign, a prefix for hexadecimal, single
underscores between digits, and the decimal digits of any script.
-/

namespace Chip8.Text

/-- A way of writing whole numbers. -/
structure Numeral where
  /-- Number of different digits, at most sixteen. -/
  base : Nat
  /-- Whether `0x` may stand in front of the digits. -/
  prefixed : Bool
  /-- The largest number of digits, if there is one. -/
  maxDigits : Option Nat
deriving DecidableEq, Repr

namespace Numeral

/-- Decimal numbers of up to 4300 digits. -/
def decimal : Numeral := ⟨10, false, some 4300⟩

/-- Hexadecimal numbers of any length. -/
def hexadecimal : Numeral := ⟨16, true, none⟩

/-- The value of a digit: a decimal digit of any script or a Latin letter. -/
def digitValue? (c : Char) : Option Nat :=
  if 'a' ≤ c ∧ c ≤ 'z' then some (c.toNat - 'a'.toNat + 10)
  else if 'A' ≤ c ∧ c ≤ 'Z' then some (c.toNat - 'A'.toNat + 10)
  else DecimalDigit.value? c

/-- The value of a digit that the base has. -/
def digit? (numeral : Numeral) (c : Char) : Option Nat :=
  (digitValue? c).filter fun value => value < numeral.base

/-- One digit or more, with at most one underscore between two of them. -/
def digits? (numeral : Numeral) : List Char → Option (List Nat)
  | [] => none
  | [c] => (numeral.digit? c).map ([·])
  | c :: '_' :: rest => do return (← numeral.digit? c) :: (← numeral.digits? rest)
  | c :: rest => do return (← numeral.digit? c) :: (← numeral.digits? rest)

/-- The number that digits spell, most significant first. -/
def valueOf (numeral : Numeral) (digits : List Nat) : Nat :=
  digits.foldl (fun value digit => value * numeral.base + digit) 0

/-- Drop a hexadecimal prefix and the underscore that may follow it. -/
def dropPrefix (numeral : Numeral) : List Char → List Char
  | lead :: letter :: rest =>
      if numeral.prefixed ∧ DecimalDigit.value? lead = some 0 ∧ (letter = 'x' ∨ letter = 'X') then
        match rest with
        | '_' :: rest => rest
        | rest => rest
      else
        lead :: letter :: rest
  | text => text

/-- Whether a number has more digits than are allowed. -/
def isTooLong (numeral : Numeral) (number : Int) : Bool :=
  numeral.maxDigits.any fun most => numeral.base.pow most ≤ number.natAbs

/-- A number without sign. -/
def magnitude? (numeral : Numeral) (text : List Char) : Option Nat := do
  let digits ← numeral.digits? (numeral.dropPrefix text)
  if numeral.maxDigits.any fun most => most < digits.length then
    none
  else
    some (numeral.valueOf digits)

/-- Text without the blanks around it. -/
def trim (text : List Char) : List Char :=
  ((text.dropWhile Blank.holds).reverse.dropWhile Blank.holds).reverse

/-- The number that a text spells. -/
def parse? (numeral : Numeral) (text : List Char) : Option Int :=
  match trim text with
  | '+' :: rest => (numeral.magnitude? rest).map Int.ofNat
  | '-' :: rest => (numeral.magnitude? rest).map fun value => -value
  | rest => (numeral.magnitude? rest).map Int.ofNat

end Numeral

end Chip8.Text
