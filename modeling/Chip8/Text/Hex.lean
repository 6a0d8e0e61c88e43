import Chip8.Text.Numeral

/-!
# Hexadecimal text

Lower-case hexadecimal with a minimum width.  A negative number carries a minus sign, which counts
towards the width, and zeros fill the space between sign and digits.  Blocks of bytes are written
with two digits each, and are read in either case and with blanks between the bytes.
-/

namespace Chip8.Text.Hex

/-- The digits of a natural number, most significant first. -/
def digits (n : Nat) : List Char := Nat.toDigits 16 n

/-- Digits padded on the left with zeros to at least the given width. -/
def padDigits (width n : Nat) : List Char :=
  List.replicate (width - (digits n).length) '0' ++ digits n

/-- A number in at least `width` characters, its sign included. -/
def pad (width : Nat) : Int → List Char
  | .ofNat n => padDigits width n
  | .negSucc n => '-' :: padDigits (width - 1) (n + 1)

/-- A number as text in at least `width` characters. -/
def text (width : Nat) (n : Int) : String := String.ofList (pad width n)

/-- A byte as exactly two digits. -/
def byte (b : UInt8) : List Char := padDigits 2 b.toNat

/-- Bytes as text, two digits each. -/
def bytes (block : List UInt8) : String := String.ofList (block.flatMap byte)

/-- The value of a digit, which is in ASCII. -/
def digit? (c : Char) : Option Nat :=
  if c.toNat < 0x80 then Numeral.hexadecimal.digit? c else none

/-- The bytes that a text spells. -/
def bytes? : List Char → Option (List UInt8)
  | [] => some []
  | [c] => if Blank.isAscii c then some [] else none
  | c :: d :: rest =>
      if Blank.isAscii c then
        bytes? (d :: rest)
      else do
        let value := (← digit? c) * 16 + (← digit? d)
        return .ofNat value :: (← bytes? rest)

end Chip8.Text.Hex
