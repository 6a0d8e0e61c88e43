/-!
# Blanks

The characters that may surround a number, and those that count as blank at the end of a text.
-/

namespace Chip8.Text.Blank

/-- ASCII blanks: space, tab, line feed, vertical tab, form feed and carriage return. -/
def isAscii (c : Char) : Bool := c.toNat == 0x20 || (0x09 ≤ c.toNat && c.toNat ≤ 0x0D)

/-- Blanks above ASCII (Unicode 14). -/
def isWide (c : Char) : Bool :=
  [0x85, 0xA0, 0x1680, 0x2028, 0x2029, 0x202F, 0x205F, 0x3000].contains c.toNat
    || (0x2000 ≤ c.toNat && c.toNat ≤ 0x200A)

/-- Whether a character may surround a number. -/
def holds (c : Char) : Bool := isAscii c || isWide c

/-- The ASCII separators of files, groups, records and units. -/
def isSeparator (c : Char) : Bool := 0x1C ≤ c.toNat && c.toNat ≤ 0x1F

/-- A text without the blanks and separators at its end. -/
def dropEnd (text : String) : String :=
  String.ofList (text.toList.reverse.dropWhile fun c => holds c || isSeparator c).reverse

end Chip8.Text.Blank
