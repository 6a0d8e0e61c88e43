import Chip8.Text.Hex
import Chip8.Text.Unprintable

/-!
# Quoted text

Text as messages quote it: in single quotes, or in double quotes if it holds a single quote and no
double one.  Backslashes, the quote in use and what cannot be printed are escaped.
-/

namespace Chip8.Text.Quoted

/-- The quote that goes around a text. -/
def mark (text : List Char) : Char :=
  if text.contains '\'' && !text.contains '"' then '"' else '\''

/-- A character inside quotes. -/
def escape (quote c : Char) : List Char :=
  if c = quote ∨ c = '\\' then ['\\', c]
  else if c = '\n' then ['\\', 'n']
  else if c = '\r' then ['\\', 'r']
  else if c = '\t' then ['\\', 't']
  else if !Unprintable.holds c then [c]
  else if c.toNat < 0x100 then '\\' :: 'x' :: Hex.padDigits 2 c.toNat
  else if c.toNat < 0x10000 then '\\' :: 'u' :: Hex.padDigits 4 c.toNat
  else '\\' :: 'U' :: Hex.padDigits 8 c.toNat

/-- A text in quotes. -/
def quote (text : String) : String :=
  let chars := text.toList
  let mark := mark chars
  String.ofList (mark :: chars.flatMap (escape mark) ++ [mark])

end Chip8.Text.Quoted
