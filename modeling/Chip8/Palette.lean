import Chip8.Text.Fields
import Chip8.Text.Numeral

/-!
# Palettes

Four colours as numbers: for unlit pixels, for each of two planes, and for pixels lit in both.  A
palette is written as up to four groups of six hexadecimal digits with commas between them; the
colours that are not given are those of the standard palette.
-/

namespace Chip8

/-- Colours for the four colour indices. -/
abbrev Palette := Vector Int 4

namespace Palette

/-- The palettes that are always there. -/
def standard : List Palette := [
  #v[0x222222, 0xDDDDDD, 0x00DD88, 0xDD5555],
  #v[0x000000, 0xFFFFFF, 0xAAAAAA, 0x555555],
  #v[0x0F380F, 0x9BBC0F, 0x8BAC0F, 0x306230],
  #v[0x1D1D3B, 0xF5A623, 0x4A90E2, 0xD0021B]]

/-- The palette that supplies colours which are not given. -/
def basis : Palette := #v[0x222222, 0xDDDDDD, 0x00DD88, 0xDD5555]

/-- Why a text is no palette. -/
inductive Error where
  /-- More than four colours. -/
  | tooMany
  /-- A colour that is not six characters long. -/
  | wrongLength
  /-- A colour that is no hexadecimal number. -/
  | notANumber
deriving DecidableEq, Repr

/-- The wording shown to the user. -/
def Error.message : Error → String
  | .tooMany => "Too many palette colours defined."
  | .wrongLength => "Palette colours must all be 6 hex digits long."
  | .notANumber => "Invalid palette colour defined."

/-- The colour that a group of characters spells. -/
def colour (group : List Char) : Except Error Int :=
  if group.length ≠ 6 then
    .error .wrongLength
  else
    (Text.Numeral.hexadecimal.parse? group).elim (.error .notANumber) .ok

/-- The standard palette with its first colours replaced. -/
def ofColours (colours : List Int) : Palette :=
  Vector.ofFn fun number => colours.getD number basis[number]

/-- The palette that a text spells. -/
def parse (text : List Char) : Except Error Palette :=
  let groups := Text.fields ',' text
  if 4 < groups.length then
    .error .tooMany
  else
    (groups.mapM colour).map ofColours

end Palette

end Chip8
