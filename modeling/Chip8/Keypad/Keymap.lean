import Chip8.Instruction
import Chip8.Text.Fields
import Chip8.Text.Numeral

/-!
# Keymaps

A keymap assigns a different code of the host's keyboard to each of the sixteen keys.  It is written
as sixteen numbers with commas between them.
-/

namespace Chip8

/-- The codes of keys 0 to F. -/
structure Keymap where
  /-- The code of each key. -/
  codes : Vector Int 16
deriving DecidableEq, Repr

namespace Keymap

/-- The keymap used unless another one is given, for the left part of a keyboard. -/
def standardText : String := "120,49,50,51,113,119,101,97,115,100,122,99,52,114,102,118"

/-- Why a text is no keymap. -/
inductive Error where
  /-- Not sixteen codes. -/
  | wrongCount
  /-- A code that is no number. -/
  | notANumber
  /-- A code that is assigned twice. -/
  | duplicate
deriving DecidableEq, Repr

/-- The wording shown to the user. -/
def Error.message : Error → String
  | .wrongCount => "Incorrect number of keys defined -- 16 required.  Use commas to split numbers"
  | .notANumber => "Defined keys are not all integer values"
  | .duplicate => "Duplicate keys defined"

/-- The codes that pieces of text spell, different from each other and from those already seen. -/
def codesOf (seen : List Int) : List (List Char) → Except Error (List Int)
  | [] => .ok []
  | piece :: rest =>
      match Text.Numeral.decimal.parse? piece with
      | none => .error .notANumber
      | some code =>
          if code ∈ seen then
            .error .duplicate
          else
            (codesOf (code :: seen) rest).map (code :: ·)

/-- The keymap that a text spells. -/
def parse (text : List Char) : Except Error Keymap :=
  let pieces := Text.fields ',' text
  if pieces.length ≠ 16 then
    .error .wrongCount
  else
    (codesOf [] pieces).map fun codes => ⟨Vector.ofFn fun key => codes.getD key 0⟩

/-- The key that a code is assigned to. -/
def keyOf? (keymap : Keymap) (code : Int) : Option Digit :=
  (List.finRange 16).find? fun key => keymap.codes.get key == code

end Keymap

end Chip8
