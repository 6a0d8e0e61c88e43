import Chip8.Palette
import Chip8.Text.Quoted
import Chip8.Toml.Parser

/-!
# Palette collections

A configuration document may name palettes in its table `frontend`: `palettes_available` lists
their names, an entry of each name holds the colours, and `palette` selects the one that comes
first.  The entries may have any type, so every use of one states what it accepts.
-/

namespace Chip8.Palette.Collection

open Toml (Value Table)

/-- Why a file yields no palettes. -/
inductive Error where
  /-- The file cannot be read. -/
  | unreadable
  /-- The file is not UTF-8 text. -/
  | notUtf8
  /-- The text is no document. -/
  | malformed
  /-- A number in the text, or one to be shown as a missing key, is too long. -/
  | numberTooLong
  /-- Values in the text are nested too deeply. -/
  | nestedTooDeeply
  /-- An entry is missing; its key is given as messages show it. -/
  | missingEntry (shown : String)
  /-- A value has no parts, cannot be looked up, or cannot be searched for. -/
  | wrongType
  /-- A colour is not a string. -/
  | colourNotText
  /-- The selected palette is named by a table, which has no order to rotate. -/
  | unordered
  /-- No palette is listed. -/
  | noPalettes
  /-- A palette does not spell colours. -/
  | palette (error : Palette.Error)
deriving DecidableEq, Repr

/-- The wording shown to the user. -/
def Error.message : Error → String
  | .unreadable => "Cannot read palette file:"
  | .notUtf8 => "Palette file is not UTF-8 text."
  | .malformed => "Invalid palette file:"
  | .numberTooLong => "Palette file holds a number that is too long."
  | .nestedTooDeeply => "Palette file nests values too deeply."
  | .missingEntry shown => "Palette file has no " ++ shown ++ " entry."
  | .wrongType => "Palette file has an entry of the wrong type."
  | .colourNotText => "Palette file has a colour that is not text."
  | .unordered => "Palette file lists its palettes without order."
  | .noPalettes => "Palette file lists no palettes."
  | .palette error => error.message

/-- Whether the error is reported as one of the palette file. -/
def Error.isReported : Error → Bool
  | .unreadable | .malformed | .missingEntry _ | .noPalettes | .palette _ => true
  | .notUtf8 | .numberTooLong | .nestedTooDeeply | .wrongType | .colourNotText | .unordered => false

/-- A named entry of a table. -/
def entry (table : Table) (name : String) : Except Error Value :=
  (table.lookup name).elim (.error (.missingEntry (Text.Quoted.quote name))) .ok

/-- The entry of a table whose key is a value.  Keys are strings; other values without parts are
never found, and values with parts cannot be looked up. -/
def entryOf (table : Table) : Value → Except Error Value
  | .text name => entry table name
  | .integer number =>
      if Text.Numeral.decimal.isTooLong number then .error .numberTooLong
      else .error (.missingEntry (toString number))
  | .boolean truth => .error (.missingEntry (if truth then "True" else "False"))
  | .other shown => .error (.missingEntry shown)
  | .array _ | .table _ => .error .wrongType

/-- The parts of a value, in order: items, characters or names. -/
def parts : Value → Except Error (List Value)
  | .array items => .ok items
  | .text content => .ok (content.toList.map fun c => .text c.toString)
  | .table entries => .ok (entries.map fun entry => .text entry.1)
  | .integer _ | .boolean _ | .other _ => .error .wrongType

/-- The first four parts of a value; a table has no order to take them by.  Up to release 3.11 of the
program's runtime that is an error of type, as it is here; later ones look for a key that no table
has, and report it as missing. -/
def firstFour : Value → Except Error (List Value)
  | .table _ => .error .wrongType
  | value => (parts value).map (List.take 4)

/-- The characters of a colour, without number signs in front. -/
def colourText : Value → Except Error (List Char)
  | .text content => .ok (content.toList.dropWhile (· == '#'))
  | _ => .error .colourNotText

/-- The palette that an entry spells. -/
def paletteOf (value : Value) : Except Error Palette := do
  let colours ← (← firstFour value).mapM colourText
  (Palette.parse ([','].intercalate colours)).mapError .palette

/-- Where a text first occurs in another one. -/
def occurrence? (part whole : List Char) : Option Nat :=
  (List.range (whole.length + 1)).find? fun place => part.isPrefixOf (whole.drop place)

/-- Whether a value is the string `name`. -/
def isText (name : String) : Value → Bool
  | .text content => content == name
  | _ => false

/-- The place of the selected name among the listed ones, if it occurs there.  A list is searched
for an equal item and a string for a part of it. -/
def place? (names : Value) (selected : Option Value) : Except Error (Option Nat) :=
  match names, selected with
  | .array items, some (.text name) => .ok (items.findIdx? (isText name))
  | .text content, some (.text name) => .ok (occurrence? name.toList content.toList)
  | .text _, _ => .error .wrongType
  | .table entries, some (.text name) =>
      if (entries.lookup name).isSome then .error .unordered else .ok none
  | .table _, some (.array _) | .table _, some (.table _) => .error .wrongType
  | _, _ => .ok none

/-- The items from a place onwards, followed by those before it. -/
def rotate {α : Type} (items : List α) : Option Nat → List α
  | some place => items.drop place ++ items.take place
  | none => items

/-- The palette of a listed name. -/
def paletteNamed (frontend : Table) (name : Value) : Except Error Palette := do
  paletteOf (← entryOf frontend name)

/-- The palettes that a table lists, the selected one first. -/
def ofFrontend (frontend : Table) : Except Error (List Palette) := do
  let names ← entry frontend "palettes_available"
  let palettes ← (← parts names).mapM (paletteNamed frontend)
  if palettes.isEmpty then
    throw .noPalettes
  return rotate palettes (← place? names (frontend.lookup "palette"))

/-- The palettes that a document names. -/
def ofTable (root : Table) : Except Error (List Palette) := do
  match ← entry root "frontend" with
  | .table frontend => ofFrontend frontend
  | _ => throw .wrongType

/-- The wording-free cause of a reading error. -/
def ofReadingError : Toml.Error → Error
  | .malformed => .malformed
  | .numberTooLong => .numberTooLong
  | .nestedTooDeeply => .nestedTooDeeply

/-- The palettes that a file names, whose text is read as a document in a given way; without content
the file cannot be read. -/
def load (read : String → Except Toml.Error Table) (content : Option ByteArray) :
    Except Error (List Palette) := do
  let bytes ← content.elim (.error .unreadable) .ok
  let text ← (String.fromUTF8? bytes).elim (.error .notUtf8) .ok
  ofTable (← (read text).mapError ofReadingError)

/-- The palettes that a file names. -/
def ofFile (content : Option ByteArray) : Except Error (List Palette) := load Toml.parse content

end Chip8.Palette.Collection
