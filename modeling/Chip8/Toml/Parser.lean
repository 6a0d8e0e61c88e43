import Chip8.Text.Hex
import Chip8.Toml.Document

/-!
# Reading TOML

A reader for the part of TOML that configuration files use: tables and arrays of tables, dotted and
quoted names, strings on one line, whole numbers, truth values, arrays and inline tables.
-/

namespace Chip8.Toml

/-- A part that was read and the text behind it. -/
abbrev Reading (α : Type) := Except Error (α × List Char)

namespace Reader

/-- Blanks within a line. -/
def isBlank (c : Char) : Bool := c == ' ' || c == '\t'

/-- Skip blanks within a line. -/
def skipBlanks (text : List Char) : List Char := text.dropWhile isBlank

/-- Control characters, which may not stand in strings and comments; a tab may. -/
def isIllegal (c : Char) : Bool := (c.toNat < 0x20 && c != '\t') || c.toNat == 0x7F

/-- Characters of a name without quotes. -/
def isBare (c : Char) : Bool := c.isAlphanum || c == '-' || c == '_'

/-- Make every line end the same. -/
def unifyLines : List Char → List Char
  | '\r' :: '\n' :: rest => '\n' :: unifyLines rest
  | c :: rest => c :: unifyLines rest
  | [] => []

/-- Skip a comment, if there is one, up to the end of the line. -/
def skipComment : List Char → Except Error (List Char)
  | '#' :: rest =>
      if (rest.takeWhile (· != '\n')).any isIllegal then .error .malformed
      else .ok (rest.dropWhile (· != '\n'))
  | text => .ok text

/-- Skip blanks, line ends and comments between the items of an array. -/
def skipFiller (inComment : Bool) : List Char → Except Error (List Char)
  | [] => .ok []
  | c :: rest =>
      if inComment then
        if c = '\n' then skipFiller false rest
        else if isIllegal c then .error .malformed
        else skipFiller true rest
      else if isBlank c || c == '\n' then
        skipFiller false rest
      else if c = '#' then
        skipFiller true rest
      else
        .ok (c :: rest)

/-- The character that hexadecimal digits name, if there is one. -/
def charOf? (digits : List Char) : Option Char := do
  let number := Text.Numeral.hexadecimal.valueOf (← digits.mapM Text.Hex.digit?)
  if number.isValidChar then some (Char.ofNat number) else none

/-- The character that a short escape names. -/
def escape? : Char → Option Char
  | 'b' => some (Char.ofNat 0x08)
  | 't' => some '\t'
  | 'n' => some '\n'
  | 'f' => some (Char.ofNat 0x0C)
  | 'r' => some '\r'
  | '"' => some '"'
  | '\\' => some '\\'
  | _ => none

/-- Put a character, if there is one, in front of a string that was read. -/
def prepend (c : Option Char) (tail : Reading (List Char)) : Reading (List Char) :=
  match c with
  | none => .error .malformed
  | some c => tail.map fun (chars, rest) => (c :: chars, rest)

/-- The rest of a string in double quotes. -/
def basicTail : List Char → Reading (List Char)
  | '"' :: rest => .ok ([], rest)
  | '\\' :: 'u' :: a :: b :: c :: d :: rest => prepend (charOf? [a, b, c, d]) (basicTail rest)
  | '\\' :: 'U' :: a :: b :: c :: d :: e :: f :: g :: h :: rest =>
      prepend (charOf? [a, b, c, d, e, f, g, h]) (basicTail rest)
  | '\\' :: c :: rest => prepend (escape? c) (basicTail rest)
  | c :: rest => prepend (if isIllegal c then none else some c) (basicTail rest)
  | [] => .error .malformed

/-- The rest of a string in single quotes, in which nothing is escaped. -/
def literalTail (text : List Char) : Reading (List Char) :=
  let content := text.takeWhile (· != '\'')
  match text.dropWhile (· != '\'') with
  | _ :: rest => if content.any isIllegal then .error .malformed else .ok (content, rest)
  | [] => .error .malformed

/-- One part of a dotted name. -/
def keyPart (text : List Char) : Reading String :=
  match text with
  | '"' :: rest => (basicTail rest).map fun (chars, rest) => (String.ofList chars, rest)
  | '\'' :: rest => (literalTail rest).map fun (chars, rest) => (String.ofList chars, rest)
  | _ =>
      let content := text.takeWhile isBare
      if content.isEmpty then .error .malformed
      else .ok (String.ofList content, text.dropWhile isBare)

/-- A dotted name and the blanks behind it. -/
def key : Nat → List Char → Except Error (Path × List Char)
  | 0, _ => .error .malformed
  | fuel + 1, text => do
      let (part, rest) ← keyPart text
      match skipBlanks rest with
      | '.' :: rest => do
          let (parts, rest) ← key fuel (skipBlanks rest)
          return (part :: parts, rest)
      | rest => return ([part], rest)

/-- The longest run of digits with at most one underscore between two of them, after a first digit
has been read. -/
def digitRun (isDigit : Char → Bool) : List Char → List Char × List Char
  | '_' :: c :: rest =>
      if isDigit c then
        let (digits, rest) := digitRun isDigit rest
        (c :: digits, rest)
      else
        ([], '_' :: c :: rest)
  | c :: rest =>
      if isDigit c then
        let (digits, rest) := digitRun isDigit rest
        (c :: digits, rest)
      else
        ([], c :: rest)
  | [] => ([], [])

/-- The number that digits spell in a base. -/
def spell (base : Nat) (digits : List Char) : Nat :=
  digits.foldl (fun value c => value * base + (Text.Numeral.digitValue? c).getD 0) 0

/-- A digit of a base, in ASCII. -/
def isDigitOf (base : Nat) (c : Char) : Bool := (Text.Hex.digit? c).any (· < base)

/-- A number in a base other than ten, behind its prefix. -/
def prefixed? (base : Nat) : List Char → Option (Value × List Char)
  | c :: rest =>
      if isDigitOf base c then
        let (digits, rest) := digitRun (isDigitOf base) rest
        some (.integer (spell base (c :: digits)), rest)
      else
        none
  | [] => none

/-- A decimal number without sign. -/
def decimal : List Char → Reading Nat
  | '0' :: rest => .ok (0, rest)
  | c :: rest =>
      if c.isDigit then
        let (digits, rest) := digitRun Char.isDigit rest
        if Text.Numeral.decimal.maxDigits.any fun most => most < digits.length + 1 then
          .error .numberTooLong
        else
          .ok (spell 10 (c :: digits), rest)
      else
        .error .malformed
  | [] => .error .malformed

/-- A whole number. -/
def number (text : List Char) : Reading Value :=
  let based : Option (Value × List Char) :=
    match text with
    | '0' :: 'x' :: rest => prefixed? 16 rest
    | '0' :: 'o' :: rest => prefixed? 8 rest
    | '0' :: 'b' :: rest => prefixed? 2 rest
    | _ => none
  match based with
  | some reading => .ok reading
  | none =>
      match text with
      | '+' :: rest => (decimal rest).map fun (n, rest) => (.integer n, rest)
      | '-' :: rest => (decimal rest).map fun (n, rest) => (.integer (-n), rest)
      | rest => (decimal rest).map fun (n, rest) => (.integer n, rest)

/-- How deeply values may be nested: an array takes two places of these and an inline table
three. -/
def maxDepth : Nat := 988

/-- The places left inside a value that takes some of them. -/
def enter (places room : Nat) : Except Error Nat :=
  if room < places then .error .nestedTooDeeply else .ok (room - places)

mutual

/-- A value, for whose parts there is some room. -/
def value : Nat → Nat → List Char → Except Error (Value × List Char)
  | 0, _, _ => .error .malformed
  | fuel + 1, room, text =>
      match text with
      | '"' :: rest => (basicTail rest).map fun (chars, rest) => (.text (String.ofList chars), rest)
      | '\'' :: rest =>
          (literalTail rest).map fun (chars, rest) => (.text (String.ofList chars), rest)
      | 't' :: 'r' :: 'u' :: 'e' :: rest => .ok (.boolean true, rest)
      | 'f' :: 'a' :: 'l' :: 's' :: 'e' :: rest => .ok (.boolean false, rest)
      | '[' :: rest => do
          let room ← enter 2 room
          match ← skipFiller false rest with
          | ']' :: rest => return (.array [], rest)
          | rest =>
              let (items, rest) ← items fuel room rest
              return (.array items, rest)
      | '\x7b' :: rest => do
          let room ← enter 3 room
          match skipBlanks rest with
          | '\x7d' :: rest => return (.table [], rest)
          | rest => inlineEntries fuel room [] [] rest
      | text => number text

/-- The items of an array, of which there is at least one. -/
def items : Nat → Nat → List Char → Except Error (List Value × List Char)
  | 0, _, _ => .error .malformed
  | fuel + 1, room, text => do
      let (first, rest) ← value fuel room text
      match ← skipFiller false rest with
      | ']' :: rest => return ([first], rest)
      | ',' :: rest =>
          match ← skipFiller false rest with
          | ']' :: rest => return ([first], rest)
          | rest =>
              let (others, rest) ← items fuel room rest
              return (first :: others, rest)
      | _ => throw .malformed

/-- The entries of an inline table, of which there is at least one more to come. -/
def inlineEntries : Nat → Nat → List Path → Table → List Char → Except Error (Value × List Char)
  | 0, _, _, _, _ => .error .malformed
  | fuel + 1, room, frozen, table, text => do
      let (key, rest) ← key (text.length + 1) text
      match rest with
      | '=' :: rest =>
          let (value, rest) ← value fuel room (skipBlanks rest)
          if Document.isFrozen frozen key then
            throw .malformed
          let table ← table.change false key.dropLast (Table.add (key.getLastD "") value)
          match skipBlanks rest with
          | '\x7d' :: rest => return (.table table, rest)
          | ',' :: rest =>
              inlineEntries fuel room (if value.isContainer then key :: frozen else frozen) table
                (skipBlanks rest)
          | _ => throw .malformed
      | _ => throw .malformed

end

/-- A name, an equals sign and a value. -/
def pair (document : Document) (text : List Char) : Except Error (Document × List Char) := do
  let (key, rest) ← key (text.length + 1) text
  match rest with
  | '=' :: rest =>
      let (value, rest) ← value (2 * text.length + 2) maxDepth (skipBlanks rest)
      return (← document.pair key value, rest)
  | _ => throw .malformed

/-- What stands on a line that is neither empty nor a mere comment. -/
def statement (document : Document) (text : List Char) : Except Error (Document × List Char) :=
  match text with
  | '[' :: '[' :: rest => do
      let (key, rest) ← key (text.length + 1) (skipBlanks rest)
      let document ← document.settle.openItem key
      match rest with
      | ']' :: ']' :: rest => return (document, rest)
      | _ => throw .malformed
  | '[' :: rest => do
      let (key, rest) ← key (text.length + 1) (skipBlanks rest)
      let document ← document.settle.openTable key
      match rest with
      | ']' :: rest => return (document, rest)
      | _ => throw .malformed
  | '#' :: _ => .ok (document, text)
  | _ => pair document text

/-- All lines of a document. -/
def lines : Nat → Document → List Char → Except Error Document
  | 0, _, _ => .error .malformed
  | fuel + 1, document, text =>
      match skipBlanks text with
      | [] => .ok document
      | '\n' :: rest => lines fuel document rest
      | text => do
          let (document, rest) ← statement document text
          match ← skipComment (skipBlanks rest) with
          | [] => return document
          | '\n' :: rest => lines fuel document rest
          | _ => throw .malformed

end Reader

/-- The root table of a document. -/
def parse (text : String) : Except Error Table := do
  let chars := Reader.unifyLines text.toList
  return (← Reader.lines (chars.length + 1) .empty chars).root

end Chip8.Toml
