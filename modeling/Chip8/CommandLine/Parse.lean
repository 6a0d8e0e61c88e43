import Chip8.CommandLine.Options
import Chip8.Text.Quoted

/-!
# Reading the command line

Words are first told apart: those that name parameters, the separator `--`, and the rest.  Then
they are taken from left to right.  Long names may be shortened as long as they stay unique, short
flags may share one dash, and a value may follow its parameter in the same word.  Only there can a
value look like the separator, and then it is lost.
-/

namespace Chip8.CommandLine

open Text

/-- What is wrong with a command line. -/
inductive Error where
  /-- A word could stand for several names. -/
  | ambiguous (word : String) (names : List String)
  /-- A parameter that takes a value has none. -/
  | expectedOne (parameter : Parameter)
  /-- A flag has a value. -/
  | ignored (parameter : Parameter) (value : String)
  /-- A value is no whole number. -/
  | notANumber (parameter : Parameter) (value : String)
  /-- A value is none of the choices; both are given as messages show them. -/
  | notAChoice (parameter : Parameter) (value : String) (choices : List String)
  /-- The program to execute is not named. -/
  | missingFilename
  /-- Words are left over. -/
  | unrecognized (words : List String)
deriving DecidableEq, Repr

/-- The wording shown to the user. -/
def Error.message : Error → String
  | .ambiguous word names =>
      "ambiguous option: " ++ word ++ " could match " ++ ", ".intercalate names
  | .expectedOne parameter => "argument " ++ parameter.title ++ ": expected one argument"
  | .ignored parameter value =>
      "argument " ++ parameter.title ++ ": ignored explicit argument " ++ Quoted.quote value
  | .notANumber parameter value =>
      "argument " ++ parameter.title ++ ": invalid int value: " ++ Quoted.quote value
  | .notAChoice parameter value choices =>
      "argument " ++ parameter.title ++ ": invalid choice: " ++ value ++ " (choose from "
        ++ ", ".intercalate choices ++ ")"
  | .missingFilename => "the following arguments are required: filename"
  | .unrecognized words =>
      Text.Blank.dropEnd ("unrecognized arguments: " ++ " ".intercalate words)

/-- What a word is. -/
inductive Word where
  /-- A value or the program to execute. -/
  | plain (text : String)
  /-- The separator behind which no word names a parameter. -/
  | separator
  /-- A parameter, with what stands behind it in the same word; `short` tells whether it is named
  by a single letter. -/
  | named (parameter : Parameter) (short : Bool) (attached : Option (List Char))
  /-- The name of no parameter. -/
  | unknown (text : String)

namespace Word

/-- Whether a word is a negative number, a line end behind it aside. -/
def isNegativeNumber (word : List Char) : Bool :=
  let isDigit (c : Char) : Bool := (DecimalDigit.value? c).isSome
  let word := if word.getLast? = some '\n' then word.dropLast else word
  match word with
  | '-' :: rest =>
      match rest.dropWhile isDigit with
      | [] => !rest.isEmpty
      | '.' :: fraction => !fraction.isEmpty && fraction.all isDigit
      | _ => false
  | _ => false

/-- A word cut at its first equals sign. -/
def cut (word : List Char) : List Char × Option (List Char) :=
  match word.dropWhile (· != '=') with
  | _ :: value => (word.takeWhile (· != '='), some value)
  | [] => (word, none)

/-- Whether a word starts with two dashes. -/
def isLong : List Char → Bool
  | '-' :: '-' :: _ => true
  | _ => false

/-- The names that a word which is no name itself may stand for, with the parameter and the value
attached to each. -/
def candidates (word : List Char) : List (String × Word) :=
  if isLong word then
    let (start, attached) := cut word
    (Parameter.byName.filter fun (name, _) => start.isPrefixOf name.toList).map
      fun (name, parameter) => (name, .named parameter false attached)
  else
    (Parameter.byName.filter fun (name, _) => name.toList = word.take 2).map
      fun (name, parameter) => (name, .named parameter true (some (word.drop 2)))

/-- Tell what a word in front of the separator is. -/
def ofText (text : String) : Except Error Word :=
  let word := text.toList
  let start := cut word
  if word.head? ≠ some '-' then
    .ok (.plain text)
  else
    match Parameter.byName.lookup text with
    | some parameter => .ok (.named parameter (!isLong word) none)
    | none =>
        if word.length = 1 then
          .ok (.plain text)
        else
          match start.2, Parameter.byName.lookup (String.ofList start.1) with
          | some attached, some parameter =>
              .ok (.named parameter (!isLong word) (some attached))
          | _, _ =>
              match candidates word with
              | [] =>
                  if isNegativeNumber word || word.contains ' ' then .ok (.plain text)
                  else .ok (.unknown text)
              | [(_, meaning)] => .ok meaning
              | several => .error (.ambiguous text (several.map Prod.fst))

/-- Tell what every word is. -/
def ofTexts : List String → Except Error (List Word)
  | [] => .ok []
  | "--" :: rest => .ok (.separator :: rest.map .plain)
  | text :: rest => do return (← ofText text) :: (← ofTexts rest)

end Word

/-- A parameter with its value, if it has one. -/
abbrev Assignment := Parameter × Option String

/-- What a word that names parameters comes to. -/
structure Expansion where
  /-- The assignments that it makes, in order. -/
  assignments : List Assignment
  /-- Whether the next word is used up as a value. -/
  takesNext : Bool

namespace Expansion

/-- A parameter with nothing behind it: a value comes from the next word. -/
def alone (next : Option String) (parameter : Parameter) : Except Error Expansion :=
  if parameter.argument = .none then
    .ok ⟨[(parameter, none)], false⟩
  else
    match next with
    | some value => .ok ⟨[(parameter, some value)], true⟩
    | none => .error (.expectedOne parameter)

/-- A parameter with a value behind it. -/
def withValue (parameter : Parameter) (text : List Char) : Expansion :=
  ⟨[(parameter, some (String.ofList text))], false⟩

/-- A parameter with letters behind it.  A flag passes them on to the parameter that the first of
them names; any other parameter takes them as its value. -/
def chain (next : Option String) (parameter : Parameter) : List Char → Except Error Expansion
  | [] => alone next parameter
  | letter :: rest =>
      if parameter.argument ≠ .none then
        .ok (withValue parameter (letter :: rest))
      else
        match Parameter.byName.lookup (String.ofList ['-', letter]) with
        | none => .error (.ignored parameter (String.ofList (letter :: rest)))
        | some other =>
            (chain next other rest).map fun expansion =>
              { expansion with assignments := (parameter, none) :: expansion.assignments }

/-- Expand a word that names a parameter.  What is attached to a flag can only be letters behind a
short name. -/
def ofWord (short : Bool) (next : Option String) (parameter : Parameter) :
    Option (List Char) → Except Error Expansion
  | none => alone next parameter
  | some text =>
      if parameter.argument ≠ .none then
        .ok (withValue parameter text)
      else if short && !text.isEmpty then
        chain next parameter text
      else
        .error (.ignored parameter (String.ofList text))

end Expansion

/-- What has been taken from the command line so far. -/
structure Taken where
  /-- The program to execute. -/
  filename : Option String
  /-- Options settled so far. -/
  options : Options
  /-- Words left over. -/
  left : List String
  /-- Whether help is asked for. -/
  help : Bool

namespace Taken

/-- Accept a value that is among the choices, if there are any. -/
def choose {α : Type} [DecidableEq α] (parameter : Parameter) (shown : α → String) (value : α) :
    Option (List α) → Except Error Unit
  | none => .ok ()
  | some choices =>
      if value ∈ choices then .ok ()
      else .error (.notAChoice parameter (shown value) (choices.map shown))

/-- The text that counts for nothing as a value. -/
def lostValue : String := "--"

/-- Enter a value for a parameter. -/
def enter (options : Options) (value : String) (parameter : Parameter) : Except Error Options :=
  match parameter.argument with
  | .none => .ok options
  | .text choices =>
      if value = lostValue then
        .ok (options.enterText .blank parameter)
      else do
        choose parameter Quoted.quote value choices
        return options.enterText (.given value) parameter
  | .number choices =>
      if value = lostValue then
        .ok (options.enterNumber .blank parameter)
      else
        match Numeral.decimal.parse? value.toList with
        | none => .error (.notANumber parameter value)
        | some number => do
            choose parameter (fun number => toString number) number choices
            return options.enterNumber (.given number) parameter

/-- Settle a parameter. -/
def assign (taken : Taken) : Assignment → Except Error Taken
  | (.help, _) => .ok { taken with help := true }
  | (parameter, none) => .ok { taken with options := taken.options.raise parameter }
  | (parameter, some value) => do
      return { taken with options := ← enter taken.options value parameter }

/-- Settle parameters in order; a request for help ends the work. -/
def assignAll : List Assignment → Taken → Except Error Taken
  | [], taken => .ok taken
  | assignment :: rest, taken => do
      let taken ← taken.assign assignment
      if taken.help then return taken else assignAll rest taken

/-- The value that the next word offers to a parameter. -/
def offered : List Word → Option String
  | .plain text :: _ => some text
  | _ => none

/-- Words without a separator in front. -/
def dropSeparator : List Word → List Word
  | .separator :: rest => rest
  | words => words

theorem length_dropSeparator_le (words : List Word) :
    (dropSeparator words).length ≤ words.length := by
  unfold dropSeparator
  split <;> simp

/-- Put a word among those left over. -/
def leave (taken : Taken) (text : String) : Taken :=
  { taken with left := taken.left ++ [text] }

/-- Take words from left to right.  The first plain word is the program to execute and swallows a
separator beside it; later ones are left over. -/
def takeAll (taken : Taken) : List Word → Except Error Taken
  | [] => .ok taken
  | .plain text :: rest =>
      if taken.filename.isSome then (taken.leave text).takeAll rest
      else { taken with filename := some text }.takeAll (dropSeparator rest)
  | .separator :: rest =>
      if taken.filename.isSome || rest.isEmpty then (taken.leave "--").takeAll rest
      else taken.takeAll rest
  | .unknown text :: rest => (taken.leave text).takeAll rest
  | .named parameter short attached :: rest => do
      let expansion ← Expansion.ofWord short (offered rest) parameter attached
      let taken ← assignAll expansion.assignments taken
      if taken.help then
        return taken
      else
        taken.takeAll (rest.drop (if expansion.takesNext then 1 else 0))
termination_by words => words.length
decreasing_by
  all_goals try have := length_dropSeparator_le rest
  all_goals grind

end Taken

/-- What a command line asks for. -/
inductive Request where
  /-- To execute a program. -/
  | execute (options : Options)
  /-- To be told how the command line is used. -/
  | help

/-- Read a command line. -/
def parse (texts : List String) : Except Error Request := do
  let words ← Word.ofTexts texts
  let taken ← Taken.takeAll ⟨none, .standard "", [], false⟩ words
  if taken.help then
    return .help
  let filename ← taken.filename.elim (throw .missingFilename) pure
  if !taken.left.isEmpty then
    throw (.unrecognized taken.left)
  return .execute { taken.options with filename }

end Chip8.CommandLine
