import Chip8.Proofs.PaletteFile

/-!
# Misused values in palette files

The entries of a document may have any type.  A value that is used in a way that its type does not
allow ends the reading with an error that is not reported as one of the palette file, unless an
earlier entry has ended it before.  So does a file that is not UTF-8 text, or whose numbers or
nesting go beyond what can be read.  Every other file yields palettes or is reported, be it missing,
no document, or a document that lacks entries or has bad colours.
-/

namespace Chip8.Palette.Collection

open Toml (Value Table)

/-! ## Errors that are not reported -/

/-- It ends in an error that is not reported as one of the palette file. -/
def Strays {α : Type} (result : Except Error α) : Prop :=
  ∃ error, result = .error error ∧ error.isReported = false

section Attempt

variable {α β : Type}

@[simp]
theorem not_strays_ok (answer : α) : ¬ Strays (.ok answer) := nofun

@[simp]
theorem strays_error_iff {error : Error} :
    Strays (.error error : Except Error α) ↔ error.isReported = false := by
  simp [Strays]

theorem strays_bind_iff {first : Except Error α} {next : α → Except Error β} :
    Strays (first >>= next) ↔
      Strays first ∨ ∃ answer, first = .ok answer ∧ Strays (next answer) := by
  cases first <;> simp

theorem strays_map_iff {result : Except Error α} {f : α → β} :
    Strays (result.map f) ↔ Strays result := by
  cases result <;> simp [Except.map]

theorem strays_mapM_iff {read : α → Except Error β} {entries : List α} :
    Strays (entries.mapM read) ↔
      ∃ before entry after, entries = before ++ entry :: after ∧
        (∀ earlier ∈ before, ∃ answer, read earlier = .ok answer) ∧ Strays (read entry) := by
  constructor
  · rintro ⟨error, failed, unreported⟩
    obtain ⟨before, entry, after, split, readable, failed⟩ := mapM_eq_error_iff.mp failed
    exact ⟨before, entry, after, split, readable, error, failed, unreported⟩
  · rintro ⟨before, entry, after, split, readable, error, failed, unreported⟩
    exact ⟨error, mapM_eq_error_iff.mpr ⟨before, entry, after, split, readable, failed⟩, unreported⟩

/-- Where no error is reported, any entry with an error counts. -/
theorem strays_mapM_iff_exists {read : α → Except Error β} {entries : List α}
    (unreported : ∀ entry, (∃ answer, read entry = .ok answer) ∨ Strays (read entry)) :
    Strays (entries.mapM read) ↔ ∃ entry ∈ entries, Strays (read entry) := by
  rw [strays_mapM_iff]
  constructor
  · rintro ⟨before, entry, after, rfl, -, strays⟩
    exact ⟨entry, List.mem_append_right _ List.mem_cons_self, strays⟩
  · rintro ⟨entry, member, strays⟩
    induction entries with
    | nil => cases member
    | cons first rest induction =>
        rcases unreported first with ⟨answer, found⟩ | failed
        · rcases List.mem_cons.mp member with rfl | later
          · rw [found] at strays
            exact absurd strays (not_strays_ok answer)
          · obtain ⟨before, entry, after, rfl, readable, strays⟩ := induction later
            exact ⟨first :: before, entry, after, rfl,
              List.forall_mem_cons.mpr ⟨⟨answer, found⟩, readable⟩, strays⟩
        · exact ⟨[], first, rest, rfl, List.forall_mem_nil _, failed⟩

end Attempt

/-! ## Misuse -/

/-- The value has no parts. -/
def IsAtom : Value → Prop
  | .integer _ | .boolean _ | .other _ => True
  | .text _ | .array _ | .table _ => False

/-- The value has no first four parts, or one of these is no string. -/
def MisusedColours : Value → Prop
  | .text _ => False
  | .array colours => ∃ colour ∈ colours.take 4, ∀ content, colour ≠ .text content
  | .integer _ | .boolean _ | .other _ | .table _ => True

/-- The value cannot be looked up as a name, or what it names is misused. -/
def MisusedName (frontend : Table) : Value → Prop
  | .text name => ∃ value, frontend.lookup name = some value ∧ MisusedColours value
  | .integer number => Text.Numeral.decimal.isTooLong number
  | .boolean _ | .other _ => False
  | .array _ | .table _ => True

/-- The selected name cannot be searched for among the names. -/
def MisusedSelection : Value → Option Value → Prop
  | .text _, selected => ∀ name, selected ≠ some (.text name)
  | .table entries, some (.text name) => (entries.lookup name).isSome
  | .table _, some (.array _) | .table _, some (.table _) => True
  | _, _ => False

/-- A value of the document is misused before anything else ends the reading. -/
inductive Misused (root : Table) : Prop where
  /-- The entry `frontend` is no table. -/
  | frontend {value : Value} (found : root.lookup "frontend" = some value)
      (other : ∀ frontend, value ≠ .table frontend)
  /-- The names do not form a list. -/
  | names {frontend : Table} {names : Value}
      (found : root.lookup "frontend" = some (.table frontend))
      (listed : frontend.lookup "palettes_available" = some names) (atom : IsAtom names)
  /-- A listed name is misused, and the palettes before it are fine. -/
  | name {frontend : Table} {names name : Value} {before after : List Value}
      (found : root.lookup "frontend" = some (.table frontend))
      (listed : frontend.lookup "palettes_available" = some names)
      (parted : parts names = .ok (before ++ name :: after))
      (readable : ∀ earlier ∈ before, ∃ palette, paletteNamed frontend earlier = .ok palette)
      (misused : MisusedName frontend name)
  /-- The selected name is misused, and all palettes are fine. -/
  | selection {frontend : Table} {names : Value} {items : List Value}
      (found : root.lookup "frontend" = some (.table frontend))
      (listed : frontend.lookup "palettes_available" = some names)
      (parted : parts names = .ok items) (nonempty : items ≠ [])
      (readable : ∀ item ∈ items, ∃ palette, paletteNamed frontend item = .ok palette)
      (misused : MisusedSelection names (frontend.lookup "palette"))

/-- The file is no text, cannot be taken in, or holds a document with a misused value. -/
inductive MisusedFile (read : String → Except Toml.Error Table) (content : Option ByteArray) :
    Prop where
  /-- The file is not UTF-8 text. -/
  | notUtf8 {bytes : ByteArray} (given : content = some bytes)
      (undecoded : String.fromUTF8? bytes = none)
  /-- The text has a number that is too long, or is nested too deeply. -/
  | tooMuch {bytes : ByteArray} {text : String} (given : content = some bytes)
      (decoded : String.fromUTF8? bytes = some text)
      (failed : read text = .error .numberTooLong ∨ read text = .error .nestedTooDeeply)
  /-- The document misuses a value. -/
  | document {root : Table} (yields : Yields read content root) (misused : Misused root)

/-- The values that are used have the types that the format has for them, as far as they are
there. -/
structure Typed (root : Table) : Prop where
  /-- The entry `frontend` is a table. -/
  frontend : ∀ value, root.lookup "frontend" = some value → ∃ frontend, value = .table frontend
  /-- The names form a list of strings. -/
  names : ∀ frontend value, root.lookup "frontend" = some (.table frontend) →
    frontend.lookup "palettes_available" = some value →
      ∃ names : List String, value = .array (names.map .text)
  /-- Each listed name names a list of strings. -/
  colours : ∀ frontend (names : List String), root.lookup "frontend" = some (.table frontend) →
    frontend.lookup "palettes_available" = some (.array (names.map .text)) →
      ∀ name ∈ names, ∀ value, frontend.lookup name = some value →
        ∃ colours : List String, value = .array (colours.map .text)

/-- A file that is not there, is no document, or is one whose values have their types. -/
inductive Plain (read : String → Except Toml.Error Table) (content : Option ByteArray) : Prop where
  /-- The file cannot be read. -/
  | missing (absent : content = none)
  /-- The text is no document. -/
  | malformed {bytes : ByteArray} {text : String} (given : content = some bytes)
      (decoded : String.fromUTF8? bytes = some text) (failed : read text = .error .malformed)
  /-- The document has values of the right types, be they well formed or not. -/
  | typed {root : Table} (yields : Yields read content root) (typed : Typed root)

variable {read : String → Except Toml.Error Table} {content : Option ByteArray}
  {root frontend table : Table} {value name : Value}

/-! ## What each use accepts -/

theorem not_strays_entry (table : Table) (name : String) : ¬ Strays (entry table name) := by
  rw [entry]
  cases table.lookup name <;> simp [Error.isReported]

theorem entry_eq_ok_iff {name : String} : entry table name = .ok value ↔
    table.lookup name = some value := by
  rw [entry]
  cases table.lookup name <;> simp

theorem strays_parts_iff : Strays (parts value) ↔ IsAtom value := by
  cases value <;> simp [parts, IsAtom, Error.isReported]

theorem strays_colourText_iff : Strays (colourText value) ↔ ∀ content, value ≠ .text content := by
  cases value <;> simp [colourText, Error.isReported]

theorem not_strays_parse (text : List Char) :
    ¬ Strays ((Palette.parse text).mapError Error.palette) := by
  cases Palette.parse text <;> simp [Except.mapError, Error.isReported]

theorem strays_paletteOf_iff : Strays (paletteOf value) ↔ MisusedColours value := by
  have unreported (colour : Value) :
      (∃ chars, colourText colour = .ok chars) ∨ Strays (colourText colour) := by
    cases colour <;> simp [colourText, Error.isReported]
  simp only [paletteOf, strays_bind_iff, not_strays_parse, and_false, exists_false, or_false,
    strays_mapM_iff_exists unreported, strays_colourText_iff]
  cases value with
  | text content =>
      -- The parts of a string are strings again.
      refine iff_of_false ?_ id
      rintro (failed | ⟨_, ⟨⟩, colour, member, other⟩)
      · exact not_strays_ok _ failed
      · obtain ⟨c, -, rfl⟩ := List.mem_map.mp (List.mem_of_mem_take member)
        exact other _ rfl
  | array colours => simp [firstFour_array, MisusedColours]
  | integer | boolean | other | table =>
      simp [firstFour, parts, Except.map, MisusedColours, Error.isReported]

theorem strays_paletteNamed_iff : Strays (paletteNamed table name) ↔ MisusedName table name := by
  rw [paletteNamed, strays_bind_iff]
  cases name with
  | text name =>
      simp [entryOf, not_strays_entry, entry_eq_ok_iff, strays_paletteOf_iff, MisusedName]
  | integer number =>
      rw [entryOf, MisusedName]
      split <;> simp_all [Error.isReported]
  | boolean | other | array | table => simp [entryOf, MisusedName, Error.isReported]

theorem strays_place?_iff {names : Value} {selected : Option Value} :
    Strays (place? names selected) ↔ MisusedSelection names selected := by
  rcases selected with _ | selected
  · cases names <;> simp [place?, MisusedSelection, Error.isReported]
  · cases names with
    | table entries =>
        cases selected with
        | text name =>
            rw [place?, MisusedSelection]
            split <;> simp_all [Error.isReported]
        | integer | boolean | other | array | table =>
            simp [place?, MisusedSelection, Error.isReported]
    | text | integer | boolean | other | array =>
        cases selected <;> simp [place?, MisusedSelection, Error.isReported]

/-! ## Documents and files -/

/-- Reading succeeds with all names if it does so with each. -/
theorem exists_mapM_eq_ok_iff {α β ε : Type} {read : α → Except ε β} {entries : List α} :
    (∃ answers, entries.mapM read = .ok answers) ↔
      ∀ entry ∈ entries, ∃ answer, read entry = .ok answer := by
  simp only [mapM_eq_ok_iff, exists_forall₂_iff]

theorem eq_nil_iff_of_mapM_eq_ok {α β ε : Type} {read : α → Except ε β} {entries : List α}
    {answers : List β} (found : entries.mapM read = .ok answers) : answers = [] ↔ entries = [] := by
  rw [← List.length_eq_zero_iff, ← List.length_eq_zero_iff, (mapM_eq_ok_iff.mp found).length_eq]

theorem strays_ofFrontend_iff : Strays (ofFrontend frontend) ↔
    ∃ names, frontend.lookup "palettes_available" = some names ∧
      (IsAtom names ∨ ∃ items, parts names = .ok items ∧
        ((∃ before name after, items = before ++ name :: after ∧
          (∀ earlier ∈ before, ∃ palette, paletteNamed frontend earlier = .ok palette) ∧
          MisusedName frontend name) ∨
        (∀ item ∈ items, ∃ palette, paletteNamed frontend item = .ok palette) ∧ items ≠ [] ∧
          MisusedSelection names (frontend.lookup "palette"))) := by
  have selection (names : Value) (items : List Value) :
      (∃ palettes, items.mapM (paletteNamed frontend) = .ok palettes ∧
        Strays (if palettes = [] then .error .noPalettes
          else (place? names (frontend.lookup "palette")).map (rotate palettes))) ↔
      (∀ item ∈ items, ∃ palette, paletteNamed frontend item = .ok palette) ∧ items ≠ [] ∧
        MisusedSelection names (frontend.lookup "palette") := by
    rw [← exists_mapM_eq_ok_iff]
    constructor
    · rintro ⟨palettes, found, strays⟩
      split_ifs at strays with nothing
      · simp [Error.isReported] at strays
      · rw [strays_map_iff, strays_place?_iff] at strays
        exact ⟨⟨palettes, found⟩, mt (eq_nil_iff_of_mapM_eq_ok found).mpr nothing, strays⟩
    · rintro ⟨⟨palettes, found⟩, nonempty, misused⟩
      refine ⟨palettes, found, ?_⟩
      rw [if_neg (mt (eq_nil_iff_of_mapM_eq_ok found).mp nonempty), strays_map_iff,
        strays_place?_iff]
      exact misused
  simp only [ofFrontend_eq, strays_bind_iff, not_strays_entry, false_or, entry_eq_ok_iff,
    strays_parts_iff, strays_mapM_iff, strays_paletteNamed_iff, selection]

/-- Reading a document strays exactly if a value is misused. -/
theorem strays_ofTable_iff : Strays (ofTable root) ↔ Misused root := by
  constructor
  · intro strays
    rw [ofTable, strays_bind_iff] at strays
    obtain ⟨value, found, strays⟩ := strays.resolve_left (not_strays_entry root "frontend")
    rw [entry_eq_ok_iff] at found
    cases value with
    | table frontend =>
        obtain ⟨names, listed, atom | ⟨items, parted, named | chosen⟩⟩ :=
          strays_ofFrontend_iff.mp strays
        · exact .names found listed atom
        · obtain ⟨before, name, after, rfl, readable, misused⟩ := named
          exact .name found listed parted readable misused
        · obtain ⟨readable, nonempty, misused⟩ := chosen
          exact .selection found listed parted nonempty readable misused
    | text | integer | boolean | other | array => exact .frontend found (by simp)
  · intro misused
    cases misused with
    | @frontend value found other =>
        rw [ofTable, entry_of_lookup found, ok_bind]
        cases value with
        | table frontend => exact absurd rfl (other frontend)
        | text | integer | boolean | other | array => exact strays_error_iff.mpr rfl
    | names found listed atom =>
        rw [ofTable_of_table found, strays_ofFrontend_iff]
        exact ⟨_, listed, Or.inl atom⟩
    | name found listed parted readable misused =>
        rw [ofTable_of_table found, strays_ofFrontend_iff]
        exact ⟨_, listed, Or.inr ⟨_, parted, Or.inl ⟨_, _, _, rfl, readable, misused⟩⟩⟩
    | selection found listed parted nonempty readable misused =>
        rw [ofTable_of_table found, strays_ofFrontend_iff]
        exact ⟨_, listed, Or.inr ⟨_, parted, Or.inr ⟨readable, nonempty, misused⟩⟩⟩

theorem ofTable_ne_nil {palettes : List Palette} (found : ofTable root = .ok palettes) :
    palettes ≠ [] := by
  rw [ofTable, bind_eq_ok_iff] at found
  obtain ⟨value, -, found⟩ := found
  cases value with
  | table frontend =>
      change ofFrontend frontend = .ok palettes at found
      simp only [ofFrontend_eq, bind_eq_ok_iff] at found
      obtain ⟨names, -, items, -, given, -, found⟩ := found
      split_ifs at found with nothing
      rcases placed : place? names (frontend.lookup "palette") with error | place
      · rw [placed] at found
        cases found
      · rw [placed] at found
        obtain rfl := Except.ok.inj found
        rw [← List.length_pos_iff, length_rotate, List.length_pos_iff]
        exact nothing
  | text | integer | boolean | other | array => cases found

/-- Reading a file strays exactly if it is misused. -/
theorem strays_load_iff : Strays (load read content) ↔ MisusedFile read content := by
  constructor
  · intro strays
    rcases content with _ | bytes
    · simp [load, Error.isReported] at strays
    · rcases decoded : String.fromUTF8? bytes with _ | text
      · exact .notUtf8 rfl decoded
      · rcases parsed : read text with (_ | _ | _) | root
        · simp [load, decoded, parsed, Except.mapError, ofReadingError, Error.isReported] at strays
        · exact .tooMuch rfl decoded (Or.inl parsed)
        · exact .tooMuch rfl decoded (Or.inr parsed)
        · have yields : Yields read (some bytes) root := ⟨bytes, text, rfl, decoded, parsed⟩
          rw [load_of_yields yields, strays_ofTable_iff] at strays
          exact .document yields strays
  · intro misused
    cases misused with
    | notUtf8 given undecoded => simp [load, given, undecoded, Error.isReported]
    | tooMuch given decoded failed =>
        rcases failed with failed | failed <;>
          simp [load, given, decoded, failed, Except.mapError, ofReadingError, Error.isReported]
    | document yields misused =>
        rw [load_of_yields yields, strays_ofTable_iff]
        exact misused

theorem load_ne_nil {palettes : List Palette} (found : load read content = .ok palettes) :
    palettes ≠ [] := by
  simp only [load, bind_eq_ok_iff] at found
  obtain ⟨_, -, _, -, root, -, found⟩ := found
  exact ofTable_ne_nil found

/-- Where all values have their types, none is misused. -/
theorem Typed.not_misused (typed : Typed root) : ¬ Misused root := by
  intro misused
  cases misused with
  | frontend found other =>
      obtain ⟨frontend, same⟩ := typed.frontend _ found
      exact other frontend same
  | names found listed atom =>
      obtain ⟨names, rfl⟩ := typed.names _ _ found listed
      exact atom
  | @name frontend names name before after found listed parted readable misused =>
      obtain ⟨names, rfl⟩ := typed.names _ _ found listed
      have items := Except.ok.inj parted
      obtain ⟨title, listed_title, rfl⟩ : ∃ title ∈ names, Value.text title = name := by
        rw [← List.mem_map, items]
        simp
      obtain ⟨value, named, colour⟩ := misused
      obtain ⟨colours, rfl⟩ := typed.colours _ _ found listed title listed_title value named
      obtain ⟨colour, member, other⟩ := colour
      obtain ⟨content, -, rfl⟩ := List.mem_map.mp (List.mem_of_mem_take member)
      exact other content rfl
  | selection found listed parted nonempty readable misused =>
      obtain ⟨names, rfl⟩ := typed.names _ _ found listed
      exact misused

theorem Plain.not_misused (plain : Plain read content) : ¬ MisusedFile read content := by
  rw [← strays_load_iff]
  cases plain with
  | missing absent => simp [load, absent, Error.isReported]
  | malformed given decoded failed =>
      simp [load, given, decoded, failed, Except.mapError, ofReadingError, Error.isReported]
  | typed yields typed =>
      rw [load_of_yields yields, strays_ofTable_iff]
      exact typed.not_misused

/-- A file yields palettes, or is reported as a bad one, exactly if it is not misused; so it is with
every file that is missing, is no document, or gives its values the right types. -/
theorem answered_iff (read : String → Except Toml.Error Table) (content : Option ByteArray) :
    (((∃ palettes, load read content = .ok palettes ∧ palettes ≠ [] ∧
          ∀ palette ∈ palettes, palette.toList.length = 4) ∨
        ∃ error, load read content = .error error ∧ error.isReported) ↔
      ¬ MisusedFile read content) ∧
    (Plain read content → ¬ MisusedFile read content) := by
  refine ⟨?_, Plain.not_misused⟩
  rw [← strays_load_iff]
  rcases loaded : load read content with error | palettes
  · simp
  · refine iff_of_true (Or.inl ⟨palettes, rfl, load_ne_nil loaded, fun palette _ => ?_⟩)
      (not_strays_ok palettes)
    exact Vector.length_toList

/-- A short colour and a selection by number are no misuse. -/
theorem answered_iff_with_short_colour :
    let text := "[frontend]\npalettes_available = [\"mono\"]\nmono = [\"#12345\"]\npalette = 3\n"
    let frontend : Table := [("palettes_available", .array (["mono"].map .text)),
      ("mono", .array (["#12345"].map .text)), ("palette", .integer 3)]
    let read := fun _ => .ok [("frontend", .table frontend)]
    Plain read (some text.toUTF8) ∧ ¬ MisusedFile read (some text.toUTF8) := by
  intro text frontend read
  have typed : Typed [("frontend", .table frontend)] :=
    { frontend := fun value found => ⟨frontend, (Option.some.inj found).symm⟩
      names := by
        rintro _ value ⟨⟩ listed
        exact ⟨["mono"], (Option.some.inj listed).symm⟩
      colours := by
        rintro _ names ⟨⟩ listed name member value found
        obtain rfl : names = ["mono"] := by simpa [frontend, eq_comm] using listed
        obtain rfl := List.mem_singleton.mp member
        exact ⟨["#12345"], (Option.some.inj found).symm⟩ }
  have plain : Plain read (some text.toUTF8) :=
    .typed ⟨_, text, rfl, fromUTF8?_toUTF8 text, rfl⟩ typed
  exact ⟨plain, (answered_iff read (some text.toUTF8)).2 plain⟩

/-- A number where the table should be ends the reading with an error that is not reported. -/
theorem number_for_table_strays :
    ofFile (some "frontend = 3".toUTF8) = .error .wrongType ∧
      Error.wrongType.isReported = false := by
  have parsed : (Toml.parse "frontend = 3").mapError ofReadingError >>= ofTable =
      .error .wrongType := by decide +kernel
  refine ⟨?_, rfl⟩
  rw [ofFile, load, Option.elim_some, ok_bind, fromUTF8?_toUTF8, Option.elim_some, ok_bind]
  exact parsed

end Chip8.Palette.Collection
