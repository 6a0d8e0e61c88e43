import Chip8.Palette.Collection
import Chip8.Proofs.PaletteText

/-!
# Palettes of a file

A document whose table `frontend` lists palettes by their names yields one palette for each name, in
the order of the list but turned so that the first one of the selected name leads.  Of each palette
the first four colours count, and those that are not given are the ones of the standard palette.  If
the table, the list or a listed palette is taken out of such a document, the file is reported to
lack just this entry.
-/

namespace Chip8

namespace Toml.Table

/-- The table without the entry of a name. -/
def without (name : String) (table : Table) : Table := table.filter fun entry => entry.1 != name

@[simp]
theorem lookup_without_self (name : String) (table : Table) :
    (table.without name).lookup name = none := by
  rw [List.lookup_eq_none_iff]
  intro entry member
  obtain ⟨-, other⟩ := List.mem_filter.mp member
  rwa [bne_comm] at other

theorem lookup_without_of_ne {name other : String} (differs : other ≠ name) (table : Table) :
    (table.without name).lookup other = table.lookup other := by
  induction table with
  | nil => rfl
  | cons entry rest induction =>
      rw [without, List.filter_cons]
      split
      · rw [List.lookup_cons, List.lookup_cons]
        split
        · rfl
        · exact induction
      · next dropped =>
          have same : entry.1 = name := by simpa using dropped
          have passed : (other == entry.1) = false := by simpa [same] using differs
          rw [List.lookup_cons, passed]
          exact induction

theorem lookup_put {name : String} {old : Value} {table : Table}
    (found : table.lookup name = some old) (value : Value) :
    (table.put name value).lookup name = some value := by
  induction table with
  | nil => cases found
  | cons entry rest induction =>
      rw [put, List.map_cons]
      by_cases same : entry.1 = name
      · rw [if_pos same, List.lookup_cons, beq_self_eq_true]
      · have passed : (name == entry.1) = false := beq_eq_false_iff_ne.mpr (Ne.symm same)
        rw [List.lookup_cons, passed] at found
        rw [if_neg same, List.lookup_cons, passed]
        exact induction found

end Toml.Table

namespace Palette

section Attempt

variable {α β ε : Type}

@[simp]
theorem ok_bind (answer : α) (next : α → Except ε β) : (Except.ok answer >>= next) = next answer :=
  rfl

@[simp]
theorem error_bind (error : ε) (next : α → Except ε β) :
    (Except.error error >>= next) = Except.error error :=
  rfl

theorem bind_eq_ok_iff {first : Except ε α} {next : α → Except ε β} {result : β} :
    first >>= next = .ok result ↔ ∃ answer, first = .ok answer ∧ next answer = .ok result := by
  cases first <;> simp

theorem bind_eq_error_iff {first : Except ε α} {next : α → Except ε β} {error : ε} :
    first >>= next = .error error ↔
      first = .error error ∨ ∃ answer, first = .ok answer ∧ next answer = .error error := by
  cases first <;> simp

/-- Reading a list stops at the first entry that cannot be read. -/
theorem mapM_eq_error_iff {read : α → Except ε β} {entries : List α} {error : ε} :
    entries.mapM read = .error error ↔
      ∃ before entry after, entries = before ++ entry :: after ∧
        (∀ earlier ∈ before, ∃ answer, read earlier = .ok answer) ∧ read entry = .error error := by
  induction entries with
  | nil => simp [List.mapM_nil, pure, Except.pure]
  | cons first rest induction =>
      have collected : ∀ answer, (rest.mapM read >>= fun answers => pure (answer :: answers)) =
          Except.error error ↔ rest.mapM read = .error error := by
        intro answer
        rw [bind_eq_error_iff]
        exact or_iff_left fun ⟨_, _, failed⟩ => nomatch failed
      rw [List.mapM_cons, bind_eq_error_iff]
      simp only [collected, induction]
      constructor
      · rintro (failed | ⟨answer, found, before, entry, after, rfl, readable, failed⟩)
        · exact ⟨[], first, rest, rfl, List.forall_mem_nil _, failed⟩
        · exact ⟨first :: before, entry, after, rfl,
            List.forall_mem_cons.mpr ⟨⟨answer, found⟩, readable⟩, failed⟩
      · rintro ⟨_ | ⟨earlier, before⟩, entry, after, split, readable, failed⟩
        · obtain ⟨rfl, rfl⟩ := List.cons.inj split
          exact Or.inl failed
        · obtain ⟨rfl, rfl⟩ := List.cons.inj split
          obtain ⟨⟨answer, found⟩, readable⟩ := List.forall_mem_cons.mp readable
          exact Or.inr ⟨answer, found, before, entry, after, rfl, readable, failed⟩

end Attempt

namespace Collection

open Toml (Value Table)

variable {read : String → Except Toml.Error Table} {content : Option ByteArray}
  {root frontend table : Table} {name : String} {value : Value}

/-! ## Documents and their entries -/

/-- The file is text that is read as the document. -/
def Yields (read : String → Except Toml.Error Table) (content : Option ByteArray) (root : Table) :
    Prop :=
  ∃ bytes text, content = some bytes ∧ String.fromUTF8? bytes = some text ∧ read text = .ok root

theorem load_of_yields (yields : Yields read content root) : load read content = ofTable root := by
  obtain ⟨bytes, text, rfl, decoded, parsed⟩ := yields
  rw [load, Option.elim_some, ok_bind, decoded, Option.elim_some, ok_bind, parsed]
  rfl

theorem entry_of_lookup (found : table.lookup name = some value) :
    entry table name = .ok value := by
  rw [entry, found]
  rfl

theorem entry_of_missing (missing : table.lookup name = none) :
    entry table name = .error (.missingEntry (Text.Quoted.quote name)) := by
  rw [entry, missing]
  rfl

theorem ofTable_of_table (found : root.lookup "frontend" = some (.table frontend)) :
    ofTable root = ofFrontend frontend := by
  rw [ofTable, entry_of_lookup found, ok_bind]

/-- The names, their parts, the palette of each part, and the selected one of these palettes. -/
theorem ofFrontend_eq (frontend : Table) : ofFrontend frontend =
    entry frontend "palettes_available" >>= fun names => parts names >>= fun items =>
      items.mapM (paletteNamed frontend) >>= fun palettes =>
        if palettes = [] then .error .noPalettes
        else (place? names (frontend.lookup "palette")).map (rotate palettes) := by
  rw [ofFrontend]
  congr 1
  funext names
  congr 1
  funext items
  congr 1
  funext palettes
  cases palettes with
  | nil => rfl
  | cons => rfl

theorem ofFrontend_of_palettes {names : Value} {items : List Value} {palettes : List Palette}
    (listed : frontend.lookup "palettes_available" = some names) (parted : parts names = .ok items)
    (read : items.mapM (paletteNamed frontend) = .ok palettes) (nonempty : palettes ≠ []) :
    ofFrontend frontend =
      (place? names (frontend.lookup "palette")).map (rotate palettes) := by
  rw [ofFrontend_eq, entry_of_lookup listed, ok_bind, parted, ok_bind, read, ok_bind,
    if_neg nonempty]

theorem ofFrontend_of_unlisted (missing : frontend.lookup "palettes_available" = none) :
    ofFrontend frontend = .error (.missingEntry (Text.Quoted.quote "palettes_available")) := by
  rw [ofFrontend, entry_of_missing missing, error_bind]

/-! ## Listed palettes -/

/-- A colour as a document holds it: digits behind a number sign. -/
def coloured (group : List Char) : Value := .text (String.ofList ('#' :: group))

/-- The table lists names, and each of them names colours of six hexadecimal digits. -/
structure Lists (frontend : Table) (names : List String) (groups : String → List (List Char)) :
    Prop where
  /-- The list. -/
  listed : frontend.lookup "palettes_available" = some (.array (names.map .text))
  /-- There is a name. -/
  nonempty : names ≠ []
  /-- What each name names. -/
  named : ∀ name ∈ names, frontend.lookup name = some (.array ((groups name).map coloured))
  /-- There is a colour. -/
  some_colours : ∀ name ∈ names, groups name ≠ []
  /-- The length of each colour. -/
  six : ∀ name ∈ names, ∀ group ∈ groups name, group.length = 6
  /-- The characters of each colour. -/
  digits : ∀ name ∈ names, ∀ group ∈ groups name, ∀ c ∈ group, c ∈ hexDigits

/-- The number sign is taken away from digits. -/
theorem colourText_coloured {group : List Char} (digits : ∀ c ∈ group, c ∈ hexDigits) :
    colourText (coloured group) = .ok group := by
  rw [coloured, colourText, String.toList_ofList, List.dropWhile_cons_of_pos rfl]
  cases group with
  | nil => rfl
  | cons c rest =>
      have plain : (c == '#') = false := by
        rw [beq_eq_false_iff_ne]
        rintro rfl
        exact absurd (digits '#' List.mem_cons_self) (by decide)
      rw [List.dropWhile_cons_of_neg (by simp [plain])]

theorem firstFour_array (items : List Value) : firstFour (.array items) = .ok (items.take 4) :=
  rfl

/-- The first four colours make the palette. -/
theorem exists_paletteOf_coloured {groups : List (List Char)} (nonempty : groups ≠ [])
    (six : ∀ group ∈ groups, group.length = 6)
    (digits : ∀ group ∈ groups, ∀ c ∈ group, c ∈ hexDigits) :
    ∃ palette, paletteOf (.array (groups.map coloured)) = .ok palette ∧
      palette.toList = (groups.take 4).map (fun group => (Palette.value group : Int)) ++
        basis.toList.drop (groups.take 4).length := by
  have proper : Proper ([','].intercalate (groups.take 4)) (groups.take 4) :=
    { text := rfl
      nonempty := by simpa using nonempty
      few := List.length_take_le 4 groups
      six := fun group member => six group (List.mem_of_mem_take member)
      digits := fun group member => digits group (List.mem_of_mem_take member) }
  have texts : ((groups.take 4).map coloured).mapM colourText = .ok (groups.take 4) := by
    rw [mapM_eq_ok_iff, List.forall₂_map_left_iff, List.forall₂_same]
    exact fun group member => colourText_coloured (proper.digits group member)
  obtain ⟨palette, read, colours⟩ := proper.exists_parse
  refine ⟨palette, ?_, colours⟩
  rw [paletteOf, firstFour_array, ok_bind, ← List.map_take, texts, ok_bind, read]
  rfl

theorem paletteNamed_of_lookup (found : table.lookup name = some value) :
    paletteNamed table (.text name) = paletteOf value := by
  rw [paletteNamed, entryOf, entry_of_lookup found, ok_bind]

theorem paletteNamed_of_missing (missing : table.lookup name = none) :
    paletteNamed table (.text name) = .error (.missingEntry (Text.Quoted.quote name)) := by
  rw [paletteNamed, entryOf, entry_of_missing missing, error_bind]

/-! ## The selected palette -/

@[simp]
theorem length_rotate {α : Type} (items : List α) (place : Option Nat) :
    (rotate items place).length = items.length := by
  cases place with
  | none => rfl
  | some place =>
      rw [rotate, List.length_append, List.length_drop, List.length_take]
      omega

/-- The place of the first name that is selected. -/
theorem place?_eq_some {names : List String} {selected : Option String} {j : Nat}
    (inside : j < names.length) (first : names[j]? = selected)
    (others : ∀ i < j, names[i]? ≠ selected) :
    place? (.array (names.map .text)) (selected.map .text) = .ok (some j) := by
  obtain ⟨name, rfl⟩ : ∃ name, selected = some name := ⟨names[j], by simp [← first, inside]⟩
  rw [Option.map_some, place?, List.findIdx?_map]
  refine congrArg _ (List.findIdx?_eq_some_iff_getElem.mpr ⟨inside, ?_, ?_⟩)
  · simpa [isText, List.getElem?_eq_getElem inside] using first
  · intro i before
    have within : i < names.length := before.trans inside
    simpa [isText, List.getElem?_eq_getElem within] using others i before

theorem place?_eq_none {names : List String} {selected : Option String}
    (unlisted : ∀ name ∈ names, selected ≠ some name) :
    place? (.array (names.map .text)) (selected.map .text) = .ok none := by
  rcases selected with _ | name
  · rfl
  · rw [Option.map_some, place?, List.findIdx?_map]
    refine congrArg _ (List.findIdx?_eq_none_iff.mpr fun other member => ?_)
    exact beq_eq_false_iff_ne.mpr fun same => unlisted other member (congrArg some same.symm)

/-- A selected name either is not listed or has a first place in the list. -/
theorem exists_first {names : List String} {selected : Option String}
    (listed : ¬ ∀ name ∈ names, selected ≠ some name) :
    ∃ j < names.length, names[j]? = selected ∧ ∀ i < j, names[i]? ≠ selected := by
  push Not at listed
  obtain ⟨name, member, rfl⟩ := listed
  obtain ⟨before, after, split, new⟩ := List.eq_append_cons_of_mem member
  refine ⟨before.length, by simp [split], by simp [split], fun i earlier same => new ?_⟩
  rw [split, List.getElem?_append_left earlier] at same
  exact List.mem_of_getElem? same

/-- The file is reported to lack an entry. -/
def Lacks (name : String) (result : Except Error (List Palette)) : Prop :=
  ∃ error, result = .error error ∧ error.isReported ∧
    error.message = "Palette file has no " ++ Text.Quoted.quote name ++ " entry."

theorem lacks_missingEntry (name : String) :
    Lacks name (.error (.missingEntry (Text.Quoted.quote name))) :=
  ⟨_, rfl, rfl, rfl⟩

namespace Lists

variable {names : List String} {groups : String → List (List Char)}

/-- Each listed name has its palette. -/
theorem exists_palettes (lists : Lists frontend names groups) :
    ∃ palette : String → Palette,
      (∀ name ∈ names, (palette name).toList =
        ((groups name).take 4).map (fun group => (Palette.value group : Int)) ++
          basis.toList.drop ((groups name).take 4).length) ∧
      ∀ name ∈ names, paletteNamed frontend (.text name) = .ok (palette name) := by
  have each : ∀ name ∈ names, ∃ palette : Palette, palette.toList =
      ((groups name).take 4).map (fun group => (Palette.value group : Int)) ++
        basis.toList.drop ((groups name).take 4).length ∧
      paletteNamed frontend (.text name) = .ok palette := by
    intro name member
    obtain ⟨palette, read, colours⟩ := exists_paletteOf_coloured
      (lists.some_colours name member) (lists.six name member) (lists.digits name member)
    exact ⟨palette, colours, (paletteNamed_of_lookup (lists.named name member)).trans read⟩
  choose! palette colours read using each
  exact ⟨palette, colours, read⟩

/-- Without an entry that a name needs, the first such name stops the reading. -/
theorem lacks_name (lists : Lists frontend names groups) (member : name ∈ names) :
    Lacks name (ofFrontend (frontend.without name)) := by
  by_cases list : "palettes_available" = name
  · subst list
    rw [ofFrontend_of_unlisted (Table.lookup_without_self _ _)]
    exact lacks_missingEntry _
  · obtain ⟨palette, -, read⟩ := lists.exists_palettes
    obtain ⟨before, after, split, new⟩ := List.eq_append_cons_of_mem member
    have kept : (frontend.without name).lookup "palettes_available" =
        some (.array (names.map .text)) := by
      rw [Toml.Table.lookup_without_of_ne list, lists.listed]
    have failed : (names.map Value.text).mapM (paletteNamed (frontend.without name)) =
        .error (.missingEntry (Text.Quoted.quote name)) := by
      rw [mapM_eq_error_iff, split, List.map_append, List.map_cons]
      refine ⟨_, _, _, rfl, ?_, paletteNamed_of_missing (Toml.Table.lookup_without_self _ _)⟩
      intro earlier place
      obtain ⟨other, first, rfl⟩ := List.mem_map.mp place
      have differs : other ≠ name := fun same => new (same ▸ first)
      have listed : other ∈ names := split ▸ List.mem_append_left _ first
      rw [paletteNamed_of_lookup ((Toml.Table.lookup_without_of_ne differs _).trans
        (lists.named other listed)), ← paletteNamed_of_lookup (lists.named other listed)]
      exact ⟨_, read other listed⟩
    rw [ofFrontend, entry_of_lookup kept, ok_bind, parts, ok_bind, failed, error_bind]
    exact lacks_missingEntry name

end Lists

/-- A file that lists palettes in digits yields them in order, but turned to the first one of the
selected name if there is one.  The first four colours of each count, and those of the standard
palette come after them.  A file that lacks the table, its list or a listed palette is reported to
do so. -/
theorem palettes_rotated (read : String → Except Toml.Error Table) {names : List String}
    {groups : String → List (List Char)} {selected : Option String}
    (found : root.lookup "frontend" = some (.table frontend)) (lists : Lists frontend names groups)
    (chosen : frontend.lookup "palette" = selected.map .text) :
    (∀ content, Yields read content root →
      ∃ (palettes : List Palette) (palette : String → Palette),
        load read content = .ok palettes ∧ palettes.length = names.length ∧
        (∀ name ∈ names, (palette name).toList =
          ((groups name).take 4).map (fun group => (Palette.value group : Int)) ++
            basis.toList.drop ((groups name).take 4).length) ∧
        (∀ j < names.length, names[j]? = selected → (∀ i < j, names[i]? ≠ selected) →
          palettes = (names.drop j ++ names.take j).map palette) ∧
        ((∀ name ∈ names, selected ≠ some name) → palettes = names.map palette)) ∧
    (∀ content, Yields read content (root.without "frontend") →
      Lacks "frontend" (load read content)) ∧
    (∀ name, name = "palettes_available" ∨ name ∈ names →
      ∀ content, Yields read content (root.put "frontend" (.table (frontend.without name))) →
        Lacks name (load read content)) := by
  refine ⟨fun content yields => ?_, fun content yields => ?_, fun name needed content yields => ?_⟩
  · obtain ⟨palette, colours, each⟩ := lists.exists_palettes
    have palettes_read : (names.map Value.text).mapM (paletteNamed frontend) =
        .ok (names.map palette) := by
      rw [mapM_eq_ok_iff, List.forall₂_map_left_iff, List.forall₂_map_right_iff,
        List.forall₂_same]
      exact each
    have nonempty : names.map palette ≠ [] := by simpa using lists.nonempty
    have result : load read content =
        (place? (.array (names.map .text)) (selected.map .text)).map
          (rotate (names.map palette)) := by
      rw [load_of_yields yields, ofTable_of_table found,
        ofFrontend_of_palettes lists.listed rfl palettes_read nonempty, chosen]
    by_cases unlisted : ∀ name ∈ names, selected ≠ some name
    · rw [place?_eq_none unlisted] at result
      refine ⟨_, palette, result, List.length_map _, colours, fun j inside here => ?_, fun _ => rfl⟩
      exact absurd (here.symm.trans (List.getElem?_eq_getElem inside))
        (unlisted _ (List.getElem_mem inside))
    · obtain ⟨place, within, first, new⟩ := exists_first unlisted
      have turned := place?_eq_some within first new
      rw [turned] at result
      refine ⟨_, palette, result, ?_, colours, fun j inside here others => ?_,
        fun absent => absurd absent unlisted⟩
      · rw [length_rotate, List.length_map]
      · obtain rfl : place = j :=
          Option.some.inj (Except.ok.inj (turned.symm.trans (place?_eq_some inside here others)))
        rw [rotate, ← List.map_drop, ← List.map_take, ← List.map_append]
  · rw [load_of_yields yields, ofTable, entry_of_missing (Toml.Table.lookup_without_self _ _),
      error_bind]
    exact lacks_missingEntry "frontend"
  · rw [load_of_yields yields, ofTable_of_table (Toml.Table.lookup_put found _)]
    rcases needed with rfl | member
    · rw [ofFrontend_of_unlisted (Toml.Table.lookup_without_self _ _)]
      exact lacks_missingEntry _
    · exact lists.lacks_name member

theorem fromUTF8?_toUTF8 (text : String) : String.fromUTF8? text.toUTF8 = some text := by
  have valid : text.toUTF8.IsValidUTF8 := text.isValidUTF8
  rw [String.fromUTF8?, dif_pos valid]
  rfl

/-- Two palettes, the first of them listed twice and the second one selected. -/
theorem palettes_rotated_to_second :
    let text := "[frontend]\npalettes_available = [\"mono\", \"amber\", \"mono\"]\n" ++
      "palette = \"amber\"\nmono = [\"#000000\"]\nscale = 1.5\n" ++
      "amber = [\"#1D1D3B\", \"#F5A623\", \"#4A90E2\", \"#D0021B\", \"#123456\"]\n"
    let names := ["mono", "amber", "mono"]
    let mono := ["000000".toList]
    let amber := ["1D1D3B".toList, "F5A623".toList, "4A90E2".toList, "D0021B".toList,
      "123456".toList]
    let frontend : Table := [("palettes_available", .array (names.map .text)),
      ("palette", .text "amber"), ("mono", .array (mono.map coloured)), ("scale", .other "1.5"),
      ("amber", .array (amber.map coloured))]
    let groups := fun name => if name = "amber" then amber else mono
    Lists frontend names groups ∧ frontend.lookup "palette" = some (.text "amber") ∧
      ∃ palettes,
        load (fun _ => .ok [("frontend", .table frontend)]) (some text.toUTF8) = .ok palettes ∧
        palettes.map Vector.toList = [[0x1D1D3B, 0xF5A623, 0x4A90E2, 0xD0021B],
          [0, 0xDDDDDD, 0x00DD88, 0xDD5555], [0, 0xDDDDDD, 0x00DD88, 0xDD5555]] := by
  intro text names mono amber frontend groups
  have proper : ∀ colours ∈ [amber, mono], colours ≠ [] ∧
      ∀ group ∈ colours, group.length = 6 ∧ ∀ c ∈ group, c ∈ hexDigits := by
    simp [amber, mono, hexDigits]
  have each (name : String) : groups name ∈ [amber, mono] := by
    simp only [groups]
    split
    · exact List.mem_cons_self
    · exact List.mem_cons_of_mem _ List.mem_cons_self
  have lists : Lists frontend names groups :=
    { listed := rfl
      nonempty := List.cons_ne_nil _ _
      named := by
        simp only [names, List.forall_mem_cons]
        exact ⟨rfl, rfl, rfl, List.forall_mem_nil _⟩
      some_colours := fun name _ => (proper _ (each name)).1
      six := fun name _ group member => ((proper _ (each name)).2 group member).1
      digits := fun name _ group member => ((proper _ (each name)).2 group member).2 }
  have chosen : frontend.lookup "palette" = (some "amber").map Value.text := rfl
  have found : ([("frontend", .table frontend)] : Table).lookup "frontend" =
      some (.table frontend) := rfl
  obtain ⟨palettes, palette, loaded, -, colours, turned, -⟩ :=
    (palettes_rotated (fun _ => .ok [("frontend", .table frontend)]) found lists chosen).1
      (some text.toUTF8) ⟨_, text, rfl, fromUTF8?_toUTF8 text, rfl⟩
  refine ⟨lists, rfl, palettes, loaded, ?_⟩
  have first : palettes = ["amber", "mono", "mono"].map palette := by
    refine turned 1 (by decide) rfl fun i before => ?_
    obtain rfl : i = 0 := Nat.lt_one_iff.mp before
    decide
  rw [first, List.map_map]
  simp only [List.map_cons, List.map_nil, Function.comp_apply]
  rw [colours "amber" (by decide), colours "mono" (by decide)]
  decide +kernel

end Collection

end Palette

end Chip8
