import Chip8.Proofs.Numeral
import Chip8.Proofs.Painting

/-!
# Palettes and their texts

One to four groups of six hexadecimal digits are a palette, and its colours can be painted with.  A
palette that is written so is read back, whatever the case of the digits.  Other groups of six
characters are read as well if they spell a number in the wider sense of numerals, and such a number
may be negative, a colour that nothing can be painted with.
-/

namespace Chip8.Palette

/-! ## Palettes that are read -/

/-- Six characters that spell a colour. -/
def Spelled (group : List Char) (colour : Int) : Prop :=
  group.length = 6 ∧ Text.Numeral.hexadecimal.parse? group = some colour

theorem colour_eq_ok_iff {group : List Char} {number : Int} :
    colour group = .ok number ↔ Spelled group number := by
  rw [colour, Spelled]
  split
  case isTrue other => exact iff_of_false nofun fun spelled => other spelled.1
  case isFalse six =>
    rw [and_iff_right (not_not.mp six)]
    rcases Text.Numeral.hexadecimal.parse? group with _ | found
    · exact iff_of_false nofun nofun
    · exact ⟨fun same => congrArg some (Except.ok.inj same),
        fun same => congrArg Except.ok (Option.some.inj same)⟩

theorem mapM_eq_ok_iff {α β ε : Type} {read : α → Except ε β} {entries : List α}
    {answers : List β} :
    entries.mapM read = .ok answers ↔
      List.Forall₂ (fun entry answer => read entry = .ok answer) entries answers := by
  induction entries generalizing answers with
  | nil =>
      rw [List.mapM_nil, List.forall₂_nil_left_iff]
      exact ⟨fun same => (Except.ok.inj same).symm, fun same => congrArg Except.ok same.symm⟩
  | cons entry rest induction =>
      rw [List.mapM_cons, List.forall₂_cons_left_iff]
      simp only [← induction]
      rcases read entry with error | answer
      · exact iff_of_false nofun fun ⟨_, _, first, _⟩ => nomatch first
      · rcases rest.mapM read with error | others
        · exact iff_of_false nofun fun ⟨_, _, _, later, _⟩ => nomatch later
        · constructor
          · rintro ⟨⟩
            exact ⟨answer, others, rfl, rfl, rfl⟩
          · rintro ⟨_, _, ⟨⟩, ⟨⟩, rfl⟩
            rfl

/-- A text is read as a palette if it has at most four groups and each spells a colour. -/
theorem parse_eq_ok_iff {text : List Char} {palette : Palette} :
    parse text = .ok palette ↔
      ∃ colours, colours.length ≤ 4 ∧ List.Forall₂ Spelled (Text.fields ',' text) colours ∧
        palette = ofColours colours := by
  rw [parse]
  constructor
  · intro read
    split at read
    case isTrue => cases read
    case isFalse few =>
      rcases spelled : (Text.fields ',' text).mapM colour with error | colours
      · rw [spelled] at read
        cases read
      · rw [spelled] at read
        have pairs := mapM_eq_ok_iff.mp spelled
        simp only [colour_eq_ok_iff] at pairs
        exact ⟨colours, pairs.length_eq ▸ Nat.le_of_not_lt few, pairs,
          (Except.ok.inj read).symm⟩
  · rintro ⟨colours, few, pairs, rfl⟩
    have spelled : (Text.fields ',' text).mapM colour = .ok colours := by
      simpa only [mapM_eq_ok_iff, colour_eq_ok_iff] using pairs
    rw [if_neg (Nat.not_lt.mpr (pairs.length_eq.trans_le few)), spelled]
    rfl

theorem exists_forall₂_iff {α β : Type} {reads : α → β → Prop} {entries : List α} :
    (∃ answers, List.Forall₂ reads entries answers) ↔
      ∀ entry ∈ entries, ∃ answer, reads entry answer := by
  induction entries with
  | nil => exact iff_of_true ⟨[], .nil⟩ (List.forall_mem_nil _)
  | cons entry rest induction =>
      rw [List.forall_mem_cons, ← induction]
      constructor
      · rintro ⟨_, _ | ⟨first, others⟩⟩
        exact ⟨⟨_, first⟩, _, others⟩
      · rintro ⟨⟨answer, first⟩, answers, others⟩
        exact ⟨answer :: answers, .cons first others⟩

theorem exists_spelled_iff {groups : List (List Char)} :
    (∃ colours, List.Forall₂ Spelled groups colours) ↔
      ∀ group ∈ groups, ∃ colour, Spelled group colour :=
  exists_forall₂_iff

/-- The colours that are given come first. -/
theorem toList_ofColours {colours : List Int} (few : colours.length ≤ 4) :
    (ofColours colours).toList = colours ++ basis.toList.drop colours.length := by
  match colours, few with
  | [], _ | [_], _ | [_, _], _ | [_, _, _], _ | [_, _, _, _], _ => rfl

/-- Groups that spell colours are read as a palette of these colours. -/
theorem exists_parse_intercalate {groups : List (List Char)} {colours : List Int}
    (nonempty : groups ≠ []) (few : groups.length ≤ 4) (clean : ∀ group ∈ groups, ',' ∉ group)
    (spelled : List.Forall₂ Spelled groups colours) :
    ∃ palette, parse ([','].intercalate groups) = .ok palette ∧
      palette.toList = colours ++ basis.toList.drop colours.length := by
  have few : colours.length ≤ 4 := spelled.length_eq ▸ few
  refine ⟨ofColours colours, parse_eq_ok_iff.mpr ⟨colours, few, ?_, rfl⟩, toList_ofColours few⟩
  rwa [Text.fields_intercalate nonempty clean]

/-! ## Digits alone -/

/-- The hexadecimal digits of either case. -/
def hexDigits : List Char :=
  ['0', '1', '2', '3', '4', '5', '6', '7', '8', '9', 'A', 'B', 'C', 'D', 'E', 'F',
    'a', 'b', 'c', 'd', 'e', 'f']

/-- The value of a hexadecimal digit. -/
def digitValue (c : Char) : Nat :=
  ['0', '1', '2', '3', '4', '5', '6', '7', '8', '9', 'a', 'b', 'c', 'd', 'e', 'f'].idxOf c.toLower

/-- The number that hexadecimal digits spell, most significant first. -/
def value (group : List Char) : Nat :=
  group.foldl (fun value c => value * 16 + digitValue c) 0

/-- A text is one to four groups of six hexadecimal digits with commas between them. -/
structure Proper (text : List Char) (groups : List (List Char)) : Prop where
  /-- The text. -/
  text : text = [','].intercalate groups
  /-- There is a group. -/
  nonempty : groups ≠ []
  /-- There are at most four groups. -/
  few : groups.length ≤ 4
  /-- The length of each group. -/
  six : ∀ group ∈ groups, group.length = 6
  /-- The characters of each group. -/
  digits : ∀ group ∈ groups, ∀ c ∈ group, c ∈ hexDigits

theorem isAlphanum_of_mem_hexDigits {c : Char} (member : c ∈ hexDigits) : c.isAlphanum := by
  have each : hexDigits.all Char.isAlphanum := by decide
  exact List.all_eq_true.mp each c member

theorem digit?_of_mem_hexDigits {c : Char} (member : c ∈ hexDigits) :
    Text.Numeral.hexadecimal.digit? c = some (digitValue c) := by
  have each : hexDigits.all fun c =>
      Text.Numeral.hexadecimal.digit? c == some (digitValue c) := by decide
  exact eq_of_beq (List.all_eq_true.mp each c member)

theorem spelled_of_digits {group : List Char} (six : group.length = 6)
    (digits : ∀ c ∈ group, c ∈ hexDigits) : Spelled group (value group) := by
  have spells : Text.Numeral.hexadecimal.Spells group (group.map digitValue) :=
    List.forall₂_map_right_iff.mpr
      (List.forall₂_same.mpr fun c member => digit?_of_mem_hexDigits (digits c member))
  have value_eq : Text.Numeral.hexadecimal.valueOf (group.map digitValue) = value group :=
    List.foldl_map
  have nonempty : group ≠ [] := List.ne_nil_of_length_pos (six ▸ Nat.zero_lt_succ 5)
  refine ⟨six, ?_⟩
  rw [← value_eq]
  exact Text.Numeral.parse?_of_spells spells nonempty
    (fun c member => isAlphanum_of_mem_hexDigits (digits c member)) le_rfl nofun

theorem comma_notMem_of_digits {group : List Char} (digits : ∀ c ∈ group, c ∈ hexDigits) :
    ',' ∉ group :=
  fun member => absurd (digits ',' member) (by decide)

namespace Proper

variable {text : List Char} {groups : List (List Char)}

theorem spelled (proper : Proper text groups) :
    List.Forall₂ Spelled groups (groups.map fun group => (value group : Int)) :=
  List.forall₂_map_right_iff.mpr (List.forall₂_same.mpr fun group member =>
    spelled_of_digits (proper.six group member) (proper.digits group member))

theorem exists_parse (proper : Proper text groups) :
    ∃ palette, parse text = .ok palette ∧
      palette.toList =
        groups.map (fun group => (value group : Int)) ++ basis.toList.drop groups.length := by
  have read := exists_parse_intercalate proper.nonempty proper.few
    (fun group member => comma_notMem_of_digits (proper.digits group member)) proper.spelled
  rwa [List.length_map, ← proper.text] at read

/-- Digits and commas are read as a palette only if there are the right number of both. -/
theorem of_parse {palette : Palette} (plain : ∀ c ∈ text, c = ',' ∨ c ∈ hexDigits)
    (read : parse text = .ok palette) : Proper text (Text.fields ',' text) := by
  obtain ⟨colours, few, spelled, -⟩ := parse_eq_ok_iff.mp read
  exact
    { text := (Text.intercalate_fields ',' text).symm
      nonempty := Text.fields_ne_nil ',' text
      few := spelled.length_eq ▸ few
      six := fun group member => by
        obtain ⟨colour, six, -⟩ := exists_spelled_iff.mp ⟨colours, spelled⟩ group member
        exact six
      digits := fun group member c inside => by
        obtain ⟨within, other⟩ := Text.of_mem_fields member inside
        exact (plain c within).resolve_left other }

end Proper

/-! ## Colours that are read -/

theorem Spelled.bounds {group : List Char} {colour : Int} (spelled : Spelled group colour) :
    -0xFFFFF ≤ colour ∧ colour ≤ 0xFFFFFF := by
  have bounds := Text.Numeral.bounds_of_parse? (by decide) spelled.2
  rw [spelled.1] at bounds
  exact ⟨Int.add_one_le_of_lt bounds.1, Int.le_sub_one_of_lt bounds.2⟩

theorem bounds_of_spelled {groups : List (List Char)} {colours : List Int}
    (spelled : List.Forall₂ Spelled groups colours) :
    ∀ colour ∈ colours, -0xFFFFF ≤ colour ∧ colour ≤ 0xFFFFFF := by
  induction spelled with
  | nil => exact List.forall_mem_nil _
  | cons first _ induction => exact List.forall_mem_cons.mpr ⟨first.bounds, induction⟩

/-- What is not given is taken from the first of the palettes that are always there. -/
theorem head?_standard : standard.head? = some basis :=
  rfl

theorem narrow_of_mem_standard : ∀ palette ∈ standard, palette.Narrow := by
  have narrow : ∀ palette ∈ standard, ∀ colour ∈ palette.toList,
      0 ≤ colour ∧ colour ≤ 0xFFFFFF := by decide
  exact fun palette member colour inside =>
    narrow palette member colour (Vector.mem_toList_iff.mpr inside)

theorem narrow_basis : basis.Narrow :=
  narrow_of_mem_standard basis (List.mem_of_mem_head? head?_standard)

/-- Whatever is given, a colour is one that is given or one of the standard palette. -/
theorem forall_mem_of_toList_eq {palette : Palette} {colours : List Int}
    (same : palette.toList = colours ++ basis.toList.drop colours.length) {holds : Int → Prop}
    (given : ∀ colour ∈ colours, holds colour)
    (standard : ∀ colour, 0 ≤ colour ∧ colour ≤ 0xFFFFFF → holds colour) :
    ∀ colour ∈ palette, holds colour := by
  intro colour member
  rw [← Vector.mem_toList_iff, same, List.mem_append] at member
  rcases member with member | member
  · exact given colour member
  · exact standard colour (narrow_basis colour
      (Vector.mem_toList_iff.mp (List.mem_of_mem_drop member)))

/-- A palette of colours of at most 24 bits can be painted with unless one of them is negative. -/
theorem exists_colours?_iff {palette : Palette} (bounded : ∀ colour ∈ palette, colour ≤ 0xFFFFFF) :
    (∃ colours, Window.colours? palette = some colours) ↔ ∀ colour ∈ palette, 0 ≤ colour := by
  constructor
  · rintro ⟨colours, found⟩ colour member
    obtain ⟨index, inside, rfl⟩ := Vector.mem_iff_getElem.mp member
    obtain ⟨red, green, blue, -, mixes⟩ :=
      exists_of_components? (Window.components?_of_colours? found inside)
    rw [mixes]
    exact Int.natCast_nonneg (red.toNat * 0x10000 + green.toNat * 0x100 + blue.toNat)
  · exact fun nonneg => Window.exists_colours?_eq fun colour member =>
      ⟨nonneg colour member, bounded colour member⟩

/-- A text is a palette if it has at most four groups, each of six characters that spell a number.
The colours are these numbers in order and then those of the standard palette.  They have at most 24
bits, and the palette can be painted with unless one of them is negative.  Among the texts of commas
and hexadecimal digits, those are palettes that have one to four groups of six digits, and their
colours, which the digits spell, can be painted with. -/
theorem palettes_read (text : List Char) :
    ((∃ palette, parse text = .ok palette) ↔
      (Text.fields ',' text).length ≤ 4 ∧
        ∀ group ∈ Text.fields ',' text, ∃ colour, Spelled group colour) ∧
    (∀ palette, parse text = .ok palette →
      (∃ colours, List.Forall₂ Spelled (Text.fields ',' text) colours ∧
        palette.toList = colours ++ basis.toList.drop colours.length) ∧
      (∀ colour ∈ palette, -0xFFFFF ≤ colour ∧ colour ≤ 0xFFFFFF) ∧
      ((∃ colours, Window.colours? palette = some colours) ↔ ∀ colour ∈ palette, 0 ≤ colour)) ∧
    ((∀ c ∈ text, c = ',' ∨ c ∈ hexDigits) →
      ((∃ palette, parse text = .ok palette) ↔ ∃ groups, Proper text groups)) ∧
    ∀ groups, Proper text groups →
      ∃ palette colours, parse text = .ok palette ∧
        palette.toList =
          groups.map (fun group => (value group : Int)) ++ basis.toList.drop groups.length ∧
        palette.Narrow ∧ Window.colours? palette = some colours := by
  refine ⟨⟨?_, ?_⟩, fun palette read => ?_, fun plain => ⟨?_, ?_⟩, fun groups proper => ?_⟩
  · rintro ⟨palette, read⟩
    obtain ⟨colours, few, spelled, -⟩ := parse_eq_ok_iff.mp read
    exact ⟨spelled.length_eq ▸ few, exists_spelled_iff.mp ⟨colours, spelled⟩⟩
  · rintro ⟨few, each⟩
    obtain ⟨colours, spelled⟩ := exists_spelled_iff.mpr each
    exact ⟨_, parse_eq_ok_iff.mpr ⟨colours, spelled.length_eq ▸ few, spelled, rfl⟩⟩
  · obtain ⟨colours, few, spelled, rfl⟩ := parse_eq_ok_iff.mp read
    have bounded : ∀ colour ∈ ofColours colours, -0xFFFFF ≤ colour ∧ colour ≤ 0xFFFFFF :=
      forall_mem_of_toList_eq (toList_ofColours few) (bounds_of_spelled spelled)
        fun colour standard => ⟨by omega, standard.2⟩
    exact ⟨⟨colours, spelled, toList_ofColours few⟩, bounded,
      exists_colours?_iff fun colour member => (bounded colour member).2⟩
  · rintro ⟨palette, read⟩
    exact ⟨_, .of_parse plain read⟩
  · rintro ⟨groups, proper⟩
    obtain ⟨palette, read, -⟩ := proper.exists_parse
    exact ⟨palette, read⟩
  · obtain ⟨palette, read, colours⟩ := proper.exists_parse
    have narrow : palette.Narrow := by
      rw [← List.length_map (fun group => (value group : Int))] at colours
      refine forall_mem_of_toList_eq colours (fun colour member => ?_) fun _ standard => standard
      obtain ⟨group, -, rfl⟩ := List.mem_map.mp member
      exact ⟨Int.natCast_nonneg _, (bounds_of_spelled proper.spelled _ member).2⟩
    obtain ⟨painted, found⟩ := Window.exists_colours?_eq narrow
    exact ⟨palette, painted, read, colours, narrow, found⟩

/-- Two groups in digits of different case. -/
theorem palettes_read_of_two :
    Proper "0000a0,C0ffee".toList ["0000a0".toList, "C0ffee".toList] ∧
      ∃ palette colours, parse "0000a0,C0ffee".toList = .ok palette ∧
        palette.toList = [0xA0, 0xC0FFEE, 0x00DD88, 0xDD5555] ∧ palette.Narrow ∧
        Window.colours? palette = some colours := by
  have digits : ["0000a0".toList, "C0ffee".toList].all (·.all hexDigits.contains) := by
    decide +kernel
  have proper : Proper "0000a0,C0ffee".toList ["0000a0".toList, "C0ffee".toList] :=
    { text := by decide +kernel
      nonempty := List.cons_ne_nil _ _
      few := by decide
      six := by decide +kernel
      digits := by simpa only [List.all_eq_true, List.contains_iff_mem] using digits }
  obtain ⟨palette, colours, read, given, narrow, painted⟩ :=
    (palettes_read "0000a0,C0ffee".toList).2.2.2 _ proper
  refine ⟨proper, palette, colours, read, given.trans ?_, narrow, painted⟩
  decide +kernel

/-- A sign is read although it is no digit, and with the colour nothing can be painted. -/
theorem signed_colour_read :
    (¬ ∃ groups, Proper "-12345".toList groups) ∧
      ∃ palette, parse "-12345".toList = .ok palette ∧ palette[0] = -0x12345 ∧
        Window.colours? palette = none := by
  constructor
  · rintro ⟨groups, proper⟩
    have cut : Text.fields ',' "-12345".toList = groups := by
      rw [proper.text]
      exact Text.fields_intercalate proper.nonempty fun group member =>
        comma_notMem_of_digits (proper.digits group member)
    have whole : Text.fields ',' "-12345".toList = ["-12345".toList] := by decide +kernel
    -- So the only group is the whole text, and the sign stands in it.
    have member : "-12345".toList ∈ groups := by
      rw [← cut, whole]
      exact List.mem_singleton_self _
    exact absurd (proper.digits _ member '-' (by decide +kernel)) (by decide)
  · exact ⟨ofColours [-0x12345], by decide +kernel, rfl, by decide +kernel⟩

/-! ## Colours that are written -/

/-- A colour in six hexadecimal digits, those at some places in upper case. -/
def spellColour (upper : Nat → Bool) (colour : Int) : List Char :=
  (Text.Hex.pad 6 colour).mapIdx fun place c => if upper place then c.toUpper else c

/-- Colours in hexadecimal digits with commas between them. -/
def spell (upper : Nat → Nat → Bool) (colours : List Int) : List Char :=
  [','].intercalate (colours.mapIdx fun number => spellColour (upper number))

theorem spelled_spellColour {colour : Int} (narrow : 0 ≤ colour ∧ colour ≤ 0xFFFFFF)
    (upper : Nat → Bool) :
    Spelled (spellColour upper colour) colour ∧ ',' ∉ spellColour upper colour := by
  obtain ⟨number, rfl⟩ := Int.eq_ofNat_of_zero_le narrow.1
  obtain ⟨digits, written, bounded, value⟩ := Text.Hex.exists_padDigits_eq 6 number
  have six : (Text.Hex.padDigits 6 number).length = 6 :=
    Text.Hex.length_padDigits (by decide) (by omega)
  have alphanum := Text.Numeral.isAlphanum_recased le_rfl bounded upper
  have text : spellColour upper number =
      (digits.map Nat.digitChar).mapIdx fun place c => if upper place then c.toUpper else c := by
    rw [← written]
    rfl
  have length : (spellColour upper number).length = 6 := by
    rw [spellColour, List.length_mapIdx]
    exact six
  rw [← text] at alphanum
  have spells : Text.Numeral.hexadecimal.Spells (spellColour upper number) digits := by
    rw [text]
    exact Text.Numeral.spells_recased le_rfl bounded upper
  have nonempty : spellColour upper number ≠ [] :=
    List.ne_nil_of_length_pos (by rw [length]; decide)
  have read := Text.Numeral.parse?_of_spells spells nonempty alphanum le_rfl nofun
  rw [value] at read
  exact ⟨⟨length, read⟩, fun member => absurd (alphanum ',' member) (by decide)⟩

theorem forall_spelled_spellColour {colours : List Int}
    (narrow : ∀ colour ∈ colours, 0 ≤ colour ∧ colour ≤ 0xFFFFFF) (upper : Nat → Nat → Bool) :
    List.Forall₂ (fun group colour => Spelled group colour ∧ ',' ∉ group)
      (colours.mapIdx fun number => spellColour (upper number)) colours := by
  induction colours generalizing upper with
  | nil => exact .nil
  | cons colour rest induction =>
      obtain ⟨first, others⟩ := List.forall_mem_cons.mp narrow
      rw [List.mapIdx_cons]
      exact .cons (spelled_spellColour first (upper 0))
        (induction others fun number => upper (number + 1))

/-- Colours that are written in digits of any case are read back, and those of the standard palette
come after them. -/
theorem parse_spell {colours : List Int} (nonempty : colours ≠ []) (few : colours.length ≤ 4)
    (narrow : ∀ colour ∈ colours, 0 ≤ colour ∧ colour ≤ 0xFFFFFF) (upper : Nat → Nat → Bool) :
    ∃ palette, parse (spell upper colours) = .ok palette ∧
      palette.toList = colours ++ basis.toList.drop colours.length := by
  have written := forall_spelled_spellColour narrow upper
  have clean : ∀ group ∈ colours.mapIdx fun number => spellColour (upper number),
      ',' ∉ group := by
    intro group member
    obtain ⟨place, inside, rfl⟩ := List.mem_iff_getElem.mp member
    exact ((List.forall₂_iff_get.mp written).2 place inside (written.length_eq ▸ inside)).2
  refine exists_parse_intercalate ?_ (written.length_eq.trans_le few) clean
    (written.imp fun _ _ both => both.1)
  exact List.ne_nil_of_length_pos (written.length_eq ▸ List.length_pos_iff.mpr nonempty)

/-- Four colours, with every other digit in upper case. -/
theorem parse_spell_of_four :
    let colours : List Int := [0, 0xFFFFFF, 0xABCDEF, 0xA]
    let upper : Nat → Nat → Bool := fun number place => (number + place) % 2 == 0
    (colours ≠ [] ∧ colours.length ≤ 4 ∧ ∀ colour ∈ colours, 0 ≤ colour ∧ colour ≤ 0xFFFFFF) ∧
      ∃ palette, parse (spell upper colours) = .ok palette ∧ palette.toList = colours := by
  intro colours upper
  have nonempty : colours ≠ [] := List.cons_ne_nil _ _
  have few : colours.length ≤ 4 := by decide
  have narrow : ∀ colour ∈ colours, 0 ≤ colour ∧ colour ≤ 0xFFFFFF := by decide
  exact ⟨⟨nonempty, few, narrow⟩, parse_spell nonempty few narrow upper⟩

end Chip8.Palette
