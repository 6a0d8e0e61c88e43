import Mathlib.Data.List.Forall2
import Mathlib.Logic.Equiv.Defs
import Chip8.Proofs.Keymap
import Chip8.Proofs.Numeral

/-!
# Keymaps and their texts

A text is a keymap if it has sixteen fields that spell different numbers.  These numbers and the
keys then correspond one to one.  Any other text is at fault, either in the number of its fields or
in the first field that spells no number or one that was there before.  A keymap that is written in
decimal is read back.
-/

namespace Chip8.Keymap

/-- Fields spell different codes. -/
def Distinct (fields : List (List Char)) (codes : List Int) : Prop :=
  List.Forall₂ (fun field code => Text.Numeral.decimal.parse? field = some code) fields codes ∧
    codes.Nodup

/-! ## Faults -/

/-- What is wrong with a field after fields that spell the codes `earlier`. -/
inductive AtFault (earlier : List Int) (field : List Char) : Error → Prop where
  /-- It spells no number. -/
  | notANumber (unread : Text.Numeral.decimal.parse? field = none) :
      AtFault earlier field .notANumber
  /-- It spells a code that was there before. -/
  | duplicate {code : Int} (read : Text.Numeral.decimal.parse? field = some code)
      (again : code ∈ earlier) : AtFault earlier field .duplicate

/-- What is wrong with fields: their number, or else the first that is at fault. -/
inductive Faulty (fields : List (List Char)) : Error → Prop where
  /-- There are not sixteen. -/
  | wrongCount (other : fields.length ≠ 16) : Faulty fields .wrongCount
  /-- There are sixteen, and one is at fault after others that spell different codes. -/
  | field {error : Error} {before after : List (List Char)} {field : List Char} {codes : List Int}
      (sixteen : fields.length = 16) (cut : fields = before ++ field :: after)
      (distinct : Distinct before codes) (fault : AtFault codes field error) : Faulty fields error

section Codes

variable {seen codes : List Int} {field : List Char} {fields rest : List (List Char)}
  {error : Error}

theorem AtFault.mono {others : List Int} (fault : AtFault seen field error)
    (wider : ∀ code ∈ seen, code ∈ others) : AtFault others field error := by
  cases fault with
  | notANumber unread => exact .notANumber unread
  | duplicate read again => exact .duplicate read (wider _ again)

/-- A field is at fault, or its code is one that was not there before. -/
theorem codesOf_cons_eq_error_iff :
    codesOf seen (field :: rest) = .error error ↔
      AtFault seen field error ∨
        ∃ code, Text.Numeral.decimal.parse? field = some code ∧ code ∉ seen ∧
          codesOf (code :: seen) rest = .error error := by
  rw [codesOf]
  constructor
  · intro failed
    split at failed
    case h_1 unread =>
      cases failed
      exact .inl (.notANumber unread)
    case h_2 code read =>
      split_ifs at failed with again
      · cases failed
        exact .inl (.duplicate read again)
      · refine .inr ⟨code, read, again, ?_⟩
        rcases later : codesOf (code :: seen) rest with found | others
        · rw [later] at failed
          cases failed
          rfl
        · rw [later] at failed
          cases failed
  · rintro (fault | ⟨code, read, fresh, later⟩)
    · cases fault with
      | notANumber unread => rw [unread]
      | duplicate read again => rw [read]; exact if_pos again
    · simp only [read, if_neg fresh, later]
      rfl

/-- Fields are refused at the first that is at fault. -/
theorem codesOf_eq_error_iff :
    codesOf seen fields = .error error ↔
      ∃ before field after codes, fields = before ++ field :: after ∧
        codesOf seen before = .ok codes ∧ AtFault (codes ++ seen) field error := by
  induction fields generalizing seen with
  | nil =>
      refine iff_of_false nofun ?_
      rintro ⟨before, field, after, codes, cut, -⟩
      exact absurd cut.symm (List.append_ne_nil_of_right_ne_nil _ (List.cons_ne_nil _ _))
  | cons first rest induction =>
      rw [codesOf_cons_eq_error_iff]
      constructor
      · rintro (fault | ⟨code, read, fresh, later⟩)
        · exact ⟨[], first, rest, [], rfl, rfl, fault⟩
        · obtain ⟨before, field, after, codes, rfl, accepted, fault⟩ := induction.mp later
          -- The code of the first field moves from those seen to those accepted.
          refine ⟨first :: before, field, after, code :: codes, rfl, ?_,
            fault.mono fun _ => List.perm_middle.mem_iff.mp⟩
          exact codesOf_cons_eq_ok_iff.mpr ⟨code, codes, read, fresh, accepted, rfl⟩
      · rintro ⟨before, field, after, codes, cut, accepted, fault⟩
        cases before with
        | nil =>
            cases cut
            cases accepted
            exact .inl fault
        | cons _ before =>
            cases cut
            obtain ⟨code, others, read, fresh, earlier, rfl⟩ := codesOf_cons_eq_ok_iff.mp accepted
            have later : codesOf (code :: seen) (before ++ field :: after) = .error error :=
              induction.mpr ⟨before, field, after, others, rfl, earlier,
                fault.mono fun _ => List.perm_middle.mem_iff.mpr⟩
            exact .inr ⟨code, read, fresh, later⟩

end Codes

variable {text : List Char} {keymap : Keymap}

/-- A text is refused for what is wrong with its fields. -/
theorem parse_eq_error_iff {error : Error} :
    parse text = .error error ↔ Faulty (Text.fields ',' text) error := by
  have opened (sixteen : (Text.fields ',' text).length = 16) :
      parse text = .error error ↔ codesOf [] (Text.fields ',' text) = .error error := by
    rw [parse, if_neg (not_not_intro sixteen)]
    rcases codesOf [] (Text.fields ',' text) with found | codes
    · simp only [Except.map, Except.error.injEq]
    · simp only [Except.map, reduceCtorEq]
  constructor
  · intro refused
    by_cases sixteen : (Text.fields ',' text).length = 16
    · obtain ⟨before, field, after, codes, cut, accepted, fault⟩ :=
        codesOf_eq_error_iff.mp ((opened sixteen).mp refused)
      obtain ⟨spells, distinct, -⟩ := codesOf_eq_ok_iff.mp accepted
      rw [List.append_nil] at fault
      exact .field sixteen cut ⟨spells, distinct⟩ fault
    · rw [parse, if_pos sixteen] at refused
      cases refused
      exact .wrongCount sixteen
  · rintro (other | ⟨sixteen, cut, ⟨spells, distinct⟩, fault⟩)
    · rw [parse, if_pos other]
    · refine (opened sixteen).mpr (codesOf_eq_error_iff.mpr ⟨_, _, _, _, cut,
        codesOf_eq_ok_iff.mpr ⟨spells, distinct, fun _ _ => List.not_mem_nil⟩, ?_⟩)
      rwa [List.append_nil]

/-! ## Codes and keys -/

/-- Sixteen fields that spell different codes are a keymap of these codes. -/
theorem exists_parse_eq {codes : List Int} (sixteen : (Text.fields ',' text).length = 16)
    (distinct : Distinct (Text.fields ',' text) codes) :
    ∃ keymap, parse text = .ok keymap ∧ keymap.codes.toList = codes := by
  have given := toList_ofFn_getD (distinct.1.length_eq ▸ sixteen)
  refine ⟨⟨Vector.ofFn fun key => codes.getD key 0⟩, parse_eq_ok_iff.mpr ?_, given⟩
  rw [given]
  exact distinct

/-- A code is assigned to a key if the field of the key spells it. -/
theorem keyOf?_eq_some_iff_field (accepted : parse text = .ok keymap) (code : Int)
    (key : Digit) :
    keymap.keyOf? code = some key ↔
      (Text.fields ',' text)[key.val]?.bind Text.Numeral.decimal.parse? = some code := by
  obtain ⟨spells, distinct⟩ := parse_eq_ok_iff.mp accepted
  obtain ⟨length, each⟩ := List.forall₂_iff_get.mp spells
  have within : key.val < keymap.codes.toList.length := by
    rw [Vector.length_toList]
    exact key.isLt
  have inside : key.val < (Text.fields ',' text).length := length ▸ within
  have read : Text.Numeral.decimal.parse? (Text.fields ',' text)[key.val] =
      some (keymap.codes.get key) := each key.val inside within
  rw [keyOf?_eq_some_iff distinct, List.getElem?_eq_getElem inside, Option.bind_some, read,
    Option.some_inj]

/-- The codes that are assigned to keys. -/
abbrev Assigned (keymap : Keymap) : Type := { code : Int // (keymap.keyOf? code).isSome }

/-- The codes that are assigned and the keys, one to one. -/
def assignment (keymap : Keymap) (distinct : keymap.codes.toList.Nodup) :
    keymap.Assigned ≃ Digit where
  toFun code := (keymap.keyOf? code.val).get code.property
  invFun key :=
    ⟨keymap.codes.get key, Option.isSome_iff_exists.mpr
      ⟨key, (keyOf?_eq_some_iff distinct).mpr rfl⟩⟩
  left_inv _ := Subtype.ext (get_of_keyOf? (Option.some_get _).symm)
  right_inv _ := Option.get_of_eq_some _ ((keyOf?_eq_some_iff distinct).mpr rfl)

/-! ## Codes that are written -/

/-- Codes in decimal with commas between them. -/
def spell (codes : List Int) : List Char :=
  [','].intercalate (codes.map fun code => (toString code).toList)

theorem fields_spell {codes : List Int} (nonempty : codes ≠ []) :
    Text.fields ',' (spell codes) = codes.map fun code => (toString code).toList := by
  refine Text.fields_intercalate (mt List.map_eq_nil_iff.mp nonempty) ?_
  rintro _ member inside
  obtain ⟨code, -, rfl⟩ := List.mem_map.mp member
  rcases Text.Numeral.eq_minus_or_isAlphanum inside with same | alphanum
  · exact absurd same (by decide)
  · exact absurd alphanum (by decide)

theorem distinct_spell {codes : List Int} (distinct : codes.Nodup)
    (short : ∀ code ∈ codes, code.natAbs < 10 ^ 4300) :
    Distinct (codes.map fun code => (toString code).toList) codes :=
  ⟨List.forall₂_map_left_iff.mpr (List.forall₂_same.mpr fun code member =>
    Text.Numeral.parse?_toString (short code member)), distinct⟩

/-- A text is a keymap if it has sixteen fields that spell different codes.  A code is then assigned
to the key whose field spells it, so that codes and keys correspond one to one.  Any other text is
refused for the number of its fields or else for the first field that is at fault.  Any sixteen
different codes of at most 4300 digits that are written in decimal are read back. -/
theorem keymaps_read (text : List Char) :
    ((∃ keymap, parse text = .ok keymap) ↔
      (Text.fields ',' text).length = 16 ∧ ∃ codes, Distinct (Text.fields ',' text) codes) ∧
    (∀ keymap, parse text = .ok keymap →
      (∀ code key, keymap.keyOf? code = some key ↔
        (Text.fields ',' text)[key.val]?.bind Text.Numeral.decimal.parse? = some code) ∧
      ∃ assigned : keymap.Assigned ≃ Digit,
        ∀ code, keymap.keyOf? code.val = some (assigned code)) ∧
    (∀ error, parse text = .error error ↔ Faulty (Text.fields ',' text) error) ∧
    ∀ codes : List Int, codes.length = 16 → codes.Nodup →
      (∀ code ∈ codes, code.natAbs < 10 ^ 4300) →
      ∃ keymap, parse (spell codes) = .ok keymap ∧
        ∀ code key, keymap.keyOf? code = some key ↔ codes[key.val]? = some code := by
  refine ⟨⟨?_, ?_⟩, fun keymap accepted => ⟨fun code key => ?_, ?_⟩,
    fun error => parse_eq_error_iff, fun codes sixteen distinct short => ?_⟩
  · rintro ⟨keymap, accepted⟩
    obtain ⟨spells, distinct⟩ := parse_eq_ok_iff.mp accepted
    exact ⟨spells.length_eq.trans Vector.length_toList, _, spells, distinct⟩
  · rintro ⟨sixteen, codes, distinct⟩
    obtain ⟨keymap, accepted, -⟩ := exists_parse_eq sixteen distinct
    exact ⟨keymap, accepted⟩
  · exact keyOf?_eq_some_iff_field accepted code key
  · exact ⟨keymap.assignment (parse_eq_ok_iff.mp accepted).2,
      fun code => (Option.some_get code.property).symm⟩
  · have nonempty : codes ≠ [] := List.ne_nil_of_length_pos (by rw [sixteen]; decide)
    have fields := fields_spell nonempty
    have spelled := distinct_spell distinct short
    rw [← fields] at spelled
    obtain ⟨keymap, accepted, same⟩ :=
      exists_parse_eq (spelled.1.length_eq.trans sixteen) spelled
    refine ⟨keymap, accepted, fun code key => ?_⟩
    have assigned : codes[key.val]? = some (keymap.codes.get key) := by
      rw [← same, Vector.getElem?_toList, Vector.getElem?_eq_getElem key.isLt]
      rfl
    rw [keyOf?_eq_some_iff (same ▸ distinct), assigned, Option.some_inj]

/-- A code that is spelled in another way is the same code, and the code of a key may be
negative. -/
theorem keymaps_read_of_padded :
    let text := "7,+07,2,3,4,5,6,8,9,10,11,12,13,14,15,16".toList
    let codes : List Int := [-7, 7, 0, 1, -1, 2, 3, 4, 5, 6, 8, 9, 10, 11, 12, -999]
    parse text = .error .duplicate ∧
      ∃ keymap, parse (spell codes) = .ok keymap ∧
        ∀ code key, keymap.keyOf? code = some key ↔ codes[key.val]? = some code := by
  intro text codes
  have sixteen : (Text.fields ',' text).length = 16 := by decide +kernel
  have cut : Text.fields ',' text =
      ["7".toList] ++ "+07".toList :: (Text.fields ',' text).drop 2 := by decide +kernel
  have distinct : Distinct ["7".toList] [7] :=
    ⟨.cons (by decide +kernel) .nil, List.nodup_singleton 7⟩
  have fault : AtFault [7] "+07".toList .duplicate :=
    .duplicate (by decide +kernel) (List.mem_singleton_self 7)
  have small : ∀ code ∈ codes, code.natAbs < 10 ^ 3 := by decide
  have short (limit : Nat) (large : 3 ≤ limit) : ∀ code ∈ codes, code.natAbs < 10 ^ limit :=
    fun code member => (small code member).trans_le (Nat.pow_le_pow_right (by decide) large)
  obtain ⟨-, -, refused, written⟩ := keymaps_read text
  exact ⟨(refused .duplicate).mpr (.field sixteen cut distinct fault),
    written codes rfl (by decide) (short 4300 (by decide))⟩

end Chip8.Keymap
