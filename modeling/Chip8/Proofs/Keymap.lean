import Mathlib.Data.List.Nodup
import Chip8.Keypad.Keymap

/-!
# Codes of a keymap

A text that is accepted as a keymap spells sixteen different numbers, so a code is assigned to at
most one key.
-/

namespace Chip8.Keymap

theorem codesOf_cons_eq_ok_iff {seen codes : List Int} {piece : List Char}
    {rest : List (List Char)} :
    codesOf seen (piece :: rest) = .ok codes ↔
      ∃ code others, Text.Numeral.decimal.parse? piece = some code ∧ code ∉ seen ∧
        codesOf (code :: seen) rest = .ok others ∧ codes = code :: others := by
  rw [codesOf]
  constructor
  · intro accepted
    split at accepted
    case h_1 => cases accepted
    case h_2 code spelled =>
      split_ifs at accepted with again
      rcases later : codesOf (code :: seen) rest with error | others
      · rw [later] at accepted
        cases accepted
      · rw [later] at accepted
        cases accepted
        exact ⟨code, others, spelled, again, later, rfl⟩
  · rintro ⟨code, others, spelled, fresh, later, rfl⟩
    simp only [spelled, if_neg fresh, later]
    rfl

/-- Pieces are accepted if they spell numbers that differ from each other and from those seen. -/
theorem codesOf_eq_ok_iff {seen codes : List Int} {pieces : List (List Char)} :
    codesOf seen pieces = .ok codes ↔
      List.Forall₂ (fun piece code => Text.Numeral.decimal.parse? piece = some code) pieces codes ∧
        codes.Nodup ∧ ∀ code ∈ codes, code ∉ seen := by
  induction pieces generalizing seen codes with
  | nil =>
      rw [codesOf, List.forall₂_nil_left_iff]
      constructor
      · rintro ⟨⟩
        exact ⟨rfl, List.nodup_nil, List.forall_mem_nil _⟩
      · rintro ⟨rfl, -⟩
        rfl
  | cons piece rest induction =>
      rw [codesOf_cons_eq_ok_iff, List.forall₂_cons_left_iff]
      constructor
      · rintro ⟨code, found, spelled, again, others, rfl⟩
        obtain ⟨spells, distinct, fresh⟩ := induction.mp others
        refine ⟨⟨code, found, spelled, spells, rfl⟩,
          List.nodup_cons.mpr ⟨fun member => fresh code member List.mem_cons_self, distinct⟩,
          List.forall_mem_cons.mpr ⟨again, fun other member => ?_⟩⟩
        exact fun before => fresh other member (List.mem_cons_of_mem _ before)
      · rintro ⟨⟨code, found, spelled, spells, rfl⟩, distinct, fresh⟩
        obtain ⟨once, distinct⟩ := List.nodup_cons.mp distinct
        obtain ⟨new, fresh⟩ := List.forall_mem_cons.mp fresh
        refine ⟨code, found, spelled, new,
          induction.mpr ⟨spells, distinct, fun other member => ?_⟩, rfl⟩
        rw [List.mem_cons, not_or]
        exact ⟨fun same => once (same ▸ member), fresh other member⟩

/-- Sixteen codes are the codes of a keymap. -/
theorem toList_ofFn_getD {codes : List Int} (sixteen : codes.length = 16) :
    (Vector.ofFn fun key : Fin 16 => codes.getD key 0).toList = codes := by
  rw [Vector.toList_ofFn]
  refine List.ext_getElem (by rw [List.length_ofFn, sixteen]) fun index _ inside => ?_
  rw [List.getElem_ofFn, List.getD_eq_getElem?_getD, List.getElem?_eq_getElem inside,
    Option.getD_some]

/-- A text is accepted if its pieces spell sixteen different numbers, the codes of keys 0 to F. -/
theorem parse_eq_ok_iff {text : List Char} {keymap : Keymap} :
    parse text = .ok keymap ↔
      List.Forall₂ (fun piece code => Text.Numeral.decimal.parse? piece = some code)
        (Text.fields ',' text) keymap.codes.toList ∧ keymap.codes.toList.Nodup := by
  rw [parse]
  constructor
  · intro accepted
    split_ifs at accepted with sixteen
    rcases read : codesOf [] (Text.fields ',' text) with error | codes
    · rw [read] at accepted
      cases accepted
    · rw [read] at accepted
      cases accepted
      obtain ⟨spells, distinct, -⟩ := codesOf_eq_ok_iff.mp read
      rw [toList_ofFn_getD (spells.length_eq ▸ Classical.not_not.mp sixteen)]
      exact ⟨spells, distinct⟩
  · rintro ⟨spells, distinct⟩
    have sixteen : (Text.fields ',' text).length = 16 := by
      rw [spells.length_eq, Vector.length_toList]
    rw [if_neg (not_not_intro sixteen),
      codesOf_eq_ok_iff.mpr ⟨spells, distinct, fun _ _ => List.not_mem_nil⟩]
    refine congrArg (fun codes => Except.ok (Keymap.mk codes)) (Vector.toList_inj.mp ?_)
    exact toList_ofFn_getD (Vector.length_toList)

variable {keymap : Keymap} {code : Int} {key : Digit}

theorem eq_of_get_eq_get (distinct : keymap.codes.toList.Nodup) {first second : Digit}
    (same : keymap.codes.get first = keymap.codes.get second) : first = second := by
  have inside (key : Digit) : key.val < keymap.codes.toList.length := by
    rw [Vector.length_toList]
    exact key.isLt
  have atFirst := inside first
  have atSecond := inside second
  have same : keymap.codes.toList[first.val] = keymap.codes.toList[second.val] := by
    rw [Vector.getElem_toList, Vector.getElem_toList]
    exact same
  exact Fin.ext (distinct.getElem_inj_iff.mp same)

theorem get_of_keyOf? (found : keymap.keyOf? code = some key) : keymap.codes.get key = code := by
  rw [keyOf?] at found
  simpa using List.find?_some found

theorem keyOf?_eq_none_iff : keymap.keyOf? code = none ↔ code ∉ keymap.codes := by
  have none_iff : keymap.keyOf? code = none ↔ ∀ key, keymap.codes.get key ≠ code := by
    simp [keyOf?]
  rw [none_iff, Vector.mem_iff_getElem]
  constructor
  · rintro missing ⟨index, inside, same⟩
    exact missing ⟨index, inside⟩ same
  · exact fun missing key same => missing ⟨key, key.isLt, same⟩

theorem mem_of_keyOf? (found : keymap.keyOf? code = some key) : code ∈ keymap.codes :=
  get_of_keyOf? found ▸ Vector.getElem_mem key.isLt

/-- A code is looked up where it is assigned. -/
theorem keyOf?_eq_some_iff (distinct : keymap.codes.toList.Nodup) :
    keymap.keyOf? code = some key ↔ keymap.codes.get key = code := by
  refine ⟨get_of_keyOf?, ?_⟩
  rintro rfl
  rcases found : keymap.keyOf? (keymap.codes.get key) with _ | other
  · exact absurd (Vector.getElem_mem key.isLt) (keyOf?_eq_none_iff.mp found)
  · exact congrArg some (eq_of_get_eq_get distinct (get_of_keyOf? found))

end Chip8.Keymap
