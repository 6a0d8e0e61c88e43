import Mathlib.Algebra.Order.Ring.Nat
import Mathlib.Data.List.Basic
import Mathlib.Data.List.Forall2
import Mathlib.Data.List.Induction
import Mathlib.Data.List.TakeWhile
import Mathlib.Tactic.Common
import Chip8.Text.Fields
import Chip8.Text.Hex

/-!
# Reading what is written

Pieces that are written with separators between them are the fields that are read, and a number that
is written in digits is the number that is read, whatever the case of its digits and with any zeros
in front.  Of any number that is read the size is known: it has no more digits than the text has
characters.
-/

namespace Chip8.Text

theorem fields_eq_splitOn (separator : Char) (text : List Char) :
    fields separator text = text.splitOn separator := by
  induction text with
  | nil => rfl
  | cons c rest induction =>
      rw [fields, List.splitOn_cons_eq_if_modifyHead, induction]
      simp only [beq_iff_eq]
      split
      · rfl
      · rcases pieces : rest.splitOn separator with _ | ⟨first, others⟩
        · exact absurd pieces (List.splitOn_ne_nil separator rest)
        · rfl

/-- Pieces without separators are read as they are written. -/
theorem fields_intercalate {separator : Char} {pieces : List (List Char)} (nonempty : pieces ≠ [])
    (clean : ∀ piece ∈ pieces, separator ∉ piece) :
    fields separator ([separator].intercalate pieces) = pieces := by
  rw [fields_eq_splitOn]
  exact List.splitOn_intercalate separator clean nonempty

/-- The fields with separators between them are the text. -/
theorem intercalate_fields (separator : Char) (text : List Char) :
    [separator].intercalate (fields separator text) = text := by
  rw [fields_eq_splitOn]
  exact List.intercalate_splitOn separator

theorem fields_ne_nil (separator : Char) (text : List Char) : fields separator text ≠ [] := by
  rw [fields_eq_splitOn]
  exact List.splitOn_ne_nil separator text

/-- A field is a part of the text, and no separator is left in it. -/
theorem of_mem_fields {separator : Char} {text piece : List Char}
    (member : piece ∈ fields separator text) {c : Char} (inside : c ∈ piece) :
    c ∈ text ∧ c ≠ separator := by
  induction text generalizing piece with
  | nil =>
      rw [List.mem_singleton.mp member] at inside
      exact absurd inside List.not_mem_nil
  | cons first rest induction =>
      rw [fields] at member
      split at member
      case isTrue =>
        rcases List.mem_cons.mp member with rfl | member
        · exact absurd inside List.not_mem_nil
        · obtain ⟨later, other⟩ := induction member inside
          exact ⟨List.mem_cons_of_mem _ later, other⟩
      case isFalse differs =>
        rcases pieces : fields separator rest with _ | ⟨next, others⟩
        · exact absurd pieces (fields_ne_nil separator rest)
        · rw [pieces] at member induction
          rcases List.mem_cons.mp member with rfl | member
          · rcases List.mem_cons.mp inside with rfl | inside
            · exact ⟨List.mem_cons_self, differs⟩
            · obtain ⟨later, other⟩ := induction List.mem_cons_self inside
              exact ⟨List.mem_cons_of_mem _ later, other⟩
          · obtain ⟨later, other⟩ := induction (List.mem_cons_of_mem _ member) inside
            exact ⟨List.mem_cons_of_mem _ later, other⟩

namespace Numeral

variable {numeral : Numeral} {text : List Char} {digits : List Nat}

/-! ## Digits -/

theorem digitValue?_digitChar {digit : Nat} (small : digit < 16) :
    digitValue? (Nat.digitChar digit) = some digit ∧
      digitValue? (Nat.digitChar digit).toUpper = some digit := by
  revert digit
  decide

theorem isAlphanum_digitChar {digit : Nat} (small : digit < 16) :
    (Nat.digitChar digit).isAlphanum ∧ (Nat.digitChar digit).toUpper.isAlphanum := by
  revert digit
  decide

theorem valueOf_concat (numeral : Numeral) (digits : List Nat) (digit : Nat) :
    numeral.valueOf (digits ++ [digit]) = numeral.valueOf digits * numeral.base + digit :=
  List.foldl_append

theorem valueOf_zeros_append (numeral : Numeral) (count : Nat) (digits : List Nat) :
    numeral.valueOf (List.replicate count 0 ++ digits) = numeral.valueOf digits := by
  induction count with
  | zero => rfl
  | succ count induction =>
      rw [List.replicate_succ, List.cons_append, valueOf, List.foldl_cons, Nat.zero_mul]
      exact induction

theorem valueOf_lt (bounded : ∀ digit ∈ digits, digit < numeral.base) :
    numeral.valueOf digits < numeral.base ^ digits.length := by
  induction digits using List.reverseRecOn with
  | nil => exact Nat.one_pos
  | append_singleton digits digit induction =>
      obtain ⟨earlier, last⟩ := List.forall_mem_append.mp bounded
      have last := last digit (List.mem_singleton_self digit)
      have value := induction earlier
      rw [valueOf_concat, List.length_append, List.length_singleton, Nat.pow_succ]
      calc
        numeral.valueOf digits * numeral.base + digit
          < numeral.valueOf digits * numeral.base + numeral.base := Nat.add_lt_add_left last _
        _ = (numeral.valueOf digits + 1) * numeral.base := (Nat.succ_mul ..).symm
        _ ≤ numeral.base ^ digits.length * numeral.base := Nat.mul_le_mul_right _ value

/-- The digits of a number have its value. -/
theorem exists_toDigits_eq (numeral : Numeral) (base : 1 < numeral.base) (number : Nat) :
    ∃ digits, Nat.toDigits numeral.base number = digits.map Nat.digitChar ∧
      (∀ digit ∈ digits, digit < numeral.base) ∧ numeral.valueOf digits = number := by
  induction number using Nat.strongRecOn with
  | ind number induction =>
      rcases Nat.lt_or_ge number numeral.base with small | large
      · refine ⟨[number], Nat.toDigits_of_lt_base small, List.forall_mem_singleton.mpr small, ?_⟩
        exact (congrArg (· + number) (Nat.zero_mul _)).trans (Nat.zero_add number)
      · have smaller := Nat.div_lt_self (Nat.lt_of_lt_of_le (Nat.zero_lt_of_lt base) large) base
        obtain ⟨digits, written, bounded, value⟩ := induction (number / numeral.base) smaller
        have last := Nat.mod_lt number (Nat.zero_lt_of_lt base)
        refine ⟨digits ++ [number % numeral.base], ?_, ?_, ?_⟩
        · rw [Nat.toDigits_of_base_le base large, written, List.map_append, List.map_singleton]
        · exact List.forall_mem_append.mpr ⟨bounded, List.forall_mem_singleton.mpr last⟩
        · rw [valueOf_concat, value, Nat.div_add_mod']

/-! ## Texts of digits -/

/-- A text is made of digits, and these are their values. -/
def Spells (numeral : Numeral) (text : List Char) (digits : List Nat) : Prop :=
  List.Forall₂ (fun c value => numeral.digit? c = some value) text digits

theorem digits?_of_spells (spells : numeral.Spells text digits) (nonempty : text ≠ [])
    (plain : '_' ∉ text) : numeral.digits? text = some digits := by
  induction spells with
  | nil => exact absurd rfl nonempty
  | @cons c value rest values digit others induction =>
      cases others with
      | nil => rw [digits?, digit]; rfl
      | @cons d _ rest _ =>
          have second : d ≠ '_' := fun same => plain (by simp [same])
          rw [digits?, digit, induction nofun fun member => plain (List.mem_cons_of_mem _ member)]
          · rfl
          · exact nofun
          · rintro _ ⟨⟩
            exact second rfl

/-- A number in digits of any case. -/
theorem spells_recased (small : numeral.base ≤ 16)
    (bounded : ∀ digit ∈ digits, digit < numeral.base) (upper : Nat → Bool) :
    numeral.Spells ((digits.map Nat.digitChar).mapIdx fun place c =>
      if upper place then c.toUpper else c) digits := by
  induction digits generalizing upper with
  | nil => exact .nil
  | cons digit rest induction =>
      obtain ⟨first, others⟩ := List.forall_mem_cons.mp bounded
      have value := digitValue?_digitChar (Nat.lt_of_lt_of_le first small)
      rw [List.map_cons, List.mapIdx_cons]
      refine .cons ?_ (induction others fun place => upper (place + 1))
      rw [digit?]
      split
      · rw [value.2, Option.filter_some, if_pos (decide_eq_true first)]
      · rw [value.1, Option.filter_some, if_pos (decide_eq_true first)]

theorem isAlphanum_recased (small : numeral.base ≤ 16)
    (bounded : ∀ digit ∈ digits, digit < numeral.base) (upper : Nat → Bool) :
    ∀ c ∈ (digits.map Nat.digitChar).mapIdx fun place c => if upper place then c.toUpper else c,
      c.isAlphanum := by
  intro c member
  obtain ⟨place, inside, rfl⟩ := List.mem_mapIdx.mp member
  obtain ⟨digit, member, same⟩ := List.mem_map.mp (List.getElem_mem inside)
  have alphanum := isAlphanum_digitChar (Nat.lt_of_lt_of_le (bounded digit member) small)
  rw [← same]
  split
  · exact alphanum.2
  · exact alphanum.1

theorem spells_map_digitChar (small : numeral.base ≤ 16)
    (bounded : ∀ digit ∈ digits, digit < numeral.base) :
    numeral.Spells (digits.map Nat.digitChar) digits ∧
      ∀ c ∈ digits.map Nat.digitChar, c.isAlphanum := by
  have lower : (digits.map Nat.digitChar).mapIdx (fun _ c => if false then c.toUpper else c) =
      digits.map Nat.digitChar := List.mapIdx_eq_iff.mpr fun _ => (Option.map_id' ..).symm
  have spells := spells_recased small bounded fun _ => false
  have alphanum := isAlphanum_recased small bounded fun _ => false
  rw [lower] at spells alphanum
  exact ⟨spells, alphanum⟩

theorem holds_of_isAlphanum {c : Char} (alphanum : c.isAlphanum) : Blank.holds c = false := by
  change (decide (0x41 ≤ c.val ∧ c.val ≤ 0x5A) ||
    (decide (0x61 ≤ c.val) && decide (c.val ≤ 0x7A)) ||
      (decide (0x30 ≤ c.val) && decide (c.val ≤ 0x39))) = true at alphanum
  simp only [Bool.or_eq_true, Bool.and_eq_true, decide_eq_true_eq, UInt32.le_iff_toNat_le]
    at alphanum
  change ((0x41 ≤ c.toNat ∧ c.toNat ≤ 0x5A) ∨ (0x61 ≤ c.toNat ∧ c.toNat ≤ 0x7A)) ∨
    (0x30 ≤ c.toNat ∧ c.toNat ≤ 0x39) at alphanum
  -- No blank has a code point in these three ranges.
  simp only [Blank.holds, Blank.isAscii, Blank.isWide, List.contains_eq_mem, List.mem_cons,
    List.not_mem_nil, or_false, Bool.decide_or, Bool.or_eq_false_iff, beq_eq_false_iff_ne, ne_eq,
    Bool.and_eq_false_imp, decide_eq_true_eq, decide_eq_false_iff_not, not_le]
  omega

/-- Without blanks there is nothing to trim. -/
theorem trim_of_solid (solid : ∀ c ∈ text, Blank.holds c = false) : trim text = text := by
  have kept {text : List Char} (solid : ∀ c ∈ text, Blank.holds c = false) :
      text.dropWhile Blank.holds = text := by
    refine List.dropWhile_eq_self_iff.mpr fun inside => ?_
    rw [solid _ (List.getElem_mem inside)]
    exact Bool.false_ne_true
  rw [trim, kept solid, kept fun c member => solid c (List.mem_reverse.mp member),
    List.reverse_reverse]

section Plain

variable (spells : numeral.Spells text digits) (nonempty : text ≠ [])
  (alphanum : ∀ c ∈ text, c.isAlphanum) (small : numeral.base ≤ 16)
  (short : ∀ most ∈ numeral.maxDigits, digits.length ≤ most)

include spells small in
/-- A prefix holds a letter that is no digit. -/
theorem dropPrefix_of_spells : numeral.dropPrefix text = text := by
  have noLetter {letter : Char} (letters : letter = 'x' ∨ letter = 'X') :
      numeral.digit? letter = none := by
    have value : digitValue? letter = some 33 := by
      rcases letters with rfl | rfl <;> rfl
    rw [digit?, value, Option.filter_some, if_neg]
    exact fun least => absurd (of_decide_eq_true least) (by omega)
  cases spells with
  | nil => rfl
  | cons _ others =>
      cases others with
      | nil => rfl
      | cons digit _ =>
          refine if_neg ?_
          rintro ⟨-, -, letters⟩
          rw [noLetter letters] at digit
          cases digit

include spells nonempty alphanum small short

theorem magnitude?_of_spells : numeral.magnitude? text = some (numeral.valueOf digits) := by
  have plain : '_' ∉ text := fun member => absurd (alphanum _ member) (by decide)
  have within : ¬ (numeral.maxDigits.any fun most => most < digits.length) = true := by
    rw [Option.any_eq_true]
    rintro ⟨most, limit, exceeded⟩
    exact absurd (of_decide_eq_true exceeded) (Nat.not_lt.mpr (short most limit))
  rw [magnitude?, dropPrefix_of_spells spells small, digits?_of_spells spells nonempty plain,
    Option.bind_eq_bind, Option.bind_some, if_neg within]

/-- A number in digits is read. -/
theorem parse?_of_spells : numeral.parse? text = some (numeral.valueOf digits : Int) := by
  have magnitude := magnitude?_of_spells spells nonempty alphanum small short
  have solid (c : Char) (member : c ∈ text) : Blank.holds c = false :=
    holds_of_isAlphanum (alphanum c member)
  rw [parse?, trim_of_solid solid]
  split
  · exact absurd (alphanum _ List.mem_cons_self) (by decide)
  · exact absurd (alphanum _ List.mem_cons_self) (by decide)
  · rw [magnitude]
    rfl

/-- A number in digits with a minus sign in front is read. -/
theorem parse?_minus_of_spells :
    numeral.parse? ('-' :: text) = some (-(numeral.valueOf digits : Int)) := by
  have magnitude := magnitude?_of_spells spells nonempty alphanum small short
  have solid : ∀ c ∈ '-' :: text, Blank.holds c = false :=
    List.forall_mem_cons.mpr
      ⟨by decide, fun c member => holds_of_isAlphanum (alphanum c member)⟩
  rw [parse?, trim_of_solid solid]
  simp only [magnitude]
  rfl

end Plain

/-! ## Sizes -/

theorem digits_of_digits? (read : numeral.digits? text = some digits) :
    digits.length ≤ text.length ∧ ∀ digit ∈ digits, digit < numeral.base := by
  have small {c : Char} {digit : Nat} (read : numeral.digit? c = some digit) :
      digit < numeral.base :=
    of_decide_eq_true (Option.filter_eq_some_iff.mp read).2
  fun_induction digits? numeral text generalizing digits with
  | case1 => cases read
  | case2 c =>
      obtain ⟨digit, first, rfl⟩ := Option.map_eq_some_iff.mp read
      exact ⟨le_rfl, List.forall_mem_singleton.mpr (small first)⟩
  | case3 c rest induction =>
      simp only [Option.bind_eq_bind, Option.bind_eq_some_iff, Option.pure_def,
        Option.some_inj] at read
      obtain ⟨digit, first, others, later, rfl⟩ := read
      obtain ⟨length, bounded⟩ := induction later
      exact ⟨Nat.succ_le_succ (Nat.le_succ_of_le length),
        List.forall_mem_cons.mpr ⟨small first, bounded⟩⟩
  | case4 c rest _ _ induction =>
      simp only [Option.bind_eq_bind, Option.bind_eq_some_iff, Option.pure_def,
        Option.some_inj] at read
      obtain ⟨digit, first, others, later, rfl⟩ := read
      obtain ⟨length, bounded⟩ := induction later
      exact ⟨Nat.succ_le_succ length, List.forall_mem_cons.mpr ⟨small first, bounded⟩⟩

theorem length_dropPrefix_le (numeral : Numeral) (text : List Char) :
    (numeral.dropPrefix text).length ≤ text.length := by
  unfold dropPrefix
  split
  · split
    · split <;> simp only [List.length_cons] <;> omega
    · exact le_rfl
  · exact le_rfl

theorem length_trim_le (text : List Char) : (trim text).length ≤ text.length := by
  have shorter (text : List Char) : (text.dropWhile Blank.holds).length ≤ text.length :=
    (List.dropWhile_sublist _).length_le
  rw [trim, List.length_reverse]
  refine (shorter _).trans ?_
  rw [List.length_reverse]
  exact shorter text

theorem lt_of_magnitude? {number : Nat} (positive : 0 < numeral.base)
    (read : numeral.magnitude? text = some number) : number < numeral.base ^ text.length := by
  simp only [magnitude?, Option.bind_eq_bind, Option.bind_eq_some_iff] at read
  obtain ⟨digits, read, within⟩ := read
  split at within
  · cases within
  · cases within
    obtain ⟨length, bounded⟩ := digits_of_digits? read
    exact (valueOf_lt bounded).trans_le (Nat.pow_le_pow_right positive
      (length.trans (length_dropPrefix_le numeral text)))

/-- A number has at most as many digits as its text has characters, and one less with a minus
sign. -/
theorem bounds_of_parse? {number : Int} (positive : 0 < numeral.base)
    (read : numeral.parse? text = some number) :
    -(numeral.base ^ (text.length - 1) : Nat) < number ∧
      number < (numeral.base ^ text.length : Nat) := by
  have trimmed := length_trim_le text
  have lt {rest : List Char} {count magnitude : Nat} (short : rest.length ≤ count)
      (found : numeral.magnitude? rest = some magnitude) : magnitude < numeral.base ^ count :=
    (lt_of_magnitude? positive found).trans_le (Nat.pow_le_pow_right positive short)
  have least : 0 < numeral.base ^ (text.length - 1) := Nat.pow_pos positive
  rw [parse?] at read
  split at read
  case h_1 rest cut =>
    rw [cut, List.length_cons] at trimmed
    obtain ⟨magnitude, found, rfl⟩ := Option.map_eq_some_iff.mp read
    have bound := lt (Nat.le_of_succ_le trimmed) found
    rw [Int.ofNat_eq_natCast]
    omega
  case h_2 rest cut =>
    rw [cut, List.length_cons] at trimmed
    obtain ⟨_, found, rfl⟩ := Option.map_eq_some_iff.mp read
    obtain ⟨magnitude, spelled, same⟩ := Option.bind_eq_some_iff.mp found
    cases same
    have bound := lt (Nat.le_sub_one_of_lt trimmed) spelled
    have most : 0 < numeral.base ^ text.length := Nat.pow_pos positive
    omega
  case h_3 rest _ _ =>
    obtain ⟨magnitude, found, rfl⟩ := Option.map_eq_some_iff.mp read
    have bound := lt trimmed found
    rw [Int.ofNat_eq_natCast]
    omega

/-! ## Decimal text -/

/-- A number is written in decimal digits that have its value, as few as there can be. -/
theorem exists_spells_repr (number : Nat) :
    ∃ digits, decimal.Spells number.repr.toList digits ∧ decimal.valueOf digits = number ∧
      (∀ limit, 0 < limit → number < 10 ^ limit → digits.length ≤ limit) ∧
      number.repr.toList ≠ [] ∧ ∀ c ∈ number.repr.toList, c.isAlphanum := by
  obtain ⟨digits, written, bounded, value⟩ := decimal.exists_toDigits_eq (by decide) number
  have written : Nat.toDigits 10 number = digits.map Nat.digitChar := written
  have text : number.repr.toList = digits.map Nat.digitChar := by
    rw [Nat.repr_eq_ofList_toDigits, String.toList_ofList, written]
  have length (limit : Nat) (positive : 0 < limit) (short : number < 10 ^ limit) :
      digits.length ≤ limit := by
    rw [← List.length_map Nat.digitChar, ← written]
    exact (Nat.length_toDigits_le_iff (by decide) positive).mpr short
  have nonempty : number.repr.toList ≠ [] := by
    rw [text, ← written]
    exact Nat.toDigits_ne_nil
  obtain ⟨spells, alphanum⟩ := spells_map_digitChar (by decide) bounded
  rw [← text] at spells alphanum
  exact ⟨digits, spells, value, length, nonempty, alphanum⟩

theorem toList_toString_negSucc (number : Nat) :
    (toString (Int.negSucc number)).toList = '-' :: number.succ.repr.toList := by
  change ("-" ++ number.succ.repr).toList = _
  rw [String.toList_append]
  rfl

theorem eq_minus_or_isAlphanum {number : Int} {c : Char}
    (member : c ∈ (toString number).toList) : c = '-' ∨ c.isAlphanum := by
  obtain ⟨-, -, -, -, -, alphanum⟩ := exists_spells_repr number.natAbs
  cases number with
  | ofNat number => exact .inr (alphanum c member)
  | negSucc number =>
      rw [toList_toString_negSucc] at member
      exact (List.mem_cons.mp member).imp_right (alphanum c)

/-- A whole number that is written in decimal is read back, unless it is very large. -/
theorem parse?_toString {number : Int} (short : number.natAbs < 10 ^ 4300) :
    decimal.parse? (toString number).toList = some number := by
  obtain ⟨digits, spells, value, length, nonempty, alphanum⟩ := exists_spells_repr number.natAbs
  have few : ∀ most ∈ decimal.maxDigits, digits.length ≤ most := by
    rintro most ⟨⟩
    exact length 4300 (by decide) short
  cases number with
  | ofNat number =>
      have read := parse?_of_spells spells nonempty alphanum (by decide) few
      rwa [value] at read
  | negSucc number =>
      have read := parse?_minus_of_spells spells nonempty alphanum (by decide) few
      rw [value] at read
      rw [toList_toString_negSucc]
      exact read

end Numeral

/-! ## Hexadecimal text -/

namespace Hex

/-- The digits of a number, with zeros in front, have its value. -/
theorem exists_padDigits_eq (width number : Nat) :
    ∃ digits, padDigits width number = digits.map Nat.digitChar ∧
      (∀ digit ∈ digits, digit < Numeral.hexadecimal.base) ∧
      Numeral.hexadecimal.valueOf digits = number := by
  obtain ⟨digits, written, bounded, value⟩ :=
    Numeral.hexadecimal.exists_toDigits_eq (by decide) number
  have written : Hex.digits number = digits.map Nat.digitChar := written
  refine ⟨List.replicate (width - digits.length) 0 ++ digits, ?_, ?_, ?_⟩
  · rw [padDigits, written, List.length_map, List.map_append, List.map_replicate]
    rfl
  · refine List.forall_mem_append.mpr ⟨fun digit member => ?_, bounded⟩
    rw [(List.mem_replicate.mp member).2]
    decide
  · rw [Numeral.valueOf_zeros_append, value]

theorem length_padDigits {width number : Nat} (positive : 0 < width)
    (short : number < 16 ^ width) : (padDigits width number).length = width := by
  have fits : (digits number).length ≤ width :=
    (Nat.length_toDigits_le_iff (by decide) positive).mpr short
  rw [padDigits, List.length_append, List.length_replicate]
  exact Nat.sub_add_cancel fits

end Hex

end Chip8.Text
