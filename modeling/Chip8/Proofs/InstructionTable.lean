import Chip8.Proofs.Decode

/-!
# The instruction table

The documented instruction set, row by row: which digits a word has to have and which architecture
brought it.  A word is decoded to an instruction exactly if some row of its architecture is about
it, so that a later architecture documents all that an earlier one does.
-/

namespace Chip8

/-- What a row of the instruction table asks of a digit. -/
inductive DigitForm where
  /-- Any digit will do. -/
  | free
  /-- Only this digit will do. -/
  | only (digit : Nat)
  /-- Every digit up to this one will do. -/
  | upTo (last : Nat)
deriving DecidableEq, Repr

/-- Whether a digit is of a form. -/
def DigitForm.Admits (digit : Digit) : DigitForm → Prop
  | .free => True
  | .only expected => digit.val = expected
  | .upTo last => digit.val ≤ last

instance (digit : Digit) (form : DigitForm) : Decidable (form.Admits digit) :=
  match form with
  | .free => inferInstanceAs (Decidable True)
  | .only expected => inferInstanceAs (Decidable (digit.val = expected))
  | .upTo last => inferInstanceAs (Decidable (digit.val ≤ last))

/-- A row of the instruction table. -/
structure Row where
  /-- The architecture that brought the instruction. -/
  since : Arch
  /-- First digit of its words. -/
  family : Nat
  /-- Second digit. -/
  x : DigitForm
  /-- Third digit. -/
  y : DigitForm
  /-- Last digit. -/
  n : DigitForm
deriving DecidableEq, Repr

/-- Whether a row is about a word. -/
def Row.Covers (word : Word) (row : Row) : Prop :=
  word.family.val = row.family ∧
    row.x.Admits word.x ∧ row.y.Admits word.y ∧ row.n.Admits word.n

instance (word : Word) (row : Row) : Decidable (row.Covers word) :=
  inferInstanceAs (Decidable (_ ∧ _ ∧ _ ∧ _))

/-- The documented instructions. -/
def instructionTable : List Row :=
  [ -- Do nothing, clear, return; jump, call
    ⟨.chip8, 0x0, .only 0x0, .only 0x0, .only 0x0⟩,
    ⟨.chip8, 0x0, .only 0x0, .only 0xE, .only 0x0⟩,
    ⟨.chip8, 0x0, .only 0x0, .only 0xE, .only 0xE⟩,
    ⟨.chip8, 0x1, .free, .free, .free⟩,
    ⟨.chip8, 0x2, .free, .free, .free⟩,
    -- Skips over a byte or a register
    ⟨.chip8, 0x3, .free, .free, .free⟩,
    ⟨.chip8, 0x4, .free, .free, .free⟩,
    ⟨.chip8, 0x5, .free, .free, .only 0x0⟩,
    ⟨.chip8, 0x9, .free, .free, .only 0x0⟩,
    -- Registers
    ⟨.chip8, 0x6, .free, .free, .free⟩,
    ⟨.chip8, 0x7, .free, .free, .free⟩,
    ⟨.chip8, 0x8, .free, .free, .upTo 0x7⟩,
    ⟨.chip8, 0x8, .free, .free, .only 0xE⟩,
    -- Index, indexed jump, random byte, sprite
    ⟨.chip8, 0xA, .free, .free, .free⟩,
    ⟨.chip8, 0xB, .free, .free, .free⟩,
    ⟨.chip8, 0xC, .free, .free, .free⟩,
    ⟨.chip8, 0xD, .free, .free, .free⟩,
    -- Keys, timers, and memory at I
    ⟨.chip8, 0xE, .free, .only 0x9, .only 0xE⟩,
    ⟨.chip8, 0xE, .free, .only 0xA, .only 0x1⟩,
    ⟨.chip8, 0xF, .free, .only 0x0, .only 0x7⟩,
    ⟨.chip8, 0xF, .free, .only 0x1, .only 0x5⟩,
    ⟨.chip8, 0xF, .free, .only 0x1, .only 0x8⟩,
    ⟨.chip8, 0xF, .free, .only 0x0, .only 0xA⟩,
    ⟨.chip8, 0xF, .free, .only 0x1, .only 0xE⟩,
    ⟨.chip8, 0xF, .free, .only 0x2, .only 0x9⟩,
    ⟨.chip8, 0xF, .free, .only 0x3, .only 0x3⟩,
    ⟨.chip8, 0xF, .free, .only 0x5, .only 0x5⟩,
    ⟨.chip8, 0xF, .free, .only 0x6, .only 0x5⟩,
    -- Restart and resolution
    ⟨.superChip, 0x0, .only 0x0, .only 0xF, .only 0xD⟩,
    ⟨.superChip, 0x0, .only 0x0, .only 0xF, .only 0xE⟩,
    ⟨.superChip, 0x0, .only 0x0, .only 0xF, .only 0xF⟩,
    -- Persistent flags, eight at first and then all sixteen
    ⟨.superChip, 0xF, .upTo 0x7, .only 0x7, .only 0x5⟩,
    ⟨.superChip, 0xF, .upTo 0x7, .only 0x8, .only 0x5⟩,
    ⟨.xoChip, 0xF, .free, .only 0x7, .only 0x5⟩,
    ⟨.xoChip, 0xF, .free, .only 0x8, .only 0x5⟩,
    -- Scrolls and large digits
    ⟨.superChip, 0x0, .only 0x0, .only 0xC, .free⟩,
    ⟨.superChip, 0x0, .only 0x0, .only 0xF, .only 0xB⟩,
    ⟨.superChip, 0x0, .only 0x0, .only 0xF, .only 0xC⟩,
    ⟨.superChip, 0xF, .free, .only 0x3, .only 0x0⟩,
    ⟨.xoChip, 0x0, .only 0x0, .only 0xD, .free⟩,
    -- Register ranges, long index, planes and sampled sound
    ⟨.xoChip, 0x5, .free, .free, .only 0x2⟩,
    ⟨.xoChip, 0x5, .free, .free, .only 0x3⟩,
    ⟨.xoChip, 0xF, .only 0x0, .only 0x0, .only 0x0⟩,
    ⟨.xoChip, 0xF, .upTo 0x3, .only 0x0, .only 0x1⟩,
    ⟨.xoChip, 0xF, .only 0x0, .only 0x0, .only 0x2⟩,
    ⟨.xoChip, 0xF, .free, .only 0x3, .only 0xA⟩]

namespace Word

/-- Whether a row that the architecture has is about the word. -/
def Documented (arch : Arch) (word : Word) : Prop :=
  ∃ row ∈ instructionTable, arch.includes row.since ∧ row.Covers word

instance (arch : Arch) (word : Word) : Decidable (word.Documented arch) :=
  inferInstanceAs (Decidable (∃ row ∈ instructionTable, _))

variable {arch : Arch} {word : Word}

theorem Documented.of_includes {newer older : Arch} (included : newer.includes older)
    (documented : word.Documented older) : word.Documented newer := by
  obtain ⟨row, member, since, covers⟩ := documented
  exact ⟨row, member, Arch.includes_trans included since, covers⟩

/-- Only the rows of its family can be about a word. -/
theorem documented_iff_of_family {family : Nat} (found : word.family.val = family) :
    word.Documented arch ↔
      ∃ row ∈ instructionTable.filter (·.family = family), arch.includes row.since ∧
        row.x.Admits word.x ∧ row.y.Admits word.y ∧ row.n.Admits word.n := by
  simp only [Documented, Row.Covers, found, List.mem_filter, decide_eq_true_eq]
  constructor
  · rintro ⟨row, member, since, same, admits⟩
    exact ⟨row, ⟨member, same.symm⟩, since, admits⟩
  · rintro ⟨row, ⟨member, same⟩, since, admits⟩
    exact ⟨row, member, since, same.symm, admits⟩

end Word

@[simp]
theorem Arch.includes_chip8 (arch : Arch) : arch.includes .chip8 = true :=
  decide_eq_true (Nat.zero_le _)

/-! ## Families read by their last digits -/

namespace Decoding

variable {arch : Arch} {word : Word}

-- Digits are compared as numbers, so that a simp lemma on zero has to be kept out below.

theorem system_reads_iff (family : word.family.val = 0x0) :
    (∃ instruction, system arch word = .instruction instruction) ↔ word.Documented arch := by
  rw [Word.documented_iff_of_family family]
  unfold system
  split <;> simp_all [-Fin.val_eq_zero_iff, since_eq_instruction, instructionTable,
    DigitForm.Admits]

theorem compare_reads_iff (family : word.family.val = 0x5) :
    (∃ instruction, compare arch word = .instruction instruction) ↔ word.Documented arch := by
  rw [Word.documented_iff_of_family family]
  unfold compare
  split <;> simp_all [-Fin.val_eq_zero_iff, since_eq_instruction, instructionTable,
    DigitForm.Admits]

/-- The last digits that name an operation. -/
theorem exists_arithmetic?_iff (digit : Nat) :
    (∃ operation, arithmetic? digit = some operation) ↔ digit ≤ 0x7 ∨ digit = 0xE := by
  unfold arithmetic?
  split <;> simp_all
  omega

theorem combine_reads_iff (family : word.family.val = 0x8) :
    (∃ instruction, combine word = .instruction instruction) ↔ word.Documented arch := by
  have named := exists_arithmetic?_iff word.n
  rw [Word.documented_iff_of_family family]
  rcases operation : arithmetic? word.n with _ | operation <;>
    simp_all [-Fin.val_eq_zero_iff, combine, instructionTable, DigitForm.Admits]

theorem keypad_reads_iff (family : word.family.val = 0xE) :
    (∃ instruction, keypad word = .instruction instruction) ↔ word.Documented arch := by
  rw [Word.documented_iff_of_family family]
  unfold keypad
  split <;> simp_all [-Fin.val_eq_zero_iff, instructionTable, DigitForm.Admits]

theorem device_reads_iff (family : word.family.val = 0xF) :
    (∃ instruction, device arch word = .instruction instruction) ↔ word.Documented arch := by
  have no_register : word.x = 0 ↔ word.x.val = 0 := Fin.ext_iff
  have few_registers : word.x ≤ 7 ↔ word.x.val ≤ 7 := Iff.rfl
  have few_planes : word.x ≤ 3 ↔ word.x.val ≤ 3 := Iff.rfl
  rw [Word.documented_iff_of_family family]
  -- The family has eighteen rows, which are picked out once and not again for each reading.
  simp only [instructionTable, List.filter, Nat.reduceEqDiff, decide_true, decide_false,
    List.mem_cons, List.not_mem_nil, or_false, exists_eq_or_imp, exists_eq_left, DigitForm.Admits,
    Arch.includes_chip8, true_and]
  unfold device
  split <;> simp_all [-Fin.val_eq_zero_iff, since_eq_instruction, plain_eq_instruction,
    flags_eq_instruction, planes_eq_instruction]
  case h_1 | h_3 => exact and_comm
  case h_15 | h_16 => exact or_comm

end Decoding

/-- An architecture reads an instruction in a word exactly if it documents one. -/
theorem Word.decode_reads_iff {arch : Arch} {word : Word} :
    (∃ instruction, word.decode arch = .instruction instruction) ↔ word.Documented arch := by
  unfold decode
  split
  case h_1 family => exact Decoding.system_reads_iff family
  case h_6 family => exact Decoding.compare_reads_iff family
  case h_9 family => exact Decoding.combine_reads_iff family
  case h_15 family => exact Decoding.keypad_reads_iff family
  case h_16 =>
    have last := word.family.isLt
    exact Decoding.device_reads_iff (by simp only [imp_false] at *; omega)
  case h_10 family =>
    have plain : word.n = 0 ↔ word.n.val = 0 := Fin.ext_iff
    rw [documented_iff_of_family family]
    split <;> simp_all [-Fin.val_eq_zero_iff, instructionTable, DigitForm.Admits]
  all_goals
    rename_i family
    rw [documented_iff_of_family family]
    simp [instructionTable, DigitForm.Admits]

example : Word.Documented .xoChip ⟨0x5122⟩ ∧ ¬ Word.Documented .superChip ⟨0x5122⟩ := by decide

end Chip8
