import Chip8.Instruction.Decode

/-!
# What decoding accepts

Every instruction has one spelling and a condition on the architectures that have it.  A word is
only ever decoded to an instruction whose spelling it is and which the architecture has, and a
later architecture reads a word as the earlier ones do.
-/

namespace Chip8

/-! ## Spelling -/

/-- The word that spells a skip. -/
def Condition.opcode : Condition → Nat
  | .byteEqual x byte => 0x3000 + x * 0x100 + byte.toNat
  | .byteUnequal x byte => 0x4000 + x * 0x100 + byte.toNat
  | .equal x y => 0x5000 + x * 0x100 + y * 0x10
  | .unequal x y => 0x9000 + x * 0x100 + y * 0x10
  | .held x => 0xE09E + x * 0x100
  | .released x => 0xE0A1 + x * 0x100

/-- The last digit of the word that spells an operation. -/
def Arithmetic.digit : Arithmetic → Nat
  | .copy => 0x0
  | .or => 0x1
  | .and => 0x2
  | .xor => 0x3
  | .add => 0x4
  | .subtract => 0x5
  | .shiftRight => 0x6
  | .subtractFrom => 0x7
  | .shiftLeft => 0xE

namespace Instruction

/-- The word that spells an instruction.  Horizontal scrolls have no room for a count. -/
def opcode : Instruction → Nat
  | .nop => 0x0000
  | .clear => 0x00E0
  | .ret => 0x00EE
  | .jump address => 0x1000 + address
  | .call address => 0x2000 + address
  | .skip condition => condition.opcode
  | .setByte x byte => 0x6000 + x * 0x100 + byte.toNat
  | .addByte x byte => 0x7000 + x * 0x100 + byte.toNat
  | .arithmetic operation x y => 0x8000 + x * 0x100 + y * 0x10 + operation.digit
  | .setIndex address => 0xA000 + address
  | .jumpIndexed address => 0xB000 + address
  | .random x mask => 0xC000 + x * 0x100 + mask.toNat
  | .draw x y rows => 0xD000 + x * 0x100 + y * 0x10 + rows
  | .readDelay x => 0xF007 + x * 0x100
  | .awaitKey x => 0xF00A + x * 0x100
  | .setDelay x => 0xF015 + x * 0x100
  | .setSound x => 0xF018 + x * 0x100
  | .addIndex x => 0xF01E + x * 0x100
  | .smallDigit x => 0xF029 + x * 0x100
  | .storeDecimal x => 0xF033 + x * 0x100
  | .store x => 0xF055 + x * 0x100
  | .load x => 0xF065 + x * 0x100
  | .scroll .down count => 0x00C0 + count
  | .scroll .up count => 0x00D0 + count
  | .scroll .right _ => 0x00FB
  | .scroll .left _ => 0x00FC
  | .restart => 0x00FD
  | .resolution false => 0x00FE
  | .resolution true => 0x00FF
  | .largeDigit x => 0xF030 + x * 0x100
  | .saveFlags x => 0xF075 + x * 0x100
  | .loadFlags x => 0xF085 + x * 0x100
  | .storeRange x y => 0x5002 + x * 0x100 + y * 0x10
  | .loadRange x y => 0x5003 + x * 0x100 + y * 0x10
  | .setIndexLong => 0xF000
  | .selectPlanes mask => 0xF001 + mask * 0x100
  | .loadPattern => 0xF002
  | .setPitch x => 0xF03A + x * 0x100

/-- Whether an architecture has an instruction with these operands. -/
def Supported (arch : Arch) : Instruction → Prop
  | .scroll .down _ => arch.includes .superChip
  | .scroll .up _ => arch.includes .xoChip
  | .scroll .right count | .scroll .left count => arch.includes .superChip ∧ count = 4
  | .restart | .resolution _ | .largeDigit _ => arch.includes .superChip
  | .saveFlags x | .loadFlags x => arch.includes .xoChip ∨ arch.includes .superChip ∧ x ≤ 7
  | .storeRange _ _ | .loadRange _ _ | .setIndexLong | .loadPattern | .setPitch _ =>
      arch.includes .xoChip
  | .selectPlanes mask => arch.includes .xoChip ∧ mask ≤ 3
  | _ => True

end Instruction

/-! ## Digits of a word -/

namespace Word

theorem value_eq (word : Word) : word.value.val =
    word.family * 0x1000 + word.x * 0x100 + word.y * 0x10 + word.n := by
  have := word.value.isLt
  simp only [family, x, y, n]
  omega

theorem address_eq (word : Word) :
    word.address.val = word.x * 0x100 + word.y * 0x10 + word.n := by
  simp only [address, x, y, n]
  omega

theorem byte_eq (word : Word) : word.byte.toNat = word.y * 0x10 + word.n := by
  have lt : word.value.val % 0x100 < 2 ^ 8 := Nat.mod_lt _ (by decide)
  simp only [byte, y, n, UInt8.toNat_ofNat', Nat.mod_eq_of_lt lt]
  omega

theorem ofInt?_value (word : Word) : ofInt? word.value = some word := by
  have fits := word.value.isLt
  have range : 0 ≤ (word.value : Int) ∧ (word.value : Int) < 0x10000 := by omega
  simp [ofInt?, range]

end Word

/-! ## Readings of the word families -/

namespace Decoding

variable {arch : Arch} {word : Word} {meaning instruction : Instruction}

theorem since_eq_instruction {base : Arch} :
    since arch base meaning = .instruction instruction ↔
      arch.includes base ∧ meaning = instruction := by
  rw [since]
  split <;> simp_all

theorem plain_eq_instruction :
    plain arch word meaning = .instruction instruction ↔
      word.x = 0 ∧ arch.includes .xoChip ∧ meaning = instruction := by
  rw [plain]
  split <;> simp_all [since_eq_instruction]

theorem flags_eq_instruction :
    flags arch word meaning = .instruction instruction ↔
      (arch.includes .xoChip ∨ arch.includes .superChip ∧ word.x ≤ 7) ∧
        meaning = instruction := by
  rw [flags]
  by_cases extended : arch.includes .xoChip
  · simp [extended]
  · by_cases super : arch.includes .superChip
    · by_cases few : word.x ≤ 7 <;> simp [extended, super, few]
    · simp [extended, super]

theorem planes_eq_instruction :
    planes arch word = .instruction instruction ↔
      (arch.includes .xoChip ∧ word.x ≤ 3) ∧ .selectPlanes word.x = instruction := by
  rw [planes]
  by_cases extended : arch.includes .xoChip
  · by_cases few : word.x ≤ 3 <;> simp [extended, few]
  · simp [extended]

private theorem system_spelled (family : word.family.val = 0)
    (read : system arch word = .instruction instruction) :
    word.value = instruction.opcode ∧ instruction.Supported arch := by
  rw [word.value_eq]
  unfold system at read
  split at read <;>
    simp only [since_eq_instruction, Decoding.instruction.injEq, reduceCtorEq] at read
  case' h_1 | h_2 | h_3 => subst read
  case' h_4 | h_5 | h_6 | h_7 | h_8 | h_9 | h_10 => obtain ⟨included, rfl⟩ := read
  all_goals simp only [Instruction.opcode, Instruction.Supported, *]
  all_goals simp

private theorem compare_spelled (family : word.family.val = 5)
    (read : compare arch word = .instruction instruction) :
    word.value = instruction.opcode ∧ instruction.Supported arch := by
  rw [word.value_eq]
  unfold compare at read
  split at read <;>
    simp only [since_eq_instruction, Decoding.instruction.injEq, reduceCtorEq] at read
  case' h_1 => subst read
  case' h_2 | h_3 => obtain ⟨included, rfl⟩ := read
  all_goals simp only [Instruction.opcode, Condition.opcode, Instruction.Supported, *]
  all_goals simp
  all_goals omega

private theorem digit_of_arithmetic? {number : Nat} {operation : Arithmetic}
    (named : arithmetic? number = some operation) : operation.digit = number := by
  unfold arithmetic? at named
  split at named <;> cases named <;> rfl

private theorem combine_spelled (family : word.family.val = 8)
    (read : combine word = .instruction instruction) :
    word.value = instruction.opcode ∧ instruction.Supported arch := by
  rw [word.value_eq]
  unfold combine at read
  split at read
  · rename_i operation named
    cases read
    simp [Instruction.opcode, Instruction.Supported, digit_of_arithmetic? named, family]
  · cases read

private theorem keypad_spelled (family : word.family.val = 14)
    (read : keypad word = .instruction instruction) :
    word.value = instruction.opcode ∧ instruction.Supported arch := by
  rw [word.value_eq]
  unfold keypad at read
  split at read <;> cases read
  all_goals simp only [Instruction.opcode, Condition.opcode, Instruction.Supported, *]
  all_goals simp
  all_goals omega

private theorem device_spelled (family : word.family.val = 15)
    (read : device arch word = .instruction instruction) :
    word.value = instruction.opcode ∧ instruction.Supported arch := by
  rw [word.value_eq]
  unfold device at read
  split at read <;>
    simp only [since_eq_instruction, plain_eq_instruction, flags_eq_instruction,
      planes_eq_instruction, Decoding.instruction.injEq, reduceCtorEq] at read
  case' h_1 | h_3 => obtain ⟨plain, included, rfl⟩ := read
  case' h_2 | h_10 | h_12 | h_15 | h_16 => obtain ⟨included, rfl⟩ := read
  case' h_4 | h_5 | h_6 | h_7 | h_8 | h_9 | h_11 | h_13 | h_14 => subst read
  all_goals simp only [Instruction.opcode, Instruction.Supported, *, Fin.val_zero]
  all_goals simp
  all_goals omega

end Decoding

namespace Word

variable {arch : Arch} {word : Word} {instruction : Instruction}

/-- A word is decoded only to an instruction that it spells and that the architecture has. -/
theorem opcode_of_decode (decoded : word.decode arch = .instruction instruction) :
    word.value = instruction.opcode ∧ instruction.Supported arch := by
  have last := word.family.isLt
  have digits := word.value_eq
  have address := word.address_eq
  have byte := word.byte_eq
  unfold decode at decoded
  split at decoded
  case h_1 family => exact Decoding.system_spelled family decoded
  case h_6 family => exact Decoding.compare_spelled family decoded
  case h_9 family => exact Decoding.combine_spelled family decoded
  case h_15 family => exact Decoding.keypad_spelled family decoded
  case h_16 =>
    simp only [imp_false] at *
    exact Decoding.device_spelled (by omega) decoded
  case h_10 family =>
    split at decoded
    case isTrue zero =>
      cases decoded
      simp [Instruction.opcode, Condition.opcode, Instruction.Supported, digits, family, zero]
    case isFalse => cases decoded
  all_goals
    cases decoded
    simp only [Instruction.opcode, Condition.opcode, Instruction.Supported, and_true]
    omega

/-- Every architecture reads a word of family 2 as a call. -/
theorem decode_of_call (call : word.value.val / 0x1000 = 2) :
    word.decode arch = .instruction (.call word.address) := by
  have family : word.family.val = 2 := call
  simp only [decode, family]

theorem decode_of_return (ret : word.value.val = 0x00EE) :
    word.decode arch = .instruction .ret := by
  rcases word with ⟨value⟩
  obtain rfl : value = 0x00EE := Fin.ext ret
  rfl

theorem eq_setIndexLong_of_decode (long : word.value.val = 0xF000)
    (decoded : word.decode arch = .instruction instruction) : .setIndexLong = instruction := by
  rcases word with ⟨value⟩
  obtain rfl : value = 0xF000 := Fin.ext long
  have read : Decoding.plain arch ⟨0xF000⟩ .setIndexLong = .instruction instruction := decoded
  exact (Decoding.plain_eq_instruction.mp read).2.2

theorem decode_supported (decoded : word.decode arch = .instruction instruction) :
    instruction.Supported arch :=
  (opcode_of_decode decoded).2

end Word

/-! ## Later architectures -/

theorem Arch.includes_trans {newest newer old : Arch} (first : newest.includes newer)
    (second : newer.includes old) : newest.includes old := by
  simp only [Arch.includes, decide_eq_true_eq] at first second ⊢
  exact Nat.le_trans second first

namespace Decoding

variable {newer old : Arch} {word : Word} {meaning instruction : Instruction}

private theorem since_of_includes {base : Arch} (included : newer.includes old)
    (read : since old base meaning = .instruction instruction) :
    since newer base meaning = .instruction instruction := by
  rw [since_eq_instruction] at read ⊢
  exact ⟨Arch.includes_trans included read.1, read.2⟩

private theorem system_of_includes (included : newer.includes old)
    (read : system old word = .instruction instruction) :
    system newer word = .instruction instruction := by
  unfold system at read ⊢
  split at read
  case h_1 | h_2 | h_3 | h_11 => exact read
  all_goals exact since_of_includes included read

private theorem compare_of_includes (included : newer.includes old)
    (read : compare old word = .instruction instruction) :
    compare newer word = .instruction instruction := by
  unfold compare at read ⊢
  split at read
  case h_1 | h_4 => exact read
  all_goals exact since_of_includes included read

private theorem plain_of_includes (included : newer.includes old)
    (read : plain old word meaning = .instruction instruction) :
    plain newer word meaning = .instruction instruction := by
  rw [plain_eq_instruction] at read ⊢
  exact ⟨read.1, Arch.includes_trans included read.2.1, read.2.2⟩

private theorem flags_of_includes (included : newer.includes old)
    (read : flags old word meaning = .instruction instruction) :
    flags newer word meaning = .instruction instruction := by
  rw [flags_eq_instruction] at read ⊢
  refine ⟨?_, read.2⟩
  rcases read.1 with extended | ⟨super, few⟩
  · exact Or.inl (Arch.includes_trans included extended)
  · exact Or.inr ⟨Arch.includes_trans included super, few⟩

private theorem planes_of_includes (included : newer.includes old)
    (read : planes old word = .instruction instruction) :
    planes newer word = .instruction instruction := by
  rw [planes_eq_instruction] at read ⊢
  exact ⟨⟨Arch.includes_trans included read.1.1, read.1.2⟩, read.2⟩

private theorem device_of_includes (included : newer.includes old)
    (read : device old word = .instruction instruction) :
    device newer word = .instruction instruction := by
  unfold device at read ⊢
  split at read
  case h_1 | h_3 => exact plain_of_includes included read
  case h_2 => exact planes_of_includes included read
  case h_10 | h_12 => exact since_of_includes included read
  case h_15 | h_16 => exact flags_of_includes included read
  all_goals exact read

end Decoding

/-- What an architecture makes of a word, every later one makes of it as well. -/
theorem Word.decode_of_includes {newer old : Arch} {word : Word} {instruction : Instruction}
    (included : newer.includes old) (decoded : word.decode old = .instruction instruction) :
    word.decode newer = .instruction instruction := by
  unfold Word.decode at decoded ⊢
  split at decoded
  case h_1 => exact Decoding.system_of_includes included decoded
  case h_6 => exact Decoding.compare_of_includes included decoded
  case h_16 => exact Decoding.device_of_includes included decoded
  all_goals exact decoded

end Chip8
