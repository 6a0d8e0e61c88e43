import Chip8.Proofs.Spelling

/-!
# Arithmetic on registers

An operation takes the numbers in its two registers before it writes anything, and writes its flag
last.  So it comes to the same whether its registers are two or one, and whether one of them is VF.
-/

namespace Chip8

/-! ## Numbers -/

namespace Arithmetic

/-- The number that a shift moves. -/
def shifted (dialect : Dialect) (a b : Nat) : Nat := if dialect .shiftInPlace then a else b

/-- The result of an operation on two numbers, modulo 256. -/
def result (dialect : Dialect) (a b : Nat) : Arithmetic → Nat
  | .copy => b
  | .or => a ||| b
  | .and => a &&& b
  | .xor => a ^^^ b
  | .add => (a + b) % 256
  | .subtract => ((a - b : Int) % 256).toNat
  | .subtractFrom => ((b - a : Int) % 256).toNat
  | .shiftRight => shifted dialect a b / 2
  | .shiftLeft => 2 * shifted dialect a b % 256

/-- The flag that an operation on two numbers leaves, if it writes one. -/
def flag? (dialect : Dialect) (a b : Nat) : Arithmetic → Option Nat
  | .copy => none
  | .or | .and | .xor => if dialect .flagReset then some 0 else none
  | .add => some (if 255 < a + b then 1 else 0)
  | .subtract => some (if b ≤ a then 1 else 0)
  | .subtractFrom => some (if a ≤ b then 1 else 0)
  | .shiftRight => some (shifted dialect a b % 2)
  | .shiftLeft => some (shifted dialect a b / 128)

variable (dialect : Dialect) (a b : UInt8) (operation : Arithmetic)

theorem shifted_toNat :
    shifted dialect a.toNat b.toNat = (if dialect .shiftInPlace then a else b).toNat := by
  rw [shifted]
  split <;> rfl

/-- Bytes subtract as numbers do, modulo 256. -/
theorem toNat_sub_eq_emod : (a - b).toNat = ((a.toNat - b.toNat : Int) % 256).toNat := by
  have a_lt := a.toNat_lt
  have b_lt := b.toNat_lt
  rw [UInt8.toNat_sub]
  omega

theorem toNat_shiftRight_one : (a >>> 1).toNat = a.toNat / 2 := by
  rw [UInt8.toNat_shiftRight]
  exact Nat.shiftRight_eq_div_pow a.toNat 1

theorem toNat_shiftRight_seven : (a >>> 7).toNat = a.toNat / 128 := by
  rw [UInt8.toNat_shiftRight]
  exact Nat.shiftRight_eq_div_pow a.toNat 7

theorem toNat_shiftLeft_one : (a <<< 1).toNat = 2 * a.toNat % 256 := by
  have one : (1 : UInt8).toNat % 8 = 1 := rfl
  rw [UInt8.toNat_shiftLeft, one, Nat.shiftLeft_eq, Nat.mul_comm]

theorem toNat_and_one : (a &&& 1).toNat = a.toNat % 2 := by
  rw [UInt8.toNat_and]
  exact Nat.and_one_is_mod a.toNat

/-- The result is that of the numbers. -/
theorem toNat_apply :
    (operation.apply dialect a b).1.toNat = operation.result dialect a.toNat b.toNat := by
  cases operation with
  | copy => rfl
  | or => exact UInt8.toNat_or a b
  | and => exact UInt8.toNat_and a b
  | xor => exact UInt8.toNat_xor a b
  | add => exact UInt8.toNat_add a b
  | subtract => exact toNat_sub_eq_emod a b
  | subtractFrom => exact toNat_sub_eq_emod b a
  | shiftRight => rw [apply, result, shifted_toNat, toNat_shiftRight_one]
  | shiftLeft => rw [apply, result, shifted_toNat, toNat_shiftLeft_one]

/-- The flag is that of the numbers. -/
theorem flag?_apply :
    (operation.apply dialect a b).2.map UInt8.toNat = operation.flag? dialect a.toNat b.toNat := by
  have logical : (if dialect .flagReset then some (0 : UInt8) else none).map UInt8.toNat =
      if dialect .flagReset then some 0 else none := by
    split <;> rfl
  cases operation with
  | copy => rfl
  | or | and | xor => exact logical
  | add =>
      simp only [apply, flag?, Option.map_some]
      split <;> rfl
  | subtract | subtractFrom =>
      simp only [apply, flag?, Option.map_some, UInt8.le_iff_toNat_le]
      split <;> rfl
  | shiftRight => rw [apply, flag?, shifted_toNat, ← toNat_and_one, Option.map_some]
  | shiftLeft => rw [apply, flag?, shifted_toNat, ← toNat_shiftRight_seven, Option.map_some]

end Arithmetic

/-! ## Registers -/

/-- What an operation on Vx and Vy leaves in the registers. -/
structure Arithmetic.Leaves (dialect : Dialect) (operation : Arithmetic) (x y : Digit)
    (before after : Registers) : Prop where
  /-- VF has the flag, if there is one. -/
  flag : ∀ flag ∈ operation.flag? dialect (before.read x).toNat (before.read y).toNat,
    (after.read 15).toNat = flag
  /-- Vx has the result, unless it is VF and has the flag. -/
  result : operation.flag? dialect (before.read x).toNat (before.read y).toNat = none ∨ x ≠ 15 →
    (after.read x).toNat =
      operation.result dialect (before.read x).toNat (before.read y).toNat
  /-- Every other register has what it had. -/
  others : ∀ r ≠ x,
    operation.flag? dialect (before.read x).toNat (before.read y).toNat = none ∨ r ≠ 15 →
      after.read r = before.read r

/-- A result and a flag that is written last are what the operation leaves. -/
theorem Arithmetic.exists_combine_eq {machine : Machine} (full : machine.v.size = 16)
    (dialect : Dialect) (operation : Arithmetic) (x y : Digit) :
    ∃ v, machine.combine dialect operation x y = ({ machine with v }, .ok ()) ∧
      operation.Leaves dialect x y machine.v v := by
  have result_eq := operation.toNat_apply dialect (machine.v.read x) (machine.v.read y)
  have flag_eq := operation.flag?_apply dialect (machine.v.read x) (machine.v.read y)
  have wide (value : UInt8) := (machine.v.size_write x value).trans full
  rw [Machine.combine]
  generalize operation.apply dialect (machine.v.read x) (machine.v.read y) = outcome at *
  rcases outcome with ⟨result, _ | flag⟩
  · refine ⟨machine.v.write x result, rfl, ?_, fun _ => ?_, fun r other _ => ?_⟩
    · rw [← flag_eq]
      rintro _ ⟨⟩
    · rw [Registers.read_write_self full, ← result_eq]
    · exact machine.v.read_write_of_ne other result
  · refine ⟨(machine.v.write x result).write 15 flag, ?_, ?_, fun apart => ?_,
      fun r other apart => ?_⟩
    · exact congrArg (Prod.mk _) (Registers.demand_of_full (wide result) [15])
    · rintro written found
      rw [← flag_eq] at found
      rw [Registers.read_write_self (wide result)]
      exact Option.some.inj found
    · rw [← flag_eq] at apart
      rw [Registers.read_write_of_ne _ (apart.resolve_left (Option.some_ne_none flag.toNat)),
        Registers.read_write_self full, ← result_eq]
    · rw [← flag_eq] at apart
      rw [Registers.read_write_of_ne _ (apart.resolve_left (Option.some_ne_none flag.toNat)),
        Registers.read_write_of_ne _ other]

namespace Processor

variable {processor : Processor}

/-- Arithmetic is right whichever registers it is about: the numbers that Vx and Vy had give the
result and the flag, and adding a byte never gives a flag. -/
theorem arithmetic_aliased (full : processor.machine.v.size = 16) (x : Digit) :
    (∀ (operation : Arithmetic) (y : Digit),
      let opcode : Nat := 0x8000 + x * 0x100 + y * 0x10 + operation.digit
      ∃ (v : Registers) (lines : List String),
        processor.execute opcode =
          ⟨{ processor with opcode, machine := { processor.machine with v } }, lines, .ok ()⟩ ∧
        operation.Leaves processor.dialect x y processor.machine.v v) ∧
    ∀ byte : UInt8,
      let opcode : Nat := 0x7000 + x * 0x100 + byte.toNat
      ∃ (v : Registers) (lines : List String),
        processor.execute opcode =
          ⟨{ processor with opcode, machine := { processor.machine with v } }, lines, .ok ()⟩ ∧
        (v.read x).toNat = ((processor.machine.v.read x).toNat + byte.toNat) % 256 ∧
        ∀ r ≠ x, v.read r = processor.machine.v.read r := by
  have x_lt := x.isLt
  constructor
  · intro operation y opcode
    have y_lt := y.isLt
    have digit_lt : operation.digit < 16 := by cases operation <;> decide
    obtain ⟨word, spelled, value_eq⟩ := Word.exists_of_lt (show opcode < 0x10000 by omega)
    obtain ⟨lines, executed⟩ :=
      exists_execute_eq full spelled (Word.decode_of_arithmetic value_eq)
    obtain ⟨v, combined, leaves⟩ := operation.exists_combine_eq full processor.dialect x y
    refine ⟨v, lines, ?_, leaves⟩
    rw [executed, Machine.perform, combined]
    rfl
  · intro byte opcode
    have byte_lt := byte.toNat_lt
    obtain ⟨word, spelled, value_eq⟩ := Word.exists_of_lt (show opcode < 0x10000 by omega)
    obtain ⟨lines, executed⟩ := exists_execute_eq full spelled (Word.decode_of_addByte value_eq)
    refine ⟨processor.machine.v.write x (processor.machine.v.read x + byte), lines, executed, ?_,
      fun r other => Registers.read_write_of_ne _ other _⟩
    rw [Registers.read_write_self full, UInt8.toNat_add]

/-- On a machine full of the largest byte, doubling VF leaves the carry in it. -/
theorem arithmetic_aliased_flag_doubled :
    let switchedOn := powerOn .chip8 (.standard .chip8) false []
    let processor := { switchedOn with
      machine := { switchedOn.machine with v := Array.replicate 16 0xFF } }
    processor.machine.v.size = 16 ∧
      ∃ (v : Registers) (lines : List String),
        processor.execute 0x8FF4 = ⟨{ processor with
          opcode := 0x8FF4, machine := { processor.machine with v } }, lines, .ok ()⟩ ∧
        (v.read 15).toNat = 1 ∧ v.read 14 = 0xFF := by
  intro switchedOn processor
  have full : processor.machine.v.size = 16 := Array.size_replicate
  obtain ⟨v, lines, executed, leaves⟩ := (@arithmetic_aliased processor full 15).1 .add 15
  have kept := leaves.others 14 (by decide) (.inr (by decide))
  exact ⟨full, v, lines, executed, leaves.flag 1 rfl, kept⟩

end Processor

end Chip8
